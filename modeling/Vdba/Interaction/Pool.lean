import Vdba.Interaction.Ensures

namespace Interaction
variable {S : Iface} {ε W T C E N : Type}

/-- A world that executes operations. What the outside decides is the choice `C`; some choices are
impossible in a world. `env` moves the world on its own, `reset` is what is left when the process dies. -/
structure Machine (S : Iface) (ε W T C E : Type) where
  exec : T → (op : S.Op) → C → W → Option (Except ε (S.Ans op) × W)
  env : E → W → Option W
  reset : W → W

/-- The world and the threads that were started in the running process. -/
structure Pool (S : Iface) (ε W T : Type) where
  world : W
  threads : T → Option (Prog S ε Unit)

/-- One scheduling decision; `N` names the programs a thread may be started with. -/
inductive Label (T C E N : Type)
  | spawn (t : T) (entry : N)
  | run (t : T) (choice : C)
  | env (event : E)
  | kill

/-- One step of a program: its first operation, or the unfolding of its loop. -/
def Prog.advance (M : Machine S ε W T C E) (t : T) (choice : C) {α : Type} :
    Prog S ε α → W → Option (Prog S ε α × W)
  | .ret _, _ => none
  | .raise _, _ => none
  | .call op next, w => (M.exec t op choice w).map fun result => (next result.1, result.2)
  | .iter body next, w => some (body.bind (.again body next), w)

namespace Pool
variable [DecidableEq T]

def setThread (s : Pool S ε W T) (t : T) (p : Prog S ε Unit) : T → Option (Prog S ε Unit) :=
  fun u => if u = t then some p else s.threads u

def step (M : Machine S ε W T C E) (entry : T → N → Prog S ε Unit) :
    Label T C E N → Pool S ε W T → Option (Pool S ε W T)
  | .spawn t name, s =>
    match s.threads t with
    | none => some ⟨s.world, s.setThread t (entry t name)⟩
    | some _ => none
  | .run t choice, s =>
    match s.threads t with
    | none => none
    | some p => (p.advance M t choice s.world).map fun result => ⟨result.2, s.setThread t result.1⟩
  | .env event, s => (M.env event s.world).map fun w => ⟨w, s.threads⟩
  | .kill, s => some ⟨M.reset s.world, fun _ => none⟩

/-- How a step can change the world. -/
theorem step_world {M : Machine S ε W T C E} {entry : T → N → Prog S ε Unit} {label : Label T C E N}
    {s s' : Pool S ε W T}
    (stepped : step M entry label s = some s') :
    s'.world = s.world ∨
    (∃ t choice op next answer, label = .run t choice ∧ s.threads t = some (.call op next) ∧
      M.exec t op choice s.world = some (answer, s'.world)) ∨
    (∃ event, label = .env event ∧ M.env event s.world = some s'.world) ∨
    label = .kill ∧ s'.world = M.reset s.world := by
  cases label with
  | spawn t name =>
    unfold step at stepped
    cases at_t : s.threads t <;> simp only [at_t] at stepped <;> cases stepped
    exact Or.inl rfl
  | run t choice =>
    unfold step at stepped
    cases at_t : s.threads t with
    | none => simp only [at_t] at stepped; cases stepped
    | some p =>
      simp only [at_t, Option.map_eq_some_iff] at stepped
      obtain ⟨⟨q, w⟩, advanced, rfl⟩ := stepped
      cases p with
      | ret => cases advanced
      | raise => cases advanced
      | iter body next => cases advanced; exact Or.inl rfl
      | call op next =>
        simp only [Prog.advance, Option.map_eq_some_iff] at advanced
        obtain ⟨⟨answer, w'⟩, executed, same⟩ := advanced
        cases same
        exact Or.inr (Or.inl ⟨t, choice, op, next, answer, rfl, at_t, executed⟩)
  | env event =>
    obtain ⟨w, happened, rfl⟩ := Option.map_eq_some_iff.mp stepped
    exact Or.inr (Or.inr (Or.inl ⟨event, rfl, happened⟩))
  | kill => cases stepped; exact Or.inr (Or.inr (Or.inr ⟨rfl, rfl⟩))

/-- The states that runs of steps allowed by `ok` lead to. -/
inductive Reach (M : Machine S ε W T C E) (entry : T → N → Prog S ε Unit)
    (ok : Pool S ε W T → Label T C E N → Prop) (start : Pool S ε W T) : Pool S ε W T → Prop
  | start : Reach M entry ok start start
  | next {s label s'} : Reach M entry ok start s → ok s label → step M entry label s = some s' →
      Reach M entry ok start s'

/-- What connects a machine to a discipline: `Idle` holds of a thread that was not started, `Post` of how a
thread ended. -/
structure Adequate (D : Discipline S ε W T) (M : Machine S ε W T C E) (entry : T → N → Prog S ε Unit)
    (ok : Pool S ε W T → Label T C E N → Prop) (Idle : T → W → Prop) (Post : T → Except ε Unit → W → Prop) :
    Prop where
  exec : ∀ {s : Pool S ε W T} {t choice op next answer w}, ok s (.run t choice) → D.Inv s.world →
    s.threads t = some (.call op next) → M.exec t op choice s.world = some (answer, w) →
    D.Step t op s.world answer w
  others : ∀ {t u v w}, u ≠ t → D.Inv v → D.Guar t v w → D.Rely u v w
  env : ∀ {s : Pool S ε W T} {event w}, ok s (.env event) → D.Inv s.world → M.env event s.world = some w →
    D.Inv w ∧ ∀ t, D.Rely t s.world w
  reset : ∀ {s : Pool S ε W T}, ok s .kill → D.Inv s.world →
    D.Inv (M.reset s.world) ∧ ∀ t, Idle t (M.reset s.world)
  idle : ∀ {t v w}, Idle t v → D.Rely t v w → Idle t w
  entry : ∀ {s : Pool S ε W T} {t name}, ok s (.spawn t name) → D.Inv s.world → Idle t s.world →
    ∀ n, Ensures D t (Post t) (some n) (entry t name) s.world

/-- What holds of a pool whose threads follow the discipline. -/
structure Sound (D : Discipline S ε W T) (Idle : T → W → Prop) (Post : T → Except ε Unit → W → Prop)
    (s : Pool S ε W T) : Prop where
  inv : D.Inv s.world
  idle : ∀ t, s.threads t = none → Idle t s.world
  threads : ∀ t p, s.threads t = some p → ∀ n, Ensures D t (Post t) (some n) p s.world

variable {D : Discipline S ε W T} {M : Machine S ε W T C E} {entry : T → N → Prog S ε Unit}
  {ok : Pool S ε W T → Label T C E N → Prop} {Idle : T → W → Prop} {Post : T → Except ε Unit → W → Prop}

theorem Adequate.sound_run (adequate : Adequate D M entry ok Idle Post) {s s' : Pool S ε W T} {t : T} {choice : C}
    (allowed : ok s (.run t choice)) (sound : Sound D Idle Post s)
    (stepped : step M entry (.run t choice) s = some s') :
    Sound D Idle Post s' ∧ (s'.world = s.world ∨ D.Guar t s.world s'.world) := by
  unfold step at stepped
  cases at_t : s.threads t with
  | none => simp only [at_t] at stepped; cases stepped
  | some p =>
    simp only [at_t, Option.map_eq_some_iff] at stepped
    obtain ⟨⟨q, w⟩, advanced, rfl⟩ := stepped
    have follows := sound.threads t p at_t
    have others (rely : ∀ u, u ≠ t → D.Rely u s.world w) (inv : D.Inv w)
        (own : ∀ n, Ensures D t (Post t) (some n) q w) : Sound D Idle Post ⟨w, s.setThread t q⟩ := by
      refine ⟨inv, fun u absent => ?_, fun u r at_u => ?_⟩
      · by_cases same : u = t
        · simp [setThread, same] at absent
        · simp only [setThread, same, if_false] at absent
          exact adequate.idle (sound.idle u absent) (rely u same)
      · by_cases same : u = t
        · subst same
          simp only [setThread, if_true, Option.some.injEq] at at_u
          subst at_u
          exact own
        · simp only [setThread, same, if_false] at at_u
          exact fun n => (sound.threads u r at_u n).stable (rely u same)
    cases p with
    | ret => cases advanced
    | raise => cases advanced
    | call op next =>
      simp only [Prog.advance, Option.map_eq_some_iff] at advanced
      obtain ⟨⟨answer, w'⟩, executed, same⟩ := advanced
      cases same
      have stepD := adequate.exec allowed sound.inv at_t executed
      have keeps : D.Inv w' ∧ D.Guar t s.world w' := by
        cases follows 0 with
        | call keeps _ => exact keeps _ (D.rely_refl t _) sound.inv _ _ stepD
      have rest (n : Nat) : Ensures D t (Post t) (some n) (next answer) w' := by
        cases follows n with
        | call _ rest => exact rest _ (D.rely_refl t _) sound.inv _ _ stepD
      exact ⟨others (fun u other => adequate.others other sound.inv keeps.2) keeps.1 rest, Or.inr keeps.2⟩
    | iter body next =>
      cases advanced
      have rest (n : Nat) : Ensures D t (Post t) (some n) (body.bind (.again body next)) s.world := by
        cases follows (n + 1) with
        | iter rest => exact rest _ (.one n) _ (D.rely_refl t _) sound.inv
      exact ⟨others (fun u _ => D.rely_refl u _) sound.inv rest, Or.inl rfl⟩

theorem Adequate.sound_step (adequate : Adequate D M entry ok Idle Post) {s s' : Pool S ε W T}
    {label : Label T C E N} (allowed : ok s label) (sound : Sound D Idle Post s)
    (stepped : step M entry label s = some s') : Sound D Idle Post s' := by
  cases label with
  | run t choice => exact (adequate.sound_run allowed sound stepped).1
  | spawn t name =>
    unfold step at stepped
    cases at_t : s.threads t with
    | some p => simp only [at_t] at stepped; cases stepped
    | none =>
      simp only [at_t, Option.some.injEq] at stepped
      subst stepped
      refine ⟨sound.inv, fun u absent => ?_, fun u p at_u => ?_⟩
      · by_cases same : u = t
        · simp [setThread, same] at absent
        · exact sound.idle u (by simpa only [setThread, same, if_false] using absent)
      · by_cases same : u = t
        · subst same
          simp only [setThread, if_true, Option.some.injEq] at at_u
          subst at_u
          have follows := adequate.entry allowed sound.inv (sound.idle u at_t)
          exact follows
        · exact sound.threads u p (by simpa only [setThread, same, if_false] using at_u)
  | env event =>
    obtain ⟨w, moved, rfl⟩ := Option.map_eq_some_iff.mp stepped
    obtain ⟨inv, rely⟩ := adequate.env allowed sound.inv moved
    exact ⟨inv, fun t absent => adequate.idle (sound.idle t absent) (rely t),
      fun t p at_t n => (sound.threads t p at_t n).stable (rely t)⟩
  | kill =>
    cases stepped
    obtain ⟨inv, idle⟩ := adequate.reset allowed sound.inv
    refine ⟨inv, fun t _ => idle t, fun t p at_t => ?_⟩
    cases at_t

/-- Every pool that can be reached follows the discipline. -/
theorem Adequate.sound (adequate : Adequate D M entry ok Idle Post) {start s : Pool S ε W T}
    (sound : Sound D Idle Post start) (reach : Reach M entry ok start s) : Sound D Idle Post s := by
  induction reach with
  | start => exact sound
  | next _ allowed stepped ih => exact adequate.sound_step allowed ih stepped

omit [DecidableEq T] in
/-- How a thread has ended. -/
theorem Sound.ended {s : Pool S ε W T} (sound : Sound D Idle Post s) {t : T} {p : Prog S ε Unit}
    (at_t : s.threads t = some p) (ended : p = .ret () ∨ ∃ exn, p = .raise exn) : ∃ outcome, Post t outcome s.world := by
  rcases ended with rfl | ⟨exn, rfl⟩
  · cases sound.threads t _ at_t 0 with
    | ret post => exact ⟨_, post _ (D.rely_refl t _) sound.inv⟩
  · cases sound.threads t _ at_t 0 with
    | raise post => exact ⟨_, post _ (D.rely_refl t _) sound.inv⟩

theorem Reach.mono {ok' : Pool S ε W T → Label T C E N → Prop} {start s : Pool S ε W T}
    (reach : Reach M entry ok start s) (weaker : ∀ s label, ok s label → ok' s label) :
    Reach M entry ok' start s := by
  induction reach with
  | start => exact .start
  | next _ allowed stepped ih => exact .next ih (weaker _ _ allowed) stepped

/-- Every step is made in a state that can be reached. -/
theorem Reach.along {start s : Pool S ε W T} (reach : Reach M entry ok start s) :
    Reach M entry (fun s label => ok s label ∧ Reach M entry ok start s) start s := by
  induction reach with
  | start => exact .start
  | next before allowed stepped ih => exact .next ih ⟨allowed, before⟩ stepped

/-- A script played step by step; a step that fails the test or is not possible is left out. -/
def play (M : Machine S ε W T C E) (entry : T → N → Prog S ε Unit) (test : Pool S ε W T → Label T C E N → Bool) :
    List (Pool S ε W T → Label T C E N) → Pool S ε W T → Pool S ε W T
  | [], s => s
  | label :: labels, s =>
    play M entry test labels (if test s (label s) then (step M entry (label s) s).getD s else s)

theorem Reach.play {start s : Pool S ε W T} {test : Pool S ε W T → Label T C E N → Bool}
    (tested : ∀ s label, test s label = true → ok s label) (labels : List (Pool S ε W T → Label T C E N))
    (reach : Reach M entry ok start s) : Reach M entry ok start (play M entry test labels s) := by
  induction labels generalizing s with
  | nil => exact reach
  | cons label labels ih =>
    refine ih ?_
    by_cases allowed : test s (label s) = true
    · rw [if_pos allowed]
      cases stepped : step M entry (label s) s with
      | none => exact reach
      | some s' => exact .next reach (tested s (label s) allowed) stepped
    · rw [if_neg allowed]
      exact reach

end Pool
end Interaction
