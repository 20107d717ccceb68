import Mathlib.Data.Nat.Find
import Vdba.Interaction.Pool

namespace Interaction
variable {S : Iface} {ε W T C E N : Type} [DecidableEq T]

namespace Pool
variable {D : Discipline S ε W T} {M : Machine S ε W T C E} {entry : T → N → Prog S ε Unit}
  {ok : Pool S ε W T → Label T C E N → Prop} {Idle : T → W → Prop} {Post : T → Except ε Unit → W → Prop}

/-- What a step means for one thread: it is at work, it is started, it goes on waiting, or the process dies. -/
theorem step_thread {s s' : Pool S ε W T} {label : Label T C E N} (stepped : step M entry label s = some s') (t : T) :
    (∃ choice p q, label = .run t choice ∧ s.threads t = some p ∧ p.advance M t choice s.world = some (q, s'.world) ∧
      s'.threads t = some q) ∨
    (∃ name, label = .spawn t name ∧ s.threads t = none ∧ s'.threads t = some (entry t name) ∧ s'.world = s.world) ∨
    (∀ choice, label ≠ .run t choice) ∧ s'.threads t = s.threads t ∨ label = .kill := by
  cases label with
  | spawn u name =>
    unfold step at stepped
    cases at_u : s.threads u with
    | some q => simp only [at_u] at stepped; cases stepped
    | none =>
      simp only [at_u, Option.some.injEq] at stepped
      subst stepped
      by_cases same : t = u
      · subst same
        exact Or.inr (Or.inl ⟨name, rfl, at_u, by simp [setThread], rfl⟩)
      · exact Or.inr (Or.inr (Or.inl ⟨fun _ other => (by cases other), by simp [setThread, same]⟩))
  | run u choice =>
    unfold step at stepped
    cases at_u : s.threads u with
    | none => simp only [at_u] at stepped; cases stepped
    | some p =>
      simp only [at_u, Option.map_eq_some_iff] at stepped
      obtain ⟨⟨q, w⟩, advanced, rfl⟩ := stepped
      by_cases same : t = u
      · subst same
        exact Or.inl ⟨choice, p, q, rfl, at_u, advanced, by simp [setThread]⟩
      · refine Or.inr (Or.inr (Or.inl ⟨fun other at_t => ?_, by simp [setThread, same]⟩))
        cases at_t
        exact same rfl
  | env event =>
    obtain ⟨w, -, rfl⟩ := Option.map_eq_some_iff.mp stepped
    exact Or.inr (Or.inr (Or.inl ⟨fun _ other => (by cases other), rfl⟩))
  | kill => exact Or.inr (Or.inr (Or.inr rfl))

/-- A thread that was started is there as long as the process lives. -/
theorem Reach.running {start s : Pool S ε W T} (reach : Reach M entry ok start s) (alive : ∀ s, ¬ok s .kill) {t : T}
    (started : start.threads t ≠ none) : s.threads t ≠ none := by
  induction reach with
  | start => exact started
  | next _ allowed stepped ih =>
    rcases step_thread stepped t with ⟨_, _, q, -, -, -, after⟩ | ⟨_, -, -, after, -⟩ | ⟨-, same⟩ | dies
    · rw [after]
      exact Option.some_ne_none q
    · rw [after]
      exact Option.some_ne_none _
    · rwa [same]
    · subst dies
      exact absurd allowed (alive _)

/-- While a thread waits, the others keep to what it relies on. -/
theorem Adequate.step_rely (adequate : Adequate D M entry ok Idle Post) {s s' : Pool S ε W T} {label : Label T C E N}
    (allowed : ok s label) (sound : Sound D Idle Post s) (stepped : step M entry label s = some s')
    (alive : label ≠ .kill) {t : T} (waits : ∀ choice, label ≠ .run t choice) : D.Rely t s.world s'.world := by
  cases label with
  | spawn u name =>
    unfold step at stepped
    cases at_u : s.threads u <;> simp only [at_u] at stepped <;> cases stepped
    exact D.rely_refl t _
  | run u choice =>
    have differs : t ≠ u := by
      rintro rfl
      exact waits choice rfl
    obtain ⟨-, same | guar⟩ := adequate.sound_run allowed sound stepped
    · rw [same]
      exact D.rely_refl t _
    · exact adequate.others differs sound.inv guar
  | env event =>
    obtain ⟨w, moved, rfl⟩ := Option.map_eq_some_iff.mp stepped
    exact (adequate.env allowed sound.inv moved).2 t
  | kill => exact absurd rfl alive

/-- Every thread comes to an end, whatever the others do. -/
def Halting (D : Discipline S ε W T) (Post : T → Except ε Unit → W → Prop) (s : Pool S ε W T) : Prop :=
  ∀ t p, s.threads t = some p → Ensures D t (Post t) none p s.world

omit [DecidableEq T] in
/-- What a thread leaves to do when it has been at work. -/
theorem Adequate.advance_ensures (adequate : Adequate D M entry ok Idle Post) {s : Pool S ε W T} {t : T} {choice : C}
    {p q : Prog S ε Unit} {w : W} {Q : Except ε Unit → W → Prop} (allowed : ok s (.run t choice))
    (inv : D.Inv s.world) (at_t : s.threads t = some p) (advanced : p.advance M t choice s.world = some (q, w))
    (run : Ensures D t Q none p s.world) : Ensures D t Q none q w := by
  cases p with
  | ret => cases advanced
  | raise => cases advanced
  | call op next =>
    simp only [Prog.advance, Option.map_eq_some_iff] at advanced
    obtain ⟨⟨answer, w'⟩, executed, same⟩ := advanced
    cases same
    cases run with
    | call _ rest => exact rest _ (D.rely_refl t _) inv _ _ (adequate.exec allowed inv at_t executed)
  | iter body next =>
    cases advanced
    cases run with
    | iter rest => exact rest none .all _ (D.rely_refl t _) inv

/-- Where the programs that threads are started with come to an end, all threads do. -/
theorem Adequate.halting (adequate : Adequate D M entry ok Idle Post)
    (ends : ∀ {s : Pool S ε W T} {t name}, ok s (.spawn t name) → D.Inv s.world → Idle t s.world →
      Ensures D t (Post t) none (entry t name) s.world)
    {start s : Pool S ε W T} (sound : Sound D Idle Post start) (halting : Halting D Post start)
    (reach : Reach M entry ok start s) : Halting D Post s := by
  induction reach with
  | start => exact halting
  | @next s label s' before allowed stepped ih =>
    have sound' := adequate.sound sound before
    intro t p at_t
    rcases step_thread stepped t with ⟨choice, p', q, rfl, at_t', advanced, after⟩ | ⟨name, rfl, none, after, same⟩ |
      ⟨waits, same⟩ | rfl
    · rw [at_t, Option.some.injEq] at after
      subst after
      exact adequate.advance_ensures allowed sound'.inv at_t' advanced (ih t p' at_t')
    · rw [at_t, Option.some.injEq] at after
      subst after
      rw [same]
      exact ends allowed sound'.inv (sound'.idle t none)
    · by_cases dies : label = .kill
      · subst dies
        cases stepped
        cases at_t
      · rw [same] at at_t
        exact (ih t p at_t).stable (adequate.step_rely allowed sound' stepped dies waits)
    · cases stepped
      cases at_t

/-- A run that goes on for ever in a process that is not killed. -/
structure Endless (M : Machine S ε W T C E) (entry : T → N → Prog S ε Unit)
    (ok : Pool S ε W T → Label T C E N → Prop) (states : Nat → Pool S ε W T) (labels : Nat → Label T C E N) : Prop where
  allowed : ∀ n, ok (states n) (labels n)
  steps : ∀ n, step M entry (labels n) (states n) = some (states (n + 1))
  alive : ∀ n, labels n ≠ .kill

namespace Endless
variable {states : Nat → Pool S ε W T} {labels : Nat → Label T C E N}

theorem reach (endless : Endless M entry ok states labels) {start : Pool S ε W T}
    (begins : Reach M entry ok start (states 0)) (n : Nat) : Reach M entry ok start (states n) := by
  induction n with
  | zero => exact begins
  | succ n ih => exact .next ih (endless.allowed n) (endless.steps n)

/-- A thread that is not at work for some time. -/
theorem waits (endless : Endless M entry ok states labels) (adequate : Adequate D M entry ok Idle Post)
    (sound : ∀ n, Sound D Idle Post (states n)) {t : T} {p : Prog S ε Unit} {n : Nat}
    (at_t : (states n).threads t = some p) (k : Nat) (idle : ∀ m, n ≤ m → m < n + k → ∀ choice, labels m ≠ .run t choice) :
    (states (n + k)).threads t = some p ∧ D.Rely t (states n).world (states (n + k)).world := by
  induction k with
  | zero => exact ⟨at_t, D.rely_refl t _⟩
  | succ k ih =>
    obtain ⟨same, rely⟩ := ih fun m low high => idle m low (by omega)
    have now := idle (n + k) (by omega) (by omega)
    have step := adequate.step_rely (endless.allowed (n + k)) (sound _) (endless.steps (n + k)) (endless.alive _) now
    refine ⟨?_, D.rely_trans _ _ _ _ rely step⟩
    rcases step_thread (endless.steps (n + k)) t with ⟨choice, _, _, work, -⟩ | ⟨_, -, none, -⟩ | ⟨-, kept⟩ | dies
    · exact absurd work (now choice)
    · rw [same] at none
      cases none
    · exact kept.trans same
    · exact absurd dies (endless.alive _)

/-- The next time a thread is at work, if there is one. -/
theorem next_work (endless : Endless M entry ok states labels) (adequate : Adequate D M entry ok Idle Post)
    (sound : ∀ n, Sound D Idle Post (states n)) {t : T} {p : Prog S ε Unit} {n : Nat}
    (at_t : (states n).threads t = some p) :
    (∀ m, n ≤ m → ∀ choice, labels m ≠ .run t choice) ∨
    ∃ m choice q, labels m = .run t choice ∧ D.Rely t (states n).world (states m).world ∧
      (states m).threads t = some p ∧ p.advance M t choice (states m).world = some (q, (states (m + 1)).world) ∧
      (states (m + 1)).threads t = some q := by
  by_cases works : ∃ k, ∃ choice, labels (n + k) = .run t choice
  · refine Or.inr ?_
    classical
    obtain ⟨choice, work⟩ := Nat.find_spec works
    have before (m : Nat) (low : n ≤ m) (high : m < n + Nat.find works) (other : C) : labels m ≠ .run t other := by
      intro same
      refine Nat.find_min works (m := m - n) (by omega) ⟨other, ?_⟩
      rw [Nat.add_sub_cancel' low, same]
    obtain ⟨same, rely⟩ := endless.waits adequate sound at_t (Nat.find works) before
    rcases step_thread (endless.steps (n + Nat.find works)) t with ⟨other, p', q, work', at_p, advanced, after⟩ |
      ⟨_, work', -⟩ | ⟨waits, -⟩ | work'
    · rw [same, Option.some.injEq] at at_p
      subst at_p
      exact ⟨_, other, q, work', rely, same, advanced, after⟩
    · rw [work] at work'
      cases work'
    · exact absurd work (waits choice)
    · rw [work] at work'
      cases work'
  · refine Or.inl fun m low choice same => works ⟨m - n, choice, ?_⟩
    rw [Nat.add_sub_cancel' low, same]

/-- A thread whose program comes to an end is at work a number of times only. -/
theorem rests_of (endless : Endless M entry ok states labels) (adequate : Adequate D M entry ok Idle Post)
    (sound : ∀ n, Sound D Idle Post (states n)) {t : T} {Q : Except ε Unit → W → Prop} {p : Prog S ε Unit} {w : W}
    (run : Ensures D t Q none p w) {n : Nat} (at_t : (states n).threads t = some p)
    (rely : D.Rely t w (states n).world) : ∃ last, ∀ m, last ≤ m → ∀ choice, labels m ≠ .run t choice := by
  generalize limit : (none : Option Nat) = all at run
  -- on what is left of the program; `m` is the next time the thread is at work
  induction run generalizing n with
  | ret | raise =>
    rcases endless.next_work adequate sound at_t with rests | ⟨m, choice, q, -, -, -, advanced, -⟩
    · exact ⟨n, rests⟩
    · cases advanced
  | @call _ op next w _ rest ih =>
    rcases endless.next_work adequate sound at_t with rests | ⟨m, choice, q, work, later, at_m, advanced, after⟩
    · exact ⟨n, rests⟩
    · simp only [Prog.advance, Option.map_eq_some_iff, Prod.mk.injEq] at advanced
      obtain ⟨⟨answer, u⟩, executed, rfl, same⟩ := advanced
      have allowed := endless.allowed m
      rw [work] at allowed
      have stepped := adequate.exec allowed (sound m).inv at_m executed
      refine ih _ (D.rely_trans _ _ _ _ rely later) (sound m).inv answer u stepped after ?_ limit
      rw [← same]
      exact D.rely_refl t u
  | @iter _ β w body next _ ih =>
    subst limit
    rcases endless.next_work adequate sound at_t with rests | ⟨m, choice, q, -, later, -, advanced, after⟩
    · exact ⟨n, rests⟩
    · simp only [Prog.advance, Option.some.injEq, Prod.mk.injEq] at advanced
      obtain ⟨rfl, same⟩ := advanced
      refine ih none .all _ (D.rely_trans _ _ _ _ rely later) (sound m).inv after ?_ rfl
      rw [← same]
      exact D.rely_refl t _

/-- In a run without end, every thread comes to its end. -/
theorem rests (endless : Endless M entry ok states labels) (adequate : Adequate D M entry ok Idle Post)
    (sound : ∀ n, Sound D Idle Post (states n)) (halting : ∀ n, Halting D Post (states n)) (t : T) :
    ∃ last, ∀ m, last ≤ m → ∀ choice, labels m ≠ .run t choice := by
  by_cases started : ∃ n p, (states n).threads t = some p
  · obtain ⟨n, p, at_t⟩ := started
    exact endless.rests_of adequate sound (halting n t p at_t) at_t (D.rely_refl t _)
  · refine ⟨0, fun m _ choice same => ?_⟩
    rcases step_thread (endless.steps m) t with ⟨_, p, _, -, at_t, -⟩ | ⟨_, other, -⟩ | ⟨waits, -⟩ | other
    · exact started ⟨m, p, at_t⟩
    · rw [same] at other
      cases other
    · exact waits choice same
    · rw [same] at other
      cases other

end Endless
end Pool
end Interaction
