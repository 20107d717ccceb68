import Mathlib.Logic.Function.Basic
import Vdba.Interaction.Protocol

namespace Interaction
variable {S : Iface} {ε W T C E N G σ : Type}

/-- The machine with a record of the run beside its world. -/
def Machine.recording (M : Machine S ε W T C E) (note : T → (op : S.Op) → W → Except ε (S.Ans op) → W → G → G) :
    Machine S ε (W × G) T C E where
  exec t op choice x := (M.exec t op choice x.1).map fun done => (done.1, done.2, note t op x.1 done.1 done.2 x.2)
  env event x := (M.env event x.1).map fun w => (w, x.2)
  reset x := (M.reset x.1, x.2)

/-- The pool without the record. -/
def Pool.plain (s : Pool S ε (W × G) T) : Pool S ε W T := ⟨s.world.1, s.threads⟩

section recording
variable {M : Machine S ε W T C E} {note : T → (op : S.Op) → W → Except ε (S.Ans op) → W → G → G}
  {entry : T → N → Prog S ε Unit}

theorem Machine.recording_exec {t : T} {op : S.Op} {choice : C} {x y : W × G} {answer : Except ε (S.Ans op)}
    (executed : (M.recording note).exec t op choice x = some (answer, y)) :
    M.exec t op choice x.1 = some (answer, y.1) ∧ y.2 = note t op x.1 answer y.1 x.2 := by
  obtain ⟨⟨answer', w⟩, done, same⟩ := Option.map_eq_some_iff.mp executed
  cases same
  exact ⟨done, rfl⟩

variable [DecidableEq T]

/-- The record changes nothing that the run can see. -/
theorem Pool.step_plain (label : Label T C E N) (s : Pool S ε (W × G) T) :
    (Pool.step (M.recording note) entry label s).map Pool.plain = Pool.step M entry label s.plain := by
  cases label with
  | spawn t name =>
    cases at_t : s.threads t with
    | none =>
      simp only [Pool.step, Pool.plain, at_t, Option.map_some]
      rfl
    | some p => simp [Pool.step, Pool.plain, at_t]
  | run t choice =>
    cases at_t : s.threads t with
    | none => simp [Pool.step, Pool.plain, at_t]
    | some p =>
      have advanced : (p.advance (M.recording note) t choice s.world).map (fun r => (r.1, r.2.1)) =
          p.advance M t choice s.world.1 := by
        cases p <;> simp [Prog.advance, Machine.recording, Function.comp_def]
      simp only [Pool.step, Pool.plain, at_t, ← advanced, Option.map_map]
      rfl
  | env event => simp [Pool.step, Pool.plain, Machine.recording, Function.comp_def]
  | kill => rfl

end recording

namespace Protocol
variable [DecidableEq T] {P : T → Protocol S ε σ} {M : Machine S ε W T C E} {entry : T → N → Prog S ε Unit}
  {ok : Pool S ε W T → Label T C E N → Prop} {Inv : (T → σ) → W → Prop} {first : σ} {Final : σ → Prop}

/-- An invariant of the world and of the states of all threads in their protocols. -/
structure Guides (P : T → Protocol S ε σ) (M : Machine S ε W T C E) (entry : T → N → Prog S ε Unit)
    (ok : Pool S ε W T → Label T C E N → Prop) (Inv : (T → σ) → W → Prop) (first : σ) (Final : σ → Prop) : Prop where
  own : ∀ {s : Pool S ε W T} {t choice op next answer w q}, ok s (.run t choice) → s.threads t = some (.call op next) →
    Inv q s.world → (P t).allows (q t) op → M.exec t op choice s.world = some (answer, w) →
    Inv (Function.update q t ((P t).after (q t) op answer)) w
  env : ∀ {s : Pool S ε W T} {event w q}, ok s (.env event) → M.env event s.world = some w → Inv q s.world → Inv q w
  reset : ∀ {s : Pool S ε W T} {q}, ok s .kill → Inv q s.world → Inv (fun _ => first) (M.reset s.world)
  entry : ∀ t name, (entry t name).Follows (P t) (fun _ => Final) first

/-- The threads are where `q` has them in their protocols. -/
structure Guided (P : T → Protocol S ε σ) (Inv : (T → σ) → W → Prop) (first : σ) (Final : σ → Prop) (q : T → σ)
    (s : Pool S ε W T) : Prop where
  inv : Inv q s.world
  idle : ∀ t, s.threads t = none → q t = first
  threads : ∀ t p, s.threads t = some p → p.Follows (P t) (fun _ => Final) (q t)

theorem Guided.moved {q : T → σ} {s : Pool S ε W T} (guided : Guided P Inv first Final q s) {t : T} {p : Prog S ε Unit}
    {r : σ} {w : W} (inv : Inv (Function.update q t r) w) (follows : p.Follows (P t) (fun _ => Final) r) :
    Guided P Inv first Final (Function.update q t r) ⟨w, s.setThread t p⟩ := by
  refine ⟨inv, fun u absent => ?_, fun u p' at_u => ?_⟩
  · by_cases same : u = t
    · simp [Pool.setThread, same] at absent
    · rw [Function.update_of_ne same]
      exact guided.idle u (by simpa only [Pool.setThread, same, if_false] using absent)
  · by_cases same : u = t
    · subst same
      simp only [Pool.setThread, if_true, Option.some.injEq] at at_u
      subst at_u
      rwa [Function.update_self]
    · rw [Function.update_of_ne same]
      exact guided.threads u p' (by simpa only [Pool.setThread, same, if_false] using at_u)

theorem Guides.step (guides : Guides P M entry ok Inv first Final) {s s' : Pool S ε W T} {label : Label T C E N}
    {q : T → σ}
    (guided : Guided P Inv first Final q s) (allowed : ok s label) (stepped : Pool.step M entry label s = some s') :
    ∃ q', Guided P Inv first Final q' s' := by
  cases label with
  | spawn t name =>
    unfold Pool.step at stepped
    cases at_t : s.threads t with
    | some p => simp only [at_t] at stepped; cases stepped
    | none =>
      simp only [at_t, Option.some.injEq] at stepped
      subst stepped
      have still : Function.update q t first = q := by
        rw [← guided.idle t at_t, Function.update_eq_self]
      have inv : Inv (Function.update q t first) s.world := by
        rw [still]
        exact guided.inv
      exact ⟨_, guided.moved inv (guides.entry t name)⟩
  | run t choice =>
    unfold Pool.step at stepped
    cases at_t : s.threads t with
    | none => simp only [at_t] at stepped; cases stepped
    | some p =>
      simp only [at_t, Option.map_eq_some_iff] at stepped
      obtain ⟨⟨p', w⟩, advanced, rfl⟩ := stepped
      have follows := guided.threads t p at_t
      cases p with
      | ret => cases advanced
      | raise => cases advanced
      | call op next =>
        simp only [Prog.advance, Option.map_eq_some_iff] at advanced
        obtain ⟨⟨answer, w'⟩, executed, same⟩ := advanced
        cases same
        exact ⟨_, guided.moved (guides.own allowed at_t guided.inv follows.1 executed) (follows.2 answer)⟩
      | iter body next =>
        cases advanced
        have inv : Inv (Function.update q t (q t)) s.world := by
          rw [Function.update_eq_self]
          exact guided.inv
        exact ⟨_, guided.moved inv follows.round⟩
  | env event =>
    obtain ⟨w, moved, rfl⟩ := Option.map_eq_some_iff.mp stepped
    exact ⟨q, guides.env allowed moved guided.inv, guided.idle, guided.threads⟩
  | kill =>
    cases stepped
    exact ⟨_, guides.reset allowed guided.inv, fun _ _ => rfl, fun t p at_t => by cases at_t⟩

/-- Every pool that can be reached is guided. -/
theorem Guides.guided (guides : Guides P M entry ok Inv first Final) {start s : Pool S ε W T} {q : T → σ}
    (guided : Guided P Inv first Final q start) (reach : Pool.Reach M entry ok start s) :
    ∃ q', Guided P Inv first Final q' s := by
  induction reach with
  | start => exact ⟨q, guided⟩
  | next _ allowed stepped ih =>
    obtain ⟨q', guided'⟩ := ih
    exact guides.step guided' allowed stepped

end Protocol
end Interaction
