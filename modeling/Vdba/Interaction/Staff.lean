import Mathlib.Logic.Function.Basic
import Vdba.Interaction.All
import Vdba.Interaction.Pool

namespace Interaction
variable {S : Iface} {ε W T C E N : Type}

namespace Prog

/-- One step leaves a program whose operations are as `φ` says. -/
theorem All.advance {φ : S.Op → Prop} {M : Machine S ε W T C E} {t : T} {choice : C} {α : Type} {p q : Prog S ε α}
    {w v : W} (all : p.All φ) (advanced : p.advance M t choice w = some (q, v)) : q.All φ := by
  cases p with
  | ret => cases advanced
  | raise => cases advanced
  | call op next =>
    obtain ⟨⟨answer, u⟩, -, same⟩ := Option.map_eq_some_iff.mp advanced
    cases same
    exact all.2 answer
  | iter body next =>
    cases advanced
    refine all.1.bind fun result => ?_
    cases result with
    | inl again => exact all
    | inr value => exact all.2 value

end Prog

variable [DecidableEq T]

/-- Which program every thread was started with, after a step. -/
def Label.staffs : Label T C E N → (T → Option N) → T → Option N
  | .spawn t name, staff => Function.update staff t (some name)
  | .run .., staff | .env _, staff => staff
  | .kill, _ => fun _ => none

namespace Pool

/-- The states that runs lead to, with the programs that their threads were started with. -/
inductive Staffed (M : Machine S ε W T C E) (entry : T → N → Prog S ε Unit) (ok : Pool S ε W T → Label T C E N → Prop)
    (first : W) : (T → Option N) → Pool S ε W T → Prop
  | start : Staffed M entry ok first (fun _ => none) ⟨first, fun _ => none⟩
  | next {staff s label s'} : Staffed M entry ok first staff s → ok s label → step M entry label s = some s' →
      Staffed M entry ok first (label.staffs staff) s'

variable {M : Machine S ε W T C E} {entry : T → N → Prog S ε Unit} {ok : Pool S ε W T → Label T C E N → Prop}
  {first : W} {staff : T → Option N} {s : Pool S ε W T}

theorem Staffed.forget (staffed : Staffed M entry ok first staff s) : Reach M entry ok ⟨first, fun _ => none⟩ s := by
  induction staffed with
  | start => exact .start
  | next _ allowed stepped ih => exact .next ih allowed stepped

/-- Every run has its staff. -/
theorem Reach.staffed (reach : Reach M entry ok ⟨first, fun _ => none⟩ s) : ∃ staff, Staffed M entry ok first staff s := by
  induction reach with
  | start => exact ⟨_, .start⟩
  | next _ allowed stepped ih =>
    obtain ⟨staff, staffed⟩ := ih
    exact ⟨_, .next staffed allowed stepped⟩

/-- The staff has the threads that were started, and what every operation of a program is like, every operation that is
left of it is like. -/
theorem Staffed.all {φ : N → S.Op → Prop} (walk : ∀ t name, (entry t name).All (φ name))
    (staffed : Staffed M entry ok first staff s) (t : T) :
    (s.threads t = none ∧ staff t = none) ∨ ∃ name p, s.threads t = some p ∧ staff t = some name ∧ p.All (φ name) := by
  induction staffed with
  | start => exact Or.inl ⟨rfl, rfl⟩
  | @next staff s label s' _ _ stepped ih =>
    cases label with
    | spawn u name =>
      cases at_u : s.threads u with
      | some p => simp only [step, at_u] at stepped; cases stepped
      | none =>
        simp only [step, at_u, Option.some.injEq] at stepped
        subst stepped
        by_cases same : t = u
        · subst same
          exact Or.inr ⟨name, _, by simp [setThread], by simp [Label.staffs], walk t name⟩
        · simpa [setThread, Label.staffs, same] using ih
    | run u choice =>
      cases at_u : s.threads u with
      | none => simp only [step, at_u] at stepped; cases stepped
      | some p =>
        simp only [step, at_u, Option.map_eq_some_iff] at stepped
        obtain ⟨⟨q, w⟩, advanced, rfl⟩ := stepped
        by_cases same : t = u
        · subst same
          rcases ih with ⟨absent, -⟩ | ⟨name, p', at_t, named, all⟩
          · rw [absent] at at_u
            cases at_u
          · rw [at_u] at at_t
            cases at_t
            exact Or.inr ⟨name, q, by simp [setThread], named, all.advance advanced⟩
        · simpa [setThread, Label.staffs, same] using ih
    | env event =>
      obtain ⟨w, -, rfl⟩ := Option.map_eq_some_iff.mp stepped
      exact ih
    | kill =>
      cases stepped
      exact Or.inl ⟨rfl, rfl⟩

end Pool
end Interaction
