import Vdba.Interaction.Path

namespace Interaction
variable {S : Iface} {ε W : Type}

/-- An exchange with the worlds before and after it. -/
structure Step (S : Iface) (ε W : Type) where
  before : W
  exchange : Exchange S ε
  after : W

/-- Steps that lead from one world to another, with what one operation may answer and do. -/
inductive Steps (serves : (op : S.Op) → W → Except ε (S.Ans op) → W → Prop) : W → List (Step S ε W) → W → Prop
  | done {w} : Steps serves w [] w
  | next {w v u op answer steps} : serves op w answer v → Steps serves v steps u →
      Steps serves w (⟨w, ⟨op, answer⟩, v⟩ :: steps) u

namespace Steps
variable {serves : (op : S.Op) → W → Except ε (S.Ans op) → W → Prop} {w u : W} {steps : List (Step S ε W)}

theorem append {front back : List (Step S ε W)} (path : Steps serves w (front ++ back) u) :
    ∃ v, Steps serves w front v ∧ Steps serves v back u := by
  induction front generalizing w with
  | nil => exact ⟨w, .done, path⟩
  | cons step front ih =>
    cases path with
    | next served rest =>
      obtain ⟨v, first, last⟩ := ih rest
      exact ⟨v, .next served first, last⟩

/-- Steps whose exchanges come in two parts. -/
theorem split {front back : List (Exchange S ε)} (path : Steps serves w steps u)
    (exchanges : steps.map (·.exchange) = front ++ back) :
    ∃ early late v, steps = early ++ late ∧ early.map (·.exchange) = front ∧ late.map (·.exchange) = back ∧
      Steps serves w early v ∧ Steps serves v late u := by
  obtain ⟨early, late, rfl, first, last⟩ := List.map_eq_append_iff.mp exchanges
  obtain ⟨v, before, after⟩ := path.append
  exact ⟨early, late, v, rfl, first, last, before, after⟩

theorem nil (path : Steps serves w steps u) (exchanges : steps.map (·.exchange) = []) : steps = [] ∧ u = w := by
  rw [List.map_eq_nil_iff] at exchanges
  subst exchanges
  cases path
  exact ⟨rfl, rfl⟩

theorem single {op : S.Op} {answer : Except ε (S.Ans op)} (path : Steps serves w steps u)
    (exchanges : steps.map (·.exchange) = [⟨op, answer⟩]) : steps = [⟨w, ⟨op, answer⟩, u⟩] ∧ serves op w answer u := by
  cases path with
  | done => cases exchanges
  | @next _ v _ op' answer' rest served path =>
    obtain ⟨same, none⟩ := List.cons.inj exchanges
    obtain ⟨rfl, rfl⟩ := path.nil none
    cases same
    exact ⟨rfl, served⟩

end Steps
end Interaction
