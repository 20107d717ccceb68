import Mathlib.Logic.Relation

namespace Query

variable {α : Type}

/-- One step along a listed edge. -/
def Edge (edges : List (α × α)) (x y : α) : Prop := (x, y) ∈ edges

/-- Any number of steps, decided edge by edge: a path that uses the first edge runs to it and on from it. -/
def reaches [DecidableEq α] : List (α × α) → α → α → Bool
  | [], x, y => x = y
  | edge :: edges, x, y => reaches edges x y || reaches edges x edge.1 && reaches edges edge.2 y

theorem Edge.cons {edge : α × α} {edges : List (α × α)} {x y : α} :
    Edge (edge :: edges) x y ↔ (x, y) = edge ∨ Edge edges x y := List.mem_cons

theorem paths_cons {edge : α × α} {edges : List (α × α)} {x y : α} :
    Relation.ReflTransGen (Edge (edge :: edges)) x y ↔ Relation.ReflTransGen (Edge edges) x y ∨
      Relation.ReflTransGen (Edge edges) x edge.1 ∧ Relation.ReflTransGen (Edge edges) edge.2 y := by
  have widen : ∀ {a b : α}, Relation.ReflTransGen (Edge edges) a b →
      Relation.ReflTransGen (Edge (edge :: edges)) a b := by
    intro a b path
    exact path.lift id fun _ _ step => Edge.cons.mpr (Or.inr step)
  constructor
  · intro path
    induction path with
    | refl => exact Or.inl .refl
    | tail _ step ih =>
      rcases Edge.cons.mp step with used | old
      · obtain ⟨rfl, rfl⟩ := Prod.mk.inj used
        rcases ih with before | ⟨before, _⟩
        · exact Or.inr ⟨before, .refl⟩
        · exact Or.inr ⟨before, .refl⟩
      · rcases ih with before | ⟨before, after⟩
        · exact Or.inl (before.tail old)
        · exact Or.inr ⟨before, after.tail old⟩
  · rintro (path | ⟨before, after⟩)
    · exact widen path
    · exact ((widen before).tail (Edge.cons.mpr (Or.inl rfl))).trans (widen after)

theorem reaches_iff [DecidableEq α] {edges : List (α × α)} {x y : α} :
    reaches edges x y = true ↔ Relation.ReflTransGen (Edge edges) x y := by
  induction edges generalizing x y with
  | nil =>
    simp only [reaches, decide_eq_true_eq]
    constructor
    · rintro rfl
      exact .refl
    · intro path
      cases path.cases_head with
      | inl same => exact same
      | inr step =>
        obtain ⟨_, first, _⟩ := step
        cases first
  | cons edge edges ih =>
    rw [paths_cons]
    simp only [reaches, Bool.or_eq_true, Bool.and_eq_true, ih]

end Query
