import Mathlib.Data.List.Infix
import Mathlib.Tactic.Common

namespace Query

/-- A truth value of SQL, with `none` for `NULL`. -/
abbrev Truth := Option Bool

/-- What lets a row through `WHERE` and a branch through `CASE WHEN`. -/
def Truth.holds (t : Truth) : Prop := t = some true

instance (t : Truth) : Decidable t.holds := inferInstanceAs (Decidable (t = some true))

def Truth.not : Truth → Truth
  | some b => some !b
  | none => none

def Truth.and : Truth → Truth → Truth
  | some false, _ => some false
  | _, some false => some false
  | some true, some true => some true
  | _, _ => none

def Truth.or : Truth → Truth → Truth
  | some true, _ => some true
  | _, some true => some true
  | some false, some false => some false
  | _, _ => none

variable {α : Type} [DecidableEq α]

/-- `x = y`. -/
def equals : Option α → Option α → Truth
  | some x, some y => some (x = y)
  | _, _ => none

/-- `x IN (…)` with a list of values, none of which is `NULL`. -/
def isIn : Option α → List α → Truth
  | some x, values => some (x ∈ values)
  | none, _ => none

/-- `x IS NOT NULL`. -/
def isNotNull (x : Option α) : Truth := some x.isSome

def selected {ρ : Type} (where_ : ρ → Truth) (rows : List ρ) : List ρ := rows.filter fun row => (where_ row).holds

/-- `SELECT count() FROM rows WHERE …`. -/
def count {ρ : Type} (where_ : ρ → Truth) (rows : List ρ) : Nat := (selected where_ rows).length

/-- `EXISTS (SELECT 1 FROM rows WHERE …)`. -/
def exists_ {ρ : Type} (where_ : ρ → Truth) (rows : List ρ) : Truth := some (0 < count where_ rows)

@[simp] theorem Truth.holds_some {b : Bool} : Truth.holds (some b) ↔ b = true := by simp [Truth.holds]

@[simp] theorem Truth.holds_none : ¬Truth.holds none := by simp [Truth.holds]

@[simp] theorem Truth.and_holds {s t : Truth} : (s.and t).holds ↔ s.holds ∧ t.holds := by
  rcases s with _ | _ | _ <;> rcases t with _ | _ | _ <;> simp [Truth.and]

@[simp] theorem Truth.or_holds {s t : Truth} : (s.or t).holds ↔ s.holds ∨ t.holds := by
  rcases s with _ | _ | _ <;> rcases t with _ | _ | _ <;> simp [Truth.or]

@[simp] theorem equals_holds {x y : Option α} : (equals x y).holds ↔ ∃ v, x = some v ∧ y = some v := by
  rcases x with _ | x <;> rcases y with _ | y <;> simp [equals, eq_comm]

/-- A negated list lets no `NULL` through. -/
@[simp] theorem isIn_not_holds {x : Option α} {values : List α} :
    (isIn x values).not.holds ↔ ∃ v, x = some v ∧ v ∉ values := by
  rcases x with _ | x <;> simp [isIn, Truth.not]

omit [DecidableEq α] in
@[simp] theorem isNotNull_holds {x : Option α} : (isNotNull x).holds ↔ ∃ v, x = some v := by
  rcases x with _ | x <;> simp [isNotNull]

theorem count_pos {ρ : Type} {where_ : ρ → Truth} {rows : List ρ} :
    0 < count where_ rows ↔ ∃ row ∈ rows, (where_ row).holds := by
  unfold count selected
  rw [List.length_pos_iff_exists_mem]
  simp only [List.mem_filter, decide_eq_true_eq]

@[simp] theorem exists_holds {ρ : Type} {where_ : ρ → Truth} {rows : List ρ} :
    (exists_ where_ rows).holds ↔ ∃ row ∈ rows, (where_ row).holds := by
  unfold exists_
  rw [Truth.holds_some, decide_eq_true_eq, count_pos]

/-- One element of a `LIKE` pattern. -/
inductive Piece
  | char (c : Char)
  | one
  | any
  deriving DecidableEq

/-- The elements of a pattern; a backslash takes the next character as it is. -/
def pieces : List Char → List Piece
  | '\\' :: c :: pattern => .char c :: pieces pattern
  | '%' :: pattern => .any :: pieces pattern
  | '_' :: pattern => .one :: pieces pattern
  | c :: pattern => .char c :: pieces pattern
  | [] => []

def matches_ : List Piece → List Char → Bool
  | [], text => text.isEmpty
  | .char c :: rest, text =>
    match text with
    | [] => false
    | d :: text => c == d && matches_ rest text
  | .one :: rest, text =>
    match text with
    | [] => false
    | _ :: text => matches_ rest text
  | .any :: rest, text => text.tails.any fun tail => matches_ rest tail

/-- `text LIKE pattern`. -/
def like (text pattern : String) : Bool := matches_ (pieces pattern.toList) text.toList

theorem matches_any {text : List Char} : matches_ [.any] text = true := by
  simp only [matches_, List.any_eq_true, List.mem_tails]
  exact ⟨[], List.nil_suffix, rfl⟩

/-- A pattern of plain characters and a final `%` asks for a prefix. -/
theorem matches_prefix {front text : List Char} :
    matches_ (front.map .char ++ [.any]) text = true ↔ front <+: text := by
  induction front generalizing text with
  | nil => simp only [List.map_nil, List.nil_append, matches_any, List.nil_prefix]
  | cons c front ih =>
    cases text with
    | nil => simp [matches_]
    | cons d text =>
      rw [List.map_cons, List.cons_append, List.cons_prefix_cons]
      simp only [matches_, Bool.and_eq_true, beq_iff_eq]
      rw [ih]

theorem like_prefix {text pattern front : String}
    (shape : pieces pattern.toList = front.toList.map .char ++ [.any]) :
    like text pattern = true ↔ front.toList <+: text.toList := by
  unfold like
  rw [shape]
  exact matches_prefix

end Query
