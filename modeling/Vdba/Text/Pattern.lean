import Mathlib.Data.List.Basic
import Mathlib.Data.String.Basic

namespace Text

/-- Regular expressions: a literal text, a number of characters of a class, a sequence, and the two anchors. -/
inductive Pattern
  | text (chars : List Char)
  | run (accepts : Char → Bool) (n : Nat)
  | seq (first rest : Pattern)
  | start
  | finish

namespace Pattern

/-- The pattern matches a part of a text; the anchors look at what stands around the part. -/
def Matches : Pattern → (before now after : List Char) → Prop
  | text chars, _, now, _ => now = chars
  | run accepts n, _, now, _ => now.length = n ∧ ∀ c ∈ now, accepts c = true
  | seq first rest, before, now, after =>
    ∃ left right, now = left ++ right ∧ first.Matches before left (right ++ after) ∧
      rest.Matches (before ++ left) right after
  | start, before, now, _ => before = [] ∧ now = []
  | finish, _, now, after => after = [] ∧ now = []

/-- The whole text matches. -/
def Full (p : Pattern) (chars : List Char) : Prop := p.Matches [] chars []

/-- Some part of the text matches. -/
def Found (p : Pattern) (chars : List Char) : Prop :=
  ∃ before now after, chars = before ++ now ++ after ∧ p.Matches before now after

/-- The pattern between both anchors. -/
def anchored (p : Pattern) : Pattern := seq start (seq p finish)

/-- A pattern without anchors does not look around. -/
def Plain : Pattern → Prop
  | text _ | run .. => True
  | seq first rest => first.Plain ∧ rest.Plain
  | start | finish => False

@[simp] theorem plain_text (chars : List Char) : (text chars).Plain := trivial

@[simp] theorem plain_run (accepts : Char → Bool) (n : Nat) : (run accepts n).Plain := trivial

@[simp] theorem plain_seq {first rest : Pattern} : (seq first rest).Plain ↔ first.Plain ∧ rest.Plain := Iff.rfl

theorem Plain.matches_around {p : Pattern} (plain : p.Plain) {before now after : List Char} :
    p.Matches before now after ↔ p.Full now := by
  unfold Full
  induction p generalizing before now after with
  | text chars => rfl
  | run accepts n => rfl
  | start => exact plain.elim
  | finish => exact plain.elim
  | seq first rest ihFirst ihRest =>
    simp only [Matches]
    refine exists_congr fun left => exists_congr fun right => and_congr_right fun _ => ?_
    have firstFull : first.Matches [] left (right ++ []) ↔ first.Full left := ihFirst plain.1
    have restFull : rest.Matches ([] ++ left) right [] ↔ rest.Full right := ihRest plain.2
    rw [ihFirst plain.1, ihRest plain.2, firstFull, restFull]
    rfl

@[simp] theorem full_seq {first rest : Pattern} (plain : (seq first rest).Plain) {chars : List Char} :
    (seq first rest).Full chars ↔ ∃ left right, chars = left ++ right ∧ first.Full left ∧ rest.Full right := by
  unfold Full
  simp only [Matches]
  refine exists_congr fun left => exists_congr fun right => and_congr_right fun _ => ?_
  rw [plain.1.matches_around, plain.2.matches_around]
  rfl

@[simp] theorem full_text {literal chars : List Char} : (text literal).Full chars ↔ chars = literal := Iff.rfl

@[simp] theorem full_run {accepts : Char → Bool} {n : Nat} {chars : List Char} :
    (run accepts n).Full chars ↔ chars.length = n ∧ ∀ c ∈ chars, accepts c = true := Iff.rfl

/-- To find a pattern between both anchors is to match the whole text. -/
theorem found_anchored {p : Pattern} (plain : p.Plain) (chars : List Char) : p.anchored.Found chars ↔ p.Full chars := by
  constructor
  · rintro ⟨before, now, after, rfl, left, right, rfl, ⟨rfl, rfl⟩, middle, last, rfl, matched, rfl, rfl⟩
    simpa using plain.matches_around.mp matched
  · intro full
    refine ⟨[], chars, [], by simp, [], chars, rfl, ⟨rfl, rfl⟩, chars, [], by simp, ?_, rfl, rfl⟩
    exact plain.matches_around.mpr full

end Pattern
end Text
