import Mathlib.Data.List.Chain
import Mathlib.Tactic.Common

namespace Text

/-- What the text of a statement is read as. -/
inductive Token
  | word (text : String)
  | quoted (name : String)
  | literal (text : String)
  | mark (c : Char)
  deriving DecidableEq

/-- Where the reader is. -/
inductive Mode
  | between
  | word (read : List Char)
  | inside (quote : Char) (read : List Char)
  | escaped (quote : Char) (read : List Char)
  | closing (quote : Char) (read : List Char)

def wordChar (c : Char) : Bool := c.isAlphanum || c == '_'

/-- The quoting rules of a database. -/
structure Dialect where
  nameQuote : Char
  escapes : Bool
  apart : nameQuote ≠ '\'' ∧ nameQuote ≠ ' ' ∧ wordChar nameQuote = false

def Token.enclosed (quote : Char) (read : List Char) : Token :=
  if quote = '\'' then .literal (String.ofList read) else .quoted (String.ofList read)

/-- The end of the text; an open quote is an error. -/
def Mode.finish : Mode → Option (List Token)
  | between => some []
  | word read => some [.word (String.ofList read)]
  | inside .. | escaped .. => none
  | closing quote read => some [.enclosed quote read]

namespace Dialect
variable (d : Dialect)

def isQuote (c : Char) : Bool := c == '\'' || c == d.nameQuote

/-- A character outside of words and quotes. -/
def start (c : Char) : List Token × Mode :=
  if d.isQuote c then ([], .inside c [])
  else if wordChar c then ([], .word [c])
  else if c.isWhitespace then ([], .between)
  else ([.mark c], .between)

/-- One character: the tokens it completes and where the reader is then. A doubled quote stands for the quote. -/
def step : Mode → Char → List Token × Mode
  | .between, c => d.start c
  | .word read, c =>
    if wordChar c then ([], .word (read ++ [c]))
    else (.word (String.ofList read) :: (d.start c).1, (d.start c).2)
  | .inside quote read, c =>
    if c = quote then ([], .closing quote read)
    else if d.escapes && c == '\\' then ([], .escaped quote read)
    else ([], .inside quote (read ++ [c]))
  | .escaped quote read, c => ([], .inside quote (read ++ [c]))
  | .closing quote read, c =>
    if c = quote then ([], .inside quote (read ++ [c]))
    else (.enclosed quote read :: (d.start c).1, (d.start c).2)

def lexFrom : Mode → List Char → Option (List Token)
  | mode, [] => mode.finish
  | mode, c :: rest => (lexFrom (d.step mode c).2 rest).map ((d.step mode c).1 ++ ·)

def lex (chars : List Char) : Option (List Token) := d.lexFrom .between chars

theorem unquoted {c : Char} (letter : wordChar c = true) : d.isQuote c = false := by
  have literal : c ≠ '\'' := by
    rintro rfl
    revert letter
    decide
  have name : c ≠ d.nameQuote := by
    rintro rfl
    rw [d.apart.2.2] at letter
    cases letter
  simp [isQuote, literal, name]

end Dialect

/-- A token as it is written, or a blank. -/
inductive Piece
  | gap
  | word (text : String)
  | quoted (name : String)
  | literal (text : String)
  | mark (c : Char)

namespace Piece
variable {d : Dialect}

def text (d : Dialect) : Piece → List Char
  | gap => [' ']
  | word text => text.toList
  | quoted name => d.nameQuote :: (name.toList ++ [d.nameQuote])
  | literal text => '\'' :: (text.toList ++ ['\''])
  | mark c => [c]

def tokens : Piece → List Token
  | gap => []
  | word text => [.word text]
  | quoted name => [.quoted name]
  | literal text => [.literal text]
  | mark c => [.mark c]

/-- The characters that may stand between these quotes as themselves. -/
def Inert (quote : Char) (name : String) : Prop := ∀ c ∈ name.toList, c ≠ quote ∧ c ≠ '\\'

theorem inert_of_all {quote : Char} {name : String} (all : name.toList.all (fun c => c != quote && c != '\\') = true) :
    Inert quote name := by
  intro c member
  simpa using List.all_eq_true.mp all c member

/-- The token is written so that it is read back. -/
def Fits (d : Dialect) : Piece → Prop
  | gap => True
  | word text => text ≠ "" ∧ ∀ c ∈ text.toList, wordChar c = true
  | quoted name => Inert d.nameQuote name
  | literal text => Inert '\'' text
  | mark c => d.isQuote c = false ∧ wordChar c = false ∧ c.isWhitespace = false

/-- The one does not run into the other. -/
def Apart : Piece → Piece → Prop
  | word _, word _ | quoted _, quoted _ | literal _, literal _ => False
  | _, _ => True

/-- The text after a token does not continue it. -/
def Ends (d : Dialect) (rest : List Char) : Piece → Prop
  | gap | mark _ => True
  | word _ => ∀ c ∈ rest.head?, wordChar c = false
  | quoted _ => ∀ c ∈ rest.head?, c ≠ d.nameQuote
  | literal _ => ∀ c ∈ rest.head?, c ≠ '\''

theorem lexFrom_word (read : List Char) {chars rest : List Char} (letters : ∀ c ∈ chars, wordChar c = true)
    (ends : ∀ c ∈ rest.head?, wordChar c = false) :
    d.lexFrom (.word read) (chars ++ rest) = (d.lex rest).map (.word (String.ofList (read ++ chars)) :: ·) := by
  induction chars generalizing read with
  | nil =>
    cases rest with
    | nil => simp [Dialect.lexFrom, Dialect.lex, Mode.finish]
    | cons c rest =>
      have other : wordChar c = false := ends c (by simp)
      simp [Dialect.lexFrom, Dialect.lex, Dialect.step, other, Function.comp_def]
  | cons c chars ih =>
    have letter : wordChar c = true := letters c List.mem_cons_self
    have rest_read := ih (read ++ [c]) fun e member => letters e (List.mem_cons_of_mem c member)
    simpa [Dialect.lexFrom, Dialect.step, letter] using rest_read

theorem lexFrom_inside {quote : Char} (read : List Char) {chars rest : List Char}
    (inert : ∀ c ∈ chars, c ≠ quote ∧ c ≠ '\\')
    (ends : ∀ c ∈ rest.head?, c ≠ quote) :
    d.lexFrom (.inside quote read) (chars ++ quote :: rest) =
      (d.lex rest).map (Token.enclosed quote (read ++ chars) :: ·) := by
  induction chars generalizing read with
  | nil =>
    cases rest with
    | nil => simp [Dialect.lexFrom, Dialect.lex, Mode.finish, Dialect.step]
    | cons c rest =>
      have other : c ≠ quote := ends c (by simp)
      simp [Dialect.lexFrom, Dialect.lex, Dialect.step, other, Function.comp_def]
  | cons c chars ih =>
    obtain ⟨other, plain⟩ := inert c List.mem_cons_self
    have rest_read := ih (read ++ [c]) fun e member => inert e (List.mem_cons_of_mem c member)
    simpa [Dialect.lexFrom, Dialect.step, other, plain] using rest_read

/-- A token that fits is read back, whatever follows it without continuing it. -/
theorem Fits.lex {p : Piece} {rest : List Char} (fits : p.Fits d) (ends : p.Ends d rest) :
    d.lex (p.text d ++ rest) = (d.lex rest).map (p.tokens ++ ·) := by
  cases p with
  | gap =>
    have blank : d.isQuote ' ' = false := by
      simpa [Dialect.isQuote] using Ne.symm d.apart.2.1
    simp [text, tokens, Dialect.lex, Dialect.lexFrom, Dialect.step, Dialect.start, blank,
      show wordChar ' ' = false by decide,
      show ' '.isWhitespace = true by decide]
  | mark c =>
    obtain ⟨unquoted, other, visible⟩ := fits
    simp [text, tokens, Dialect.lex, Dialect.lexFrom, Dialect.step, Dialect.start, unquoted, other, visible]
  | word word =>
    obtain ⟨some, letters⟩ := fits
    cases chars : word.toList with
    | nil => exact absurd (String.toList_inj.mp (chars.trans String.toList_empty.symm)) some
    | cons c more =>
      rw [chars] at letters
      have letter : wordChar c = true := letters c List.mem_cons_self
      have unquoted : d.isQuote c = false := d.unquoted letter
      have more_read := lexFrom_word (d := d) [c] (fun e member => letters e (List.mem_cons_of_mem c member)) ends
      have whole : String.ofList (c :: more) = word := by rw [← chars, String.ofList_toList]
      simp only [List.singleton_append, whole] at more_read
      simp [text, tokens, chars, Dialect.lex, Dialect.lexFrom, Dialect.step, Dialect.start, unquoted, letter]
      exact more_read
  | quoted name =>
    have name_read := lexFrom_inside (d := d) [] fits ends
    have opening : d.isQuote d.nameQuote = true := by simp [Dialect.isQuote]
    simp only [List.nil_append, Token.enclosed, d.apart.1, if_false, String.ofList_toList] at name_read
    simp [text, tokens, Dialect.lex, Dialect.lexFrom, Dialect.step, Dialect.start, opening]
    exact name_read
  | literal content =>
    have text_read := lexFrom_inside (d := d) [] fits ends
    have opening : d.isQuote '\'' = true := by simp [Dialect.isQuote]
    simp only [List.nil_append, Token.enclosed, if_true, String.ofList_toList] at text_read
    simp [text, tokens, Dialect.lex, Dialect.lexFrom, Dialect.step, Dialect.start, opening]
    exact text_read

theorem Apart.ends {p q : Piece} (apart : p.Apart q) (fits : q.Fits d) (more : List Char) :
    p.Ends d (q.text d ++ more) := by
  have blank : ' ' ≠ d.nameQuote := Ne.symm d.apart.2.1
  have other : '\'' ≠ d.nameQuote := Ne.symm d.apart.1
  have head : ∀ c ∈ (q.text d ++ more).head?, (wordChar c = true → ∃ text, q = word text) ∧
      (c = d.nameQuote → ∃ name, q = quoted name) ∧ (c = '\'' → ∃ text, q = literal text) := by
    intro c first
    cases q with
    | gap =>
      obtain rfl : ' ' = c := by simpa [text] using first
      exact ⟨fun letter => absurd letter (by decide), fun same => absurd same blank,
        fun same => absurd same (by decide)⟩
    | quoted name =>
      obtain rfl : d.nameQuote = c := by simpa [text] using first
      exact ⟨fun letter => absurd letter (by simp [d.apart.2.2]), fun _ => ⟨name, rfl⟩,
        fun same => absurd same.symm other⟩
    | literal content =>
      obtain rfl : '\'' = c := by simpa [text] using first
      exact ⟨fun letter => absurd letter (by decide), fun same => absurd same other, fun _ => ⟨content, rfl⟩⟩
    | mark e =>
      obtain rfl : e = c := by simpa [text] using first
      obtain ⟨unquoted, plain, -⟩ := fits
      simp only [Dialect.isQuote, Bool.or_eq_false_iff, beq_eq_false_iff_ne] at unquoted
      exact ⟨fun letter => absurd letter (by simp [plain]), fun same => absurd same unquoted.2,
        fun same => absurd same unquoted.1⟩
    | word chars =>
      obtain ⟨some, letters⟩ := fits
      have letter : wordChar c = true := by
        cases whole : chars.toList with
        | nil => exact absurd (String.toList_inj.mp (whole.trans String.toList_empty.symm)) some
        | cons e rest =>
          obtain rfl : e = c := by simpa [text, whole] using first
          exact letters e (by simp [whole])
      have unquoted := d.unquoted letter
      simp only [Dialect.isQuote, Bool.or_eq_false_iff, beq_eq_false_iff_ne] at unquoted
      exact ⟨fun _ => ⟨chars, rfl⟩, fun same => absurd same unquoted.2, fun same => absurd same unquoted.1⟩
  cases p with
  | gap | mark => trivial
  | word chars =>
    intro c first
    by_contra letter
    obtain ⟨text, rfl⟩ := (head c first).1 (by simpa using letter)
    exact apart
  | quoted name =>
    rintro c first rfl
    obtain ⟨text, rfl⟩ := (head _ first).2.1 rfl
    exact apart
  | literal content =>
    rintro c first rfl
    obtain ⟨text, rfl⟩ := (head _ first).2.2 rfl
    exact apart

theorem ends_nil (p : Piece) : p.Ends d [] := by
  cases p <;> simp [Ends]

/-- What is written as tokens that fit and stand apart is read as these tokens. -/
theorem lex_render {pieces : List Piece} (fits : ∀ p ∈ pieces, p.Fits d) (chain : pieces.IsChain Apart) :
    d.lex (pieces.flatMap (text d)) = some (pieces.flatMap tokens) := by
  induction pieces with
  | nil => rfl
  | cons p pieces ih =>
    have rest := ih (fun q member => fits q (List.mem_cons_of_mem p member)) chain.tail
    have ends : p.Ends d (pieces.flatMap (text d)) := by
      cases pieces with
      | nil => exact p.ends_nil
      | cons q more =>
        rw [List.flatMap_cons]
        exact (List.isChain_cons_cons.mp chain).1.ends (fits q (by simp)) _
    rw [List.flatMap_cons, (fits p List.mem_cons_self).lex ends, rest, List.flatMap_cons]
    rfl

theorem chain_gap {before after : List Piece} (first : before.IsChain Apart) (last : after.IsChain Apart) :
    (before ++ gap :: after).IsChain Apart := by
  rw [List.isChain_append]
  refine ⟨first, ?_, fun p _ q head => ?_⟩
  · rw [List.isChain_cons]
    exact ⟨fun _ _ => trivial, last⟩
  · obtain rfl : gap = q := by simpa using head
    cases p <;> trivial

theorem chain_mark {before after : List Piece} (c : Char) (first : before.IsChain Apart) (last : after.IsChain Apart) :
    (before ++ mark c :: after).IsChain Apart := by
  rw [List.isChain_append]
  refine ⟨first, ?_, fun p _ q head => ?_⟩
  · rw [List.isChain_cons]
    exact ⟨fun _ _ => trivial, last⟩
  · obtain rfl : mark c = q := by simpa using head
    cases p <;> trivial

end Piece

/-- The text is a way to write the tokens. -/
def Written (d : Dialect) (chars : List Char) (tokens : List Token) : Prop :=
  ∃ pieces : List Piece, pieces.flatMap (Piece.text d) = chars ∧ pieces.flatMap Piece.tokens = tokens ∧
    (∀ p ∈ pieces, p.Fits d) ∧ pieces.IsChain Piece.Apart

namespace Written
variable {d : Dialect} {first second : List Char} {left right : List Token}

theorem lex (written : Written d first left) : d.lex first = some left := by
  obtain ⟨pieces, rfl, rfl, fits, chain⟩ := written
  exact Piece.lex_render fits chain

theorem piece {p : Piece} (fits : p.Fits d) : Written d (p.text d) p.tokens :=
  ⟨[p], by simp, by simp, by simpa using fits, by simp⟩

theorem word {text : String} (some : text ≠ "") (letters : ∀ c ∈ text.toList, wordChar c = true) :
    Written d text.toList [.word text] := piece (p := .word text) ⟨some, letters⟩

theorem quoted {name : String} (inert : Piece.Inert d.nameQuote name) :
    Written d (d.nameQuote :: (name.toList ++ [d.nameQuote])) [.quoted name] := piece (p := .quoted name) inert

theorem literal {text : String} (inert : Piece.Inert '\'' text) :
    Written d ('\'' :: (text.toList ++ ['\''])) [.literal text] := piece (p := .literal text) inert

theorem gap (a : Written d first left) (b : Written d second right) :
    Written d (first ++ ' ' :: second) (left ++ right) := by
  obtain ⟨before, rfl, rfl, fitsBefore, chainBefore⟩ := a
  obtain ⟨after, rfl, rfl, fitsAfter, chainAfter⟩ := b
  refine ⟨before ++ .gap :: after, ?_, ?_, ?_, Piece.chain_gap chainBefore chainAfter⟩
  · simp [Piece.text]
  · simp [Piece.tokens]
  · intro p member
    rcases List.mem_append.mp member with inside | inside
    · exact fitsBefore p inside
    · rcases List.mem_cons.mp inside with rfl | inside
      · trivial
      · exact fitsAfter p inside

theorem mark {c : Char} (fits : (Piece.mark c).Fits d) (a : Written d first left) (b : Written d second right) :
    Written d (first ++ c :: second) (left ++ .mark c :: right) := by
  obtain ⟨before, rfl, rfl, fitsBefore, chainBefore⟩ := a
  obtain ⟨after, rfl, rfl, fitsAfter, chainAfter⟩ := b
  refine ⟨before ++ .mark c :: after, ?_, ?_, ?_, Piece.chain_mark c chainBefore chainAfter⟩
  · simp [Piece.text]
  · simp [Piece.tokens]
  · intro p member
    rcases List.mem_append.mp member with inside | inside
    · exact fitsBefore p inside
    · rcases List.mem_cons.mp inside with rfl | inside
      · exact fits
      · exact fitsAfter p inside

theorem empty : Written d [] [] := ⟨[], rfl, rfl, by simp, by simp⟩

/-- A blank in front. -/
theorem after_blank (a : Written d first left) : Written d (' ' :: first) left := empty.gap a

end Written

end Text
