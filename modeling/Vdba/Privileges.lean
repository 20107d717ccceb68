import Vdba.Text.Lexer
import Vdba.Requests

namespace Vdba
open Text (Token Piece Dialect)

def dialect : DbType → Dialect
  | .postgres => ⟨'"', false, by decide⟩
  | .clickhouse => ⟨'\x60', true, by decide⟩

/-- What privileges are on. -/
inductive Thing
  | database (name : String)
  | schema (name : String)
  | table (schema name : String)
  | sequence (schema name : String)
  deriving DecidableEq

structure Privilege where
  command : String
  on : Thing
  deriving DecidableEq

/-- What a creation statement does. -/
inductive Meaning
  | account (name password expiry : String)
  | grant (privileges : List Privilege) (grantee : String)
  deriving DecidableEq

/-- A list of commands, each of one or two words. -/
def readCommands : List Token → Option (List String)
  | [.word a] => some [a]
  | [.word a, .word b] => some [a ++ " " ++ b]
  | .word a :: .mark ',' :: rest => (readCommands rest).map (a :: ·)
  | .word a :: .word b :: .mark ',' :: rest => (readCommands rest).map ((a ++ " " ++ b) :: ·)
  | _ => none

def readThing : DbType → List Token → Option (Thing × String)
  | .postgres, [.word "ON", .word "DATABASE", .quoted name, .word "TO", .quoted grantee] =>
    some (.database name, grantee)
  | .postgres, [.word "ON", .word "SCHEMA", .quoted name, .word "TO", .quoted grantee] => some (.schema name, grantee)
  | .postgres, [.word "ON", .word "TABLE", .quoted schema, .mark '.', .quoted name, .word "TO", .quoted grantee] =>
    some (.table schema name, grantee)
  | .postgres, [.word "ON", .word "SEQUENCE", .quoted schema, .mark '.', .quoted name, .word "TO", .quoted grantee] =>
    some (.sequence schema name, grantee)
  | .clickhouse, [.word "ON", .quoted schema, .mark '.', .quoted name, .word "TO", .literal grantee] =>
    some (.table schema name, grantee)
  | _, _ => none

def readGrant (db : DbType) (tokens : List Token) : Option Meaning := do
  let commands ← readCommands (tokens.takeWhile (· ≠ .word "ON"))
  let (on, grantee) ← readThing db (tokens.dropWhile (· ≠ .word "ON"))
  return .grant (commands.map (⟨·, on⟩)) grantee

def readTokens : DbType → List Token → Option Meaning
  | .postgres, [.word "CREATE", .word "ROLE", .quoted name, .word "WITH", .word "LOGIN", .word "PASSWORD",
      .literal password, .word "VALID", .word "UNTIL", .literal expiry, .word "CONNECTION", .word "LIMIT", .word _] =>
    some (.account name password expiry)
  | .clickhouse, [.word "CREATE", .word "USER", .literal name, .word "IDENTIFIED", .word "WITH", .word _, .word "BY",
      .literal password, .word "VALID", .word "UNTIL", .literal expiry] => some (.account name password expiry)
  | db, .word "GRANT" :: tokens => readGrant db tokens
  | _, _ => none

def readQuery (db : DbType) (query : List Char) : Option Meaning := ((dialect db).lex query).bind (readTokens db)

def trim (chars : List Char) : List Char :=
  ((chars.dropWhile Char.isWhitespace).reverse.dropWhile Char.isWhitespace).reverse

/-- The queries Vault sends for creation statements: cut at every `;`, trimmed, the empty ones left out. -/
def vaultQueries (statements : List String) : List (List Char) :=
  (((statements.flatMap String.toList).splitOn ';').map trim).filter (· ≠ [])

/-- The schema or database of the tables. -/
def schemaOf : DbType → String
  | .postgres => "public"
  | .clickhouse => CLICKHOUSE_DB

section commands
variable {db : DbType} {commands : List String}

/-- A command as it is read. -/
def commandTokens (command : String) : List Token :=
  if command = "ALTER UPDATE" then [.word "ALTER", .word "UPDATE"]
  else if command = "ALTER DELETE" then [.word "ALTER", .word "DELETE"]
  else [.word command]

def listTokens : List String → List Token
  | [] => []
  | [c] => commandTokens c
  | c :: rest => commandTokens c ++ .mark ',' :: listTokens rest

/-- A command the dialect reads as it was meant. -/
structure Readable (db : DbType) (command : String) : Prop where
  written : Text.Written (dialect db) command.toList (commandTokens command)
  other : .word "ON" ∉ commandTokens command
  unsplit : ';' ∉ command.toList

theorem readable_word {command : String} (some : command ≠ "")
    (letters : ∀ c ∈ command.toList, Text.wordChar c = true) (other : .word "ON" ∉ commandTokens command)
    (one : commandTokens command = [.word command]) : Readable db command := by
  refine ⟨?_, other, fun split => absurd (letters _ split) (by decide)⟩
  rw [one]
  exact .word some letters

theorem readable_allowed : ∀ c ∈ allowedCommands db, Readable db c := by
  have alter (word : String) (some : word ≠ "") (letters : ∀ c ∈ word.toList, Text.wordChar c = true) :
      Text.Written (dialect db) ("ALTER".toList ++ ' ' :: word.toList) ([.word "ALTER"] ++ [.word word]) :=
    (Text.Written.word (by decide) (List.all_eq_true.mp (by decide))).gap (.word some letters)
  intro c member
  cases db with
  | postgres =>
    simp only [allowedCommands, ALLOWED_POSTGRES_COMMANDS, List.mem_cons, List.not_mem_nil, or_false] at member
    rcases member with rfl | rfl | rfl | rfl <;>
      exact readable_word (by decide) (List.all_eq_true.mp (by decide)) (by decide) (by decide)
  | clickhouse =>
    simp only [allowedCommands, ALLOWED_CLICKHOUSE_COMMANDS, List.mem_cons, List.not_mem_nil, or_false] at member
    rcases member with rfl | rfl | rfl | rfl
    · exact readable_word (by decide) (List.all_eq_true.mp (by decide)) (by decide) (by decide)
    · exact readable_word (by decide) (List.all_eq_true.mp (by decide)) (by decide) (by decide)
    · exact ⟨alter "UPDATE" (by decide) (List.all_eq_true.mp (by decide)), by decide, by decide⟩
    · exact ⟨alter "DELETE" (by decide) (List.all_eq_true.mp (by decide)), by decide, by decide⟩

theorem commandTokens_cases (command : String) : commandTokens command = [.word command] ∨
    ∃ a b, commandTokens command = [.word a, .word b] ∧ command = a ++ " " ++ b := by
  unfold commandTokens
  split
  · exact Or.inr ⟨"ALTER", "UPDATE", rfl, by assumption⟩
  · split
    · exact Or.inr ⟨"ALTER", "DELETE", rfl, by assumption⟩
    · exact Or.inl rfl

theorem comma_fits : (Piece.mark ',').Fits (dialect db) := by
  cases db <;> exact ⟨by decide, by decide, by decide⟩

theorem dot_fits : (Piece.mark '.').Fits (dialect db) := by
  cases db <;> exact ⟨by decide, by decide, by decide⟩

theorem list_written (readable : ∀ c ∈ commands, Readable db c) :
    Text.Written (dialect db) (", ".intercalate commands).toList (listTokens commands) := by
  induction commands with
  | nil => exact .empty
  | cons c rest ih =>
    have first := (readable c List.mem_cons_self).written
    have later := ih fun e member => readable e (List.mem_cons_of_mem c member)
    cases rest with
    | nil => simpa [listTokens] using first
    | cons e rest =>
      have split : (", ".intercalate (c :: e :: rest)).toList =
          c.toList ++ ',' :: ' ' :: (", ".intercalate (e :: rest)).toList := by
        rw [String.intercalate_cons_cons, String.toList_append, String.toList_append, List.append_assoc]
        rfl
      rw [split]
      exact first.mark comma_fits later.after_blank

theorem list_other (readable : ∀ c ∈ commands, Readable db c) : .word "ON" ∉ listTokens commands := by
  induction commands with
  | nil => simp [listTokens]
  | cons c rest ih =>
    have first := (readable c List.mem_cons_self).other
    have later := ih fun e member => readable e (List.mem_cons_of_mem c member)
    cases rest with
    | nil => simpa [listTokens] using first
    | cons e rest => simpa [listTokens, first] using later

theorem list_unsplit (readable : ∀ c ∈ commands, Readable db c) : ';' ∉ (", ".intercalate commands).toList := by
  induction commands with
  | nil => simp
  | cons c rest ih =>
    have first := (readable c List.mem_cons_self).unsplit
    have later := ih fun e member => readable e (List.mem_cons_of_mem c member)
    cases rest with
    | nil => simpa using first
    | cons e rest =>
      rw [String.intercalate_cons_cons, String.toList_append, String.toList_append]
      simp only [List.mem_append, not_or]
      exact ⟨⟨first, by decide⟩, later⟩

theorem readCommands_list (asked : commands ≠ []) : readCommands (listTokens commands) = some commands := by
  induction commands with
  | nil => exact absurd rfl asked
  | cons c rest ih =>
    cases rest with
    | nil =>
      rcases commandTokens_cases c with one | ⟨a, b, two, rfl⟩
      · simp [listTokens, one, readCommands]
      · simp [listTokens, two, readCommands]
    | cons e rest =>
      have later := ih (by simp)
      rcases commandTokens_cases c with one | ⟨a, b, two, rfl⟩
      · simp [listTokens, one, readCommands, later]
      · simp [listTokens, two, readCommands, later]

theorem readGrant_list {tokens : List Token} {on : Thing} {grantee : String} (asked : commands ≠ [])
    (readable : ∀ c ∈ commands, Readable db c) (thing : readThing db (.word "ON" :: tokens) = some (on, grantee)) :
    readTokens db (.word "GRANT" :: (listTokens commands ++ .word "ON" :: tokens)) =
      some (.grant (commands.map (⟨·, on⟩)) grantee) := by
  have other : ∀ t ∈ listTokens commands, decide (t ≠ .word "ON") = true := by
    intro t member
    rw [decide_eq_true_eq]
    rintro rfl
    exact list_other readable member
  have read : readTokens db (.word "GRANT" :: (listTokens commands ++ .word "ON" :: tokens)) =
      readGrant db (listTokens commands ++ .word "ON" :: tokens) := by
    cases db <;> rfl
  rw [read]
  unfold readGrant
  rw [List.takeWhile_append_of_pos other, List.dropWhile_append_of_pos other]
  simp [readCommands_list asked, thing]

end commands

section statements
variable {db : DbType}

/-- The statement is one query, which the database reads so. -/
def Means (db : DbType) (statement : String) (meaning : Meaning) : Prop :=
  ∃ query, statement.toList = query ++ [';'] ∧ ';' ∉ query ∧ query ≠ [] ∧ trim query = query ∧
    readQuery db query = some meaning

theorem trim_plain {chars : List Char} (front : ∀ c ∈ chars.head?, c.isWhitespace = false)
    (back : ∀ c ∈ chars.getLast?, c.isWhitespace = false) : trim chars = chars := by
  have left : chars.dropWhile Char.isWhitespace = chars := by
    cases chars with
    | nil => rfl
    | cons c rest => rw [List.dropWhile_cons_of_neg (by simp [front c (by simp)])]
  have right : chars.reverse.dropWhile Char.isWhitespace = chars.reverse := by
    cases back_eq : chars.reverse with
    | nil => rfl
    | cons c rest =>
      have last : c ∈ chars.getLast? := by rw [← List.head?_reverse, back_eq]; rfl
      rw [List.dropWhile_cons_of_neg (by simp [back c last])]
  unfold trim
  rw [left, right, List.reverse_reverse]

/-- Statements of one query each are cut into these queries. -/
theorem vaultQueries_means {statements : List String} {meanings : List Meaning}
    (means : List.Forall₂ (Means db) statements meanings) :
    (vaultQueries statements).map (readQuery db) = meanings.map some := by
  induction means with
  | nil =>
    have none : vaultQueries [] = [] := by decide
    rw [none]
    rfl
  | @cons statement meaning statements meanings first rest ih =>
    obtain ⟨query, text, single, nonempty, trimmed, read⟩ := first
    have split : (statement :: statements).flatMap String.toList =
        query ++ ';' :: statements.flatMap String.toList := by
      rw [List.flatMap_cons, text, List.append_assoc, List.singleton_append]
    unfold vaultQueries at ih ⊢
    rw [split, List.splitOn_append_cons_self_of_not_mem single, List.map_cons, trimmed,
      List.filter_cons_of_pos (by simpa using nonempty), List.map_cons, ih, read, List.map_cons]

/-- A name between quotes is read back whatever the dialect. -/
structure Tame (name : String) : Prop where
  double : Piece.Inert '"' name
  back : Piece.Inert '\x60' name
  single : Piece.Inert '\'' name
  unsplit : ';' ∉ name.toList

theorem tame_of_letters {name : String} (letters : ∀ c ∈ name.toList, Text.wordChar c = true) : Tame name := by
  have other (c : Char) (strange : Text.wordChar c = false) : ∀ e ∈ name.toList, e ≠ c := by
    rintro e member rfl
    rw [letters e member] at strange
    cases strange
  have slash := other '\\' (by decide)
  exact ⟨fun c member => ⟨other '"' (by decide) c member, slash c member⟩,
    fun c member => ⟨other '\x60' (by decide) c member, slash c member⟩,
    fun c member => ⟨other '\'' (by decide) c member, slash c member⟩,
    fun split => other ';' (by decide) ';' split rfl⟩

theorem isIdentifier_letters {name : String} (plain : isIdentifier name) :
    ∀ c ∈ name.toList, Text.wordChar c = true := by
  unfold isIdentifier at plain
  split at plain
  · cases plain
  · rename_i first rest chars
    simp only [Bool.and_eq_true, Bool.or_eq_true, beq_iff_eq, decide_eq_true_eq, List.all_eq_true] at plain
    obtain ⟨⟨start, -⟩, more⟩ := plain
    rw [chars]
    intro c member
    simp only [Text.wordChar, Bool.or_eq_true, beq_iff_eq]
    rcases List.mem_cons.mp member with rfl | member
    · rcases start with alpha | dash
      · exact Or.inl (by simp [Char.isAlphanum, alpha])
      · exact Or.inr dash
    · exact more c member

theorem tame_identifier {name : String} (plain : isIdentifier name) : Tame name :=
  tame_of_letters (isIdentifier_letters plain)

theorem tame_hole : Tame nameHole := by
  exact ⟨Piece.inert_of_all (by decide), Piece.inert_of_all (by decide), Piece.inert_of_all (by decide), by decide⟩

def granteeText : DbType → List Char
  | .postgres => '"' :: (nameHole.toList ++ ['"'])
  | .clickhouse => '\'' :: (nameHole.toList ++ ['\''])

def granteeToken : DbType → Token
  | .postgres => .quoted nameHole
  | .clickhouse => .literal nameHole

theorem grantee_written : Text.Written (dialect db) (granteeText db) [granteeToken db] := by
  cases db with
  | postgres => exact .quoted tame_hole.double
  | clickhouse => exact .literal tame_hole.single

/-- A `GRANT` of readable commands is read as it was meant. -/
theorem grant_means {statement : String} {commands : List String} {front : List Char} {tokens : List Token} {on : Thing}
    (asked : commands ≠ []) (readable : ∀ c ∈ commands, Readable db c)
    (text : statement.toList = "GRANT".toList ++ ' ' :: ((", ".intercalate commands).toList ++ ' ' :: ("ON".toList ++
      ' ' :: (front ++ ' ' :: ("TO".toList ++ ' ' :: granteeText db)))) ++ [';'])
    (written : Text.Written (dialect db) front tokens) (single : ';' ∉ front)
    (thing : readThing db (.word "ON" :: (tokens ++ [.word "TO", granteeToken db])) = some (on, nameHole)) :
    Means db statement (.grant (commands.map (⟨·, on⟩)) nameHole) := by
  have word (chars : String) (some : chars ≠ "") (letters : ∀ c ∈ chars.toList, Text.wordChar c = true) :
      Text.Written (dialect db) chars.toList [.word chars] := .word some letters
  have whole := (word "GRANT" (by decide) (List.all_eq_true.mp (by decide))).gap ((list_written readable).gap
    ((word "ON" (by decide) (List.all_eq_true.mp (by decide))).gap (written.gap
      ((word "TO" (by decide) (List.all_eq_true.mp (by decide))).gap grantee_written))))
  have unsplit : ';' ∉ granteeText db := by
    cases db <;> decide
  refine ⟨_, text, ?_, by simp, trim_plain ?_ ?_, ?_⟩
  · simp only [List.mem_append, List.mem_cons, not_or]
    exact ⟨by decide, by decide, list_unsplit readable, by decide, by decide, by decide, single, by decide, by decide,
      by decide, unsplit⟩
  · have first : "GRANT".toList = ['G', 'R', 'A', 'N', 'T'] := by decide
    simp [first]
  · have last : (granteeText db).getLast? = some '"' ∨ (granteeText db).getLast? = some '\'' := by
      cases db <;> decide
    have parts : "GRANT".toList ++ ' ' :: ((", ".intercalate commands).toList ++ ' ' :: ("ON".toList ++ ' ' :: (front ++
        ' ' :: ("TO".toList ++ ' ' :: granteeText db)))) =
        ("GRANT".toList ++ ' ' :: ((", ".intercalate commands).toList ++ ' ' :: ("ON".toList ++ ' ' :: (front ++
        ' ' :: ("TO".toList ++ [' ']))))) ++ granteeText db := by simp
    intro c final
    rw [parts, List.getLast?_append] at final
    rcases last with last | last
    all_goals
      rw [last] at final
      obtain rfl := Option.some.inj final
      decide
  · unfold readQuery
    rw [whole.lex]
    exact readGrant_list asked readable thing

theorem grantTable_means {commands : List String} {table : String} (asked : commands ≠ [])
    (readable : ∀ c ∈ commands, Readable .postgres c) (plain : isIdentifier table) :
    Means .postgres (grantTableStatement (", ".intercalate commands) table)
      (.grant (commands.map (⟨·, .table "public" table⟩)) nameHole) := by
  have tame := tame_identifier plain
  have front : Text.Written (dialect .postgres)
      ("TABLE".toList ++ ' ' :: (('"' :: ("public".toList ++ ['"'])) ++ '.' :: ('"' :: (table.toList ++ ['"']))))
      [.word "TABLE", .quoted "public", .mark '.', .quoted table] :=
    (Text.Written.word (by decide) (List.all_eq_true.mp (by decide))).gap
      ((Text.Written.quoted (tame_of_letters (List.all_eq_true.mp (by decide))).double).mark dot_fits (.quoted tame.double))
  refine grant_means asked readable ?_ front ?_ (by simp [readThing, granteeToken])
  · simp only [grantTableStatement, granteeText, String.toList_append, List.append_assoc, List.cons_append,
      List.nil_append]
    rfl
  · have absent := tame.unsplit
    simp only [List.mem_append, List.mem_cons, not_or]
    exact ⟨by decide, by decide, ⟨by decide, by decide, by decide⟩, by decide, by decide, absent, by decide⟩

theorem grantSequence_means {seq : String} (plain : isIdentifier seq) :
    Means .postgres (grantSequenceStatement seq) (.grant [⟨"USAGE", .sequence "public" seq⟩] nameHole) := by
  have tame := tame_identifier plain
  have front : Text.Written (dialect .postgres)
      ("SEQUENCE".toList ++ ' ' :: (('"' :: ("public".toList ++ ['"'])) ++ '.' :: ('"' :: (seq.toList ++ ['"']))))
      [.word "SEQUENCE", .quoted "public", .mark '.', .quoted seq] :=
    (Text.Written.word (by decide) (List.all_eq_true.mp (by decide))).gap
      ((Text.Written.quoted (tame_of_letters (List.all_eq_true.mp (by decide))).double).mark dot_fits (.quoted tame.double))
  have readable : ∀ c ∈ ["USAGE"], Readable .postgres c := by
    intro c member
    obtain rfl := List.mem_singleton.mp member
    exact readable_word (by decide) (List.all_eq_true.mp (by decide)) (by decide) (by decide)
  have thing : readThing .postgres (.word "ON" :: ([.word "SEQUENCE", .quoted "public", .mark '.', .quoted seq] ++
      [.word "TO", granteeToken .postgres])) = some (.sequence "public" seq, nameHole) := by
    simp [readThing, granteeToken]
  have single : ';' ∉ "SEQUENCE".toList ++ ' ' :: (('"' :: ("public".toList ++ ['"'])) ++
      '.' :: ('"' :: (seq.toList ++ ['"']))) := by
    have absent := tame.unsplit
    simp only [List.mem_append, List.mem_cons, not_or]
    exact ⟨by decide, by decide, ⟨by decide, by decide, by decide⟩, by decide, by decide, absent, by decide⟩
  have asked : ["USAGE"] ≠ [] := List.cons_ne_nil _ _
  have text : (grantSequenceStatement seq).toList = "GRANT".toList ++ ' ' :: ((", ".intercalate ["USAGE"]).toList ++
      ' ' :: ("ON".toList ++ ' ' :: (("SEQUENCE".toList ++ ' ' :: (('"' :: ("public".toList ++ ['"'])) ++
      '.' :: ('"' :: (seq.toList ++ ['"'])))) ++ ' ' :: ("TO".toList ++ ' ' :: granteeText .postgres)))) ++ [';'] := by
    have head : "GRANT USAGE ON SEQUENCE \"public\".\"".toList = "GRANT".toList ++ ' ' :: ("USAGE".toList ++
        ' ' :: ("ON".toList ++ ' ' :: ("SEQUENCE".toList ++ ' ' :: (('"' :: ("public".toList ++ ['"'])) ++ ['.', '"'])))) := by
      decide
    have middle : "\" TO \"".toList = '"' :: ' ' :: ("TO".toList ++ [' ', '"']) := by decide
    have close : "\";".toList = ['"', ';'] := by decide
    unfold grantSequenceStatement granteeText
    rw [String.intercalate_singleton, String.toList_append, String.toList_append, String.toList_append,
      String.toList_append, head, middle, close]
    simp only [List.append_assoc, List.cons_append, List.nil_append]
  exact grant_means asked readable text front single thing

theorem grantClickhouse_means {commands : List String} {table : String} (asked : commands ≠ [])
    (readable : ∀ c ∈ commands, Readable .clickhouse c) (plain : isIdentifier table) :
    Means .clickhouse (grantClickhouseStatement (", ".intercalate commands) table)
      (.grant (commands.map (⟨·, .table CLICKHOUSE_DB table⟩)) nameHole) := by
  have tame := tame_identifier plain
  have front : Text.Written (dialect .clickhouse)
      (('\x60' :: (CLICKHOUSE_DB.toList ++ ['\x60'])) ++ '.' :: ('\x60' :: (table.toList ++ ['\x60'])))
      [.quoted CLICKHOUSE_DB, .mark '.', .quoted table] :=
    (Text.Written.quoted (tame_of_letters (List.all_eq_true.mp (by decide))).back).mark dot_fits (.quoted tame.back)
  refine grant_means asked readable ?_ front ?_ (by simp [readThing, granteeToken])
  · simp only [grantClickhouseStatement, granteeText, String.toList_append, List.append_assoc, List.cons_append,
      List.nil_append]
    rfl
  · have absent := tame.unsplit
    simp only [List.mem_append, List.mem_cons, not_or]
    exact ⟨⟨by decide, by decide, by decide⟩, by decide, by decide, absent, by decide⟩

/-- A statement without names from outside. -/
theorem means_of_query {statement : String} {meaning : Meaning} (query : List Char)
    (fixed : statement.toList = query ++ [';'] ∧ ';' ∉ query ∧ query ≠ [] ∧ trim query = query ∧
      readQuery db query = some meaning) : Means db statement meaning := ⟨query, fixed⟩

set_option maxRecDepth 10000 in
theorem createRole_means :
    Means .postgres createRoleStatement (.account nameHole passwordHole expirationHole) :=
  means_of_query createRoleStatement.toList.dropLast (by decide)

set_option maxRecDepth 10000 in
theorem grantConnect_means :
    Means .postgres grantConnectStatement (.grant [⟨"CONNECT", .database POSTGRES_DB⟩] nameHole) :=
  means_of_query grantConnectStatement.toList.dropLast (by decide)

theorem grantSchema_means :
    Means .postgres grantSchemaStatement (.grant [⟨"USAGE", .schema "public"⟩] nameHole) :=
  means_of_query grantSchemaStatement.toList.dropLast (by decide)

set_option maxRecDepth 10000 in
theorem createUser_means :
    Means .clickhouse createUserStatement (.account nameHole passwordHole expirationHole) :=
  means_of_query createUserStatement.toList.dropLast (by decide)

end statements

/-- What a grant confers on an account. -/
def Conferred (meanings : List Meaning) (grantee : String) (p : Privilege) : Prop :=
  ∃ privileges, .grant privileges grantee ∈ meanings ∧ p ∈ privileges

/-- The accounts created, each with its password and expiry. -/
def accounts (meanings : List Meaning) : List (String × String × String) :=
  meanings.filterMap fun meaning => match meaning with
    | .account name password expiry => some (name, password, expiry)
    | .grant .. => none

/-- The privileges a request asks for. -/
def Requested (db : DbType) (commands chosen : List String) (sequences : Sequences) (p : Privilege) : Prop :=
  match p.on with
  | .database name => db = .postgres ∧ name = POSTGRES_DB ∧ p.command = "CONNECT"
  | .schema name => db = .postgres ∧ name = "public" ∧ p.command = "USAGE"
  | .table schema name => schema = schemaOf db ∧ name ∈ chosen ∧ p.command ∈ commands
  | .sequence schema name => db = .postgres ∧ schema = "public" ∧ "INSERT" ∈ commands ∧
      (∃ table ∈ chosen, name ∈ sequences.of table) ∧ p.command = "USAGE"

/-- The reading of the statements of a request. -/
def meaningsOf (db : DbType) (commands chosen : List String) (sequences : Sequences) : List Meaning :=
  .account nameHole passwordHole expirationHole :: match db with
  | .postgres =>
    [.grant [⟨"CONNECT", .database POSTGRES_DB⟩] nameHole, .grant [⟨"USAGE", .schema "public"⟩] nameHole] ++
      chosen.map (fun t => .grant ((fromkeys commands).map (⟨·, .table "public" t⟩)) nameHole) ++
      (neededSequences .postgres commands chosen sequences).map (fun s => .grant [⟨"USAGE", .sequence "public" s⟩] nameHole)
  | .clickhouse =>
    chosen.map fun t => .grant ((fromkeys commands).map (⟨·, .table CLICKHOUSE_DB t⟩)) nameHole

section requests
variable {db : DbType} {scope : Scope} {tables commands known chosen : List String} {sequences : Sequences}

theorem forall₂_map {names : List String} {statement : String → String} {meaning : String → Meaning}
    (each : ∀ name ∈ names, Means db (statement name) (meaning name)) :
    List.Forall₂ (Means db) (names.map statement) (names.map meaning) := by
  induction names with
  | nil => exact .nil
  | cons name rest ih =>
    exact .cons (each name List.mem_cons_self) (ih fun e member => each e (List.mem_cons_of_mem name member))

theorem creation_means (buildable : Buildable db scope tables commands known sequences) :
    List.Forall₂ (Means db) (creationOf db commands (chosenTables scope tables known) sequences)
      (meaningsOf db commands (chosenTables scope tables known) sequences) := by
  have asked : fromkeys commands ≠ [] := by
    obtain ⟨c, member⟩ := List.exists_mem_of_ne_nil _ buildable.asked
    exact List.ne_nil_of_mem (mem_fromkeys.mpr member)
  have readable : ∀ c ∈ fromkeys commands, Readable db c :=
    fun c member => readable_allowed c (buildable.allowed c (mem_fromkeys.mp member))
  cases db with
  | postgres =>
    have granted := forall₂_map fun t member => grantTable_means asked readable (buildable.plain t member)
    have used := forall₂_map fun s member => grantSequence_means (buildable.owned s member)
    have fixed : List.Forall₂ (Means .postgres) [createRoleStatement, grantConnectStatement, grantSchemaStatement]
        [.account nameHole passwordHole expirationHole, .grant [⟨"CONNECT", .database POSTGRES_DB⟩] nameHole,
          .grant [⟨"USAGE", .schema "public"⟩] nameHole] :=
      .cons createRole_means (.cons grantConnect_means (.cons grantSchema_means .nil))
    exact List.rel_append (List.rel_append fixed granted) used
  | clickhouse =>
    exact .cons createUser_means
      (forall₂_map fun t member => grantClickhouse_means asked readable (buildable.plain t member))

theorem meanings_account :
    accounts (meaningsOf db commands chosen sequences) = [(nameHole, passwordHole, expirationHole)] := by
  cases db <;> simp [accounts, meaningsOf, List.filterMap_map, List.filterMap_append]

theorem meanings_conferred {grantee : String} {p : Privilege} :
    Conferred (meaningsOf db commands chosen sequences) grantee p ↔
      grantee = nameHole ∧ Requested db commands chosen sequences p := by
  constructor
  · rintro ⟨privileges, member, inside⟩
    cases db with
    | postgres =>
      simp only [meaningsOf, List.mem_cons, List.mem_append, List.mem_map, List.not_mem_nil, or_false, reduceCtorEq,
        false_or, Meaning.grant.injEq] at member
      rcases member with ((⟨rfl, rfl⟩ | ⟨rfl, rfl⟩) | ⟨t, there, rfl, rfl⟩) | ⟨s, there, rfl, rfl⟩
      · obtain rfl := List.mem_singleton.mp inside
        exact ⟨rfl, rfl, rfl, rfl⟩
      · obtain rfl := List.mem_singleton.mp inside
        exact ⟨rfl, rfl, rfl, rfl⟩
      · obtain ⟨c, listed, rfl⟩ := List.mem_map.mp inside
        exact ⟨rfl, rfl, there, mem_fromkeys.mp listed⟩
      · obtain rfl := List.mem_singleton.mp inside
        unfold neededSequences at there
        split at there
        · rename_i inserts
          obtain ⟨table, picked, owned⟩ := List.mem_flatMap.mp there
          exact ⟨rfl, rfl, rfl, inserts.2, ⟨table, picked, owned⟩, rfl⟩
        · cases there
    | clickhouse =>
      simp only [meaningsOf, List.mem_cons, List.mem_map, reduceCtorEq, false_or, Meaning.grant.injEq] at member
      obtain ⟨t, there, rfl, rfl⟩ := member
      obtain ⟨c, listed, rfl⟩ := List.mem_map.mp inside
      exact ⟨rfl, rfl, there, mem_fromkeys.mp listed⟩
  · rcases p with ⟨command, on⟩
    rintro ⟨rfl, asked⟩
    cases on with
    | database name =>
      obtain ⟨rfl, rfl, rfl⟩ := asked
      exact ⟨_, by simp [meaningsOf], List.mem_singleton_self _⟩
    | schema name =>
      obtain ⟨rfl, rfl, rfl⟩ := asked
      exact ⟨_, by simp [meaningsOf], List.mem_singleton_self _⟩
    | table schema name =>
      obtain ⟨rfl, there, listed⟩ := asked
      refine ⟨(fromkeys commands).map (⟨·, .table (schemaOf db) name⟩), ?_,
        List.mem_map.mpr ⟨command, mem_fromkeys.mpr listed, rfl⟩⟩
      cases db with
      | postgres => exact List.mem_cons_of_mem _ (List.mem_append_left _ (List.mem_append_right _ (List.mem_map.mpr ⟨name, there, rfl⟩)))
      | clickhouse => exact List.mem_cons_of_mem _ (List.mem_map.mpr ⟨name, there, rfl⟩)
    | sequence schema name =>
      obtain ⟨rfl, rfl, inserts, ⟨table, picked, owned⟩, rfl⟩ := asked
      refine ⟨[⟨"USAGE", .sequence "public" name⟩], ?_, List.mem_singleton_self _⟩
      have needed : name ∈ neededSequences .postgres commands chosen sequences := by
        unfold neededSequences
        rw [if_pos ⟨rfl, inserts⟩]
        exact List.mem_flatMap.mpr ⟨table, picked, owned⟩
      exact List.mem_cons_of_mem _ (List.mem_append_right _ (List.mem_map.mpr ⟨name, needed, rfl⟩))

/-- `build_statements` refuses exactly the requests that are not well formed; the queries Vault makes of the others are
read as the creation of one account with expiry and as the privileges asked for, conferred on this account. -/
theorem buildStatements_grants (db : DbType) (scope : Scope) (tables commands known : List String)
    (sequences : Sequences) :
    ((∃ text, buildStatements db scope tables commands known sequences = .error (valueError text)) ↔
      ¬Buildable db scope tables commands known sequences) ∧
    (Buildable db scope tables commands known sequences → ∃ creation revocation meanings,
      buildStatements db scope tables commands known sequences = .ok (creation, revocation) ∧
      (vaultQueries creation).map (readQuery db) = meanings.map some ∧
      accounts meanings = [(nameHole, passwordHole, expirationHole)] ∧
      ∀ grantee p, Conferred meanings grantee p ↔
        grantee = nameHole ∧ Requested db commands (chosenTables scope tables known) sequences p) := by
  obtain ⟨built, refused⟩ := buildStatements_validates db scope tables commands known sequences
  constructor
  · refine ⟨?_, refused⟩
    rintro ⟨text, failed⟩ buildable
    rw [built buildable] at failed
    cases failed
  · intro buildable
    exact ⟨_, _, _, built buildable, vaultQueries_means (creation_means buildable), meanings_account,
      fun grantee p => meanings_conferred⟩

theorem ordersRequest_grants : ∃ creation revocation meanings,
    buildStatements .postgres .tables ["orders", "orders"] ["SELECT", "INSERT"] ["users", "orders"]
      [("orders", ["orders_id_seq"])] = .ok (creation, revocation) ∧
    (vaultQueries creation).map (readQuery .postgres) = meanings.map some ∧
    accounts meanings = [(nameHole, passwordHole, expirationHole)] ∧
    ∀ grantee p, Conferred meanings grantee p ↔ grantee = nameHole ∧
      Requested .postgres ["SELECT", "INSERT"] ["orders"] [("orders", ["orders_id_seq"])] p :=
  (buildStatements_grants .postgres .tables ["orders", "orders"] ["SELECT", "INSERT"] ["users", "orders"]
    [("orders", ["orders_id_seq"])]).2 ⟨by decide, by decide, by decide, by decide, by decide, by decide⟩

end requests

end Vdba
