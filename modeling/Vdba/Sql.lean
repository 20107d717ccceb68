import Vdba.StatementBuilder

namespace Vdba

/-- What a statement does to an account. -/
inductive Deed
  | create
  | lockout
  | cleanup
  | terminate
  | kill
  | drop
  deriving DecidableEq

/-- A deed and the name it is done to. -/
structure Act where
  deed : Deed
  name : String
  deriving DecidableEq

/-- The part of a text between a beginning and an end. -/
def between (front back text : String) : Option String :=
  let chars := text.toList
  let inner := chars.drop front.toList.length
  if front.toList <+: chars ∧ back.toList <:+ inner then
    some (String.ofList (inner.take (inner.length - back.toList.length)))
  else none

/-- The statements with an effect on accounts, by what stands before and after the name. -/
def templates : List (String × String × Deed) :=
  [("CREATE ROLE \"", "\" WITH LOGIN PASSWORD '" ++ passwordHole ++ "' VALID UNTIL '" ++ expirationHole ++
      "' CONNECTION LIMIT 5;", .create),
    ("CREATE USER '", "' IDENTIFIED WITH sha256_password BY '" ++ passwordHole ++ "' VALID UNTIL '" ++
      expirationHole ++ "';", .create),
    ("SELECT vdba.lockout_role('", "');", .lockout),
    ("SELECT vdba.cleanup_role('", "');", .cleanup),
    ("SELECT pg_terminate_backend(pid) FROM pg_stat_activity WHERE usename = '", "';", .terminate),
    ("KILL QUERY WHERE user = '", "' SYNC;", .kill),
    ("DROP USER IF EXISTS '", "';", .drop)]

/-- The account a statement is about and what it does to it; a `GRANT` does nothing of the kind. -/
def act (text : String) : Option Act :=
  templates.findSome? fun entry => (between entry.1 entry.2.1 text).map fun name => ⟨entry.2.2, name⟩

/-- The name Vault puts for the placeholder. -/
def fill (account name : String) : String := if name = nameHole then account else name

theorem between_of_eq {front back text name : String} (shape : text = front ++ name ++ back) :
    between front back text = some name := by
  subst shape
  have parts : (front ++ name ++ back).toList = front.toList ++ (name.toList ++ back.toList) := by
    simp only [String.toList_append, List.append_assoc]
  unfold between
  simp only [parts, List.drop_left, List.prefix_append, List.suffix_append, and_self, if_true, List.length_append,
    Nat.add_sub_cancel, List.take_left, String.ofList_toList]

theorem between_none {front back text : String} (n : Nat) (long : n ≤ front.toList.length)
    (differs : front.toList.take n ≠ text.toList.take n) : between front back text = none := by
  have other : ¬front.toList <+: text.toList := by
    rintro ⟨rest, whole⟩
    apply differs
    rw [← whole, List.take_append_of_le_length long]
  simp only [between, other, false_and, if_false]

theorem templates_long : ∀ entry ∈ templates, 13 ≤ entry.1.toList.length := by decide

theorem act_of_template {front back : String} {deed : Deed} (i : Nat) (name : String)
    (split : templates = templates.take i ++ (front, back, deed) :: templates.drop (i + 1))
    (skips : ∀ entry ∈ templates.take i, entry.1.toList.take 13 ≠ front.toList.take 13) :
    act (front ++ name ++ back) = some ⟨deed, name⟩ := by
  have long : 13 ≤ front.toList.length := templates_long (front, back, deed) (by rw [split]; simp)
  have head : (front ++ name ++ back).toList.take 13 = front.toList.take 13 := by
    rw [String.toList_append, String.toList_append, List.append_assoc, List.take_append_of_le_length long]
  have skipped : (templates.take i).findSome? (fun entry =>
      (between entry.1 entry.2.1 (front ++ name ++ back)).map fun name => (⟨entry.2.2, name⟩ : Act)) = none := by
    rw [List.findSome?_eq_none_iff]
    intro entry member
    have enough := templates_long entry (List.mem_of_mem_take member)
    rw [between_none 13 enough (by rw [head]; exact skips entry member), Option.map_none]
  unfold act
  rw [split, List.findSome?_append, skipped, Option.none_or, List.findSome?_cons, between_of_eq rfl]
  rfl

theorem act_createRoleStatement : act createRoleStatement = some ⟨.create, nameHole⟩ := by
  have text : createRoleStatement = "CREATE ROLE \"" ++ nameHole ++ ("\" WITH LOGIN PASSWORD '" ++ passwordHole ++
      "' VALID UNTIL '" ++ expirationHole ++ "' CONNECTION LIMIT 5;") := by
    unfold createRoleStatement
    simp only [String.append_assoc]
  rw [text]
  exact act_of_template 0 nameHole rfl (by decide)

theorem act_createUserStatement : act createUserStatement = some ⟨.create, nameHole⟩ := by
  have text : createUserStatement = "CREATE USER '" ++ nameHole ++ ("' IDENTIFIED WITH sha256_password BY '" ++
      passwordHole ++ "' VALID UNTIL '" ++ expirationHole ++ "';") := by
    unfold createUserStatement
    simp only [String.append_assoc]
  rw [text]
  exact act_of_template 1 nameHole rfl (by decide)

theorem act_lockoutText (name : String) : act (lockoutText name) = some ⟨.lockout, name⟩ :=
  act_of_template 2 name rfl (by decide)

theorem act_cleanupText (name : String) : act (cleanupText name) = some ⟨.cleanup, name⟩ :=
  act_of_template 3 name rfl (by decide)

theorem act_terminateText (name : String) : act (terminateText name) = some ⟨.terminate, name⟩ :=
  act_of_template 4 name rfl (by decide)

theorem act_killText (name : String) : act (killText name) = some ⟨.kill, name⟩ :=
  act_of_template 5 name rfl (by decide)

theorem act_dropUserText (name : String) : act (dropUserText name) = some ⟨.drop, name⟩ :=
  act_of_template 6 name rfl (by decide)

/-- Granting privileges does nothing to the account itself. -/
theorem act_grant {text : String} (grants : text.toList.take 6 = "GRANT ".toList) : act text = none := by
  have differ : ∀ entry ∈ templates, entry.1.toList.take 6 ≠ "GRANT ".toList := by decide
  unfold act
  rw [List.findSome?_eq_none_iff]
  intro entry member
  have enough : 6 ≤ entry.1.toList.length := by
    have := templates_long entry member
    omega
  rw [between_none 6 enough (by rw [grants]; exact differ entry member), Option.map_none]

theorem act_selectOne : act "SELECT 1" = none := by decide

/-- The statement creates the account Vault chose, or does nothing to any account. -/
def Creating (text : String) : Prop := act text = none ∨ act text = some ⟨.create, nameHole⟩

/-- The revocation statements of the roles the portal writes for grants. -/
def revocationOf : DbType → List String
  | .postgres => [cleanupText nameHole]
  | .clickhouse => [killText nameHole, dropUserText nameHole]

theorem creating_grant {head tail : String} (grants : head.toList.take 6 = "GRANT ".toList)
    (long : 6 ≤ head.toList.length) : Creating (head ++ tail) := by
  refine Or.inl (act_grant ?_)
  rw [String.toList_append, List.take_append_of_le_length long, grants]

theorem creating_grantTable (cmds table : String) : Creating (grantTableStatement cmds table) := by
  unfold grantTableStatement
  simp only [String.append_assoc]
  exact creating_grant (by decide) (by decide)

theorem creating_grantClickhouse (cmds table : String) : Creating (grantClickhouseStatement cmds table) := by
  unfold grantClickhouseStatement
  simp only [String.append_assoc]
  exact creating_grant (by decide) (by decide)

theorem creating_grantSequence (seq : String) : Creating (grantSequenceStatement seq) := by
  unfold grantSequenceStatement
  simp only [String.append_assoc]
  exact creating_grant (by decide) (by decide)

theorem validIdentifier_ok {name value : String} (valid : validIdentifier name = .ok value) : isIdentifier name := by
  unfold validIdentifier at valid
  split at valid
  · assumption
  · cases valid

theorem sequenceStatements_ok {seqs statements : List String} (built : sequenceStatements seqs = .ok statements) :
    statements = seqs.map grantSequenceStatement ∧ ∀ seq ∈ seqs, isIdentifier seq := by
  induction seqs generalizing statements with
  | nil => cases built; exact ⟨rfl, by simp⟩
  | cons seq seqs ih =>
    unfold sequenceStatements at built
    cases valid : validIdentifier seq with
    | error exn => rw [valid] at built; cases built
    | ok name =>
      cases rest : sequenceStatements seqs with
      | error exn => rw [valid, rest] at built; cases built
      | ok texts =>
        rw [valid, rest] at built
        cases built
        obtain ⟨same, valids⟩ := ih rest
        refine ⟨by rw [same, List.map_cons], fun other member => ?_⟩
        rcases List.mem_cons.mp member with rfl | member
        · exact validIdentifier_ok valid
        · exact valids other member

/-- The owned sequences a request is given, with its joined command text. -/
def ownedBy (sequences : Sequences) (cmds : String) (chosen : List String) : List String :=
  if "INSERT".toList <:+: cmds.toList then chosen.flatMap sequences.of else []

theorem buildPostgresStatements_ok {scope : Scope} {tables commands known creation revocation : List String}
    {sequences : Sequences}
    (built : buildPostgresStatements scope tables commands known sequences = .ok (creation, revocation)) :
    ∃ cmds chosen, commands_ commands ALLOWED_POSTGRES_COMMANDS = .ok cmds ∧
      tables_ scope tables known = .ok chosen ∧
      (∀ seq ∈ ownedBy sequences cmds chosen, isIdentifier seq) ∧
      creation = [createRoleStatement, grantConnectStatement, grantSchemaStatement] ++
        chosen.map (grantTableStatement cmds) ++ (ownedBy sequences cmds chosen).map grantSequenceStatement ∧
      revocation = revocationOf .postgres := by
  unfold buildPostgresStatements at built
  cases joined : commands_ commands ALLOWED_POSTGRES_COMMANDS with
  | error exn => rw [joined] at built; cases built
  | ok cmds =>
    cases picked : tables_ scope tables known with
    | error exn => rw [joined, picked] at built; cases built
    | ok chosen =>
      rw [joined, picked] at built
      refine ⟨cmds, chosen, rfl, rfl, ?_⟩
      by_cases insert : "INSERT".toList <:+: cmds.toList
      · cases rest : sequenceStatements (chosen.flatMap sequences.of) with
        | error exn =>
          simp only [bind, Except.bind, insert, if_true, rest] at built
          cases built
        | ok texts =>
          simp only [bind, Except.bind, insert, if_true, rest] at built
          cases built
          obtain ⟨same, valids⟩ := sequenceStatements_ok rest
          have owned : ownedBy sequences cmds chosen = chosen.flatMap sequences.of := if_pos insert
          rw [owned, same]
          exact ⟨valids, rfl, rfl⟩
      · simp only [bind, Except.bind, insert, if_false] at built
        cases built
        have owned : ownedBy sequences cmds chosen = [] := if_neg insert
        rw [owned]
        exact ⟨by simp, rfl, rfl⟩

theorem buildClickhouseStatements_ok {scope : Scope} {tables commands known creation revocation : List String}
    (built : buildClickhouseStatements scope tables commands known = .ok (creation, revocation)) :
    ∃ cmds chosen, commands_ commands ALLOWED_CLICKHOUSE_COMMANDS = .ok cmds ∧
      tables_ scope tables known = .ok chosen ∧
      creation = createUserStatement :: chosen.map (grantClickhouseStatement cmds) ∧
      revocation = revocationOf .clickhouse := by
  unfold buildClickhouseStatements at built
  cases joined : commands_ commands ALLOWED_CLICKHOUSE_COMMANDS with
  | error exn => rw [joined] at built; cases built
  | ok cmds =>
    cases picked : tables_ scope tables known with
    | error exn => rw [joined, picked] at built; cases built
    | ok chosen =>
      rw [joined, picked] at built
      cases built
      exact ⟨cmds, chosen, rfl, rfl, rfl, rfl⟩

theorem buildStatements_ok {db : DbType} {scope : Scope} {tables commands known creation revocation : List String}
    {sequences : Sequences}
    (built : buildStatements db scope tables commands known sequences = .ok (creation, revocation)) :
    (∀ text ∈ creation, Creating text) ∧ revocation = revocationOf db := by
  cases db with
  | postgres =>
    obtain ⟨cmds, chosen, -, -, -, rfl, rfl⟩ := buildPostgresStatements_ok built
    refine ⟨fun text member => ?_, rfl⟩
    simp only [List.mem_append, List.mem_cons, List.not_mem_nil, or_false, List.mem_map] at member
    rcases member with ((rfl | rfl | rfl) | ⟨table, _, rfl⟩) | ⟨seq, _, rfl⟩
    · exact Or.inr act_createRoleStatement
    · exact Or.inl (act_grant (by decide))
    · exact Or.inl (act_grant (by decide))
    · exact creating_grantTable cmds table
    · exact creating_grantSequence seq
  | clickhouse =>
    obtain ⟨cmds, chosen, -, -, rfl, rfl⟩ := buildClickhouseStatements_ok built
    refine ⟨fun text member => ?_, rfl⟩
    simp only [List.mem_cons, List.mem_map] at member
    rcases member with rfl | ⟨table, _, rfl⟩
    · exact Or.inr act_createUserStatement
    · exact creating_grantClickhouse cmds table

end Vdba
