import Vdba.Sql

namespace Vdba

/-- The value where the condition holds, else a `ValueError`. -/
def Validates {α : Type} (condition : Prop) (result : Except Exc α) (value : α) : Prop :=
  (condition → result = .ok value) ∧ (¬condition → ∃ text, result = .error (valueError text))

namespace Validates
variable {α β : Type} {p q : Prop} {result : Except Exc α} {value : α}

theorem bind {f : α → Except Exc β} {w : β} (first : Validates p result value) (next : Validates q (f value) w) :
    Validates (p ∧ q) (result >>= f) w := by
  constructor
  · rintro ⟨holds, more⟩
    rw [first.1 holds]
    exact next.1 more
  · intro fails
    by_cases holds : p
    · rw [first.1 holds]
      exact next.2 fun more => fails ⟨holds, more⟩
    · obtain ⟨text, failed⟩ := first.2 holds
      exact ⟨text, by rw [failed]; rfl⟩

theorem congr (validates : Validates p result value) (same : p ↔ q) : Validates q result value := by
  rw [← propext same]
  exact validates

theorem pure {w : β} : Validates True (Pure.pure w) w := ⟨fun _ => rfl, fun fails => absurd trivial fails⟩

theorem map {f : α → β} (validates : Validates p result value) :
    Validates p (result >>= fun a => Pure.pure (f a)) (f value) := by
  have both : Validates (p ∧ True) (result >>= fun a => Pure.pure (f a)) (f value) := validates.bind pure
  exact both.congr (and_iff_left trivial)

end Validates

def allowedCommands : DbType → List String
  | .postgres => ALLOWED_POSTGRES_COMMANDS
  | .clickhouse => ALLOWED_CLICKHOUSE_COMMANDS

/-- The tables a request is about. -/
def chosenTables (scope : Scope) (tables known : List String) : List String :=
  match scope with
  | .database => sortedSet known
  | .tables => fromkeys tables

def joined (commands : List String) : String := ", ".intercalate (fromkeys commands)

/-- The sequences a request needs to use. -/
def neededSequences (db : DbType) (commands chosen : List String) (sequences : Sequences) : List String :=
  if db = .postgres ∧ "INSERT" ∈ commands then chosen.flatMap sequences.of else []

def creationOf (db : DbType) (commands chosen : List String) (sequences : Sequences) : List String :=
  match db with
  | .postgres =>
    [createRoleStatement, grantConnectStatement, grantSchemaStatement] ++
      chosen.map (grantTableStatement (joined commands)) ++
      (neededSequences .postgres commands chosen sequences).map grantSequenceStatement
  | .clickhouse => createUserStatement :: chosen.map (grantClickhouseStatement (joined commands))

/-- A request the portal builds statements for. -/
structure Buildable (db : DbType) (scope : Scope) (tables commands known : List String) (sequences : Sequences) :
    Prop where
  asked : commands ≠ []
  allowed : ∀ c ∈ commands, c ∈ allowedCommands db
  chosen : chosenTables scope tables known ≠ []
  plain : ∀ t ∈ chosenTables scope tables known, isIdentifier t
  existing : ∀ t ∈ chosenTables scope tables known, t ∈ known
  owned : ∀ s ∈ neededSequences db commands (chosenTables scope tables known) sequences, isIdentifier s

section builder
variable {scope : Scope} {tables commands known : List String} {sequences : Sequences}

theorem infix_around {needle before after : List Char} {c : Char} (absent : c ∉ needle) :
    needle <:+: before ++ c :: after ↔ needle <:+: before ∨ needle <:+: after := by
  constructor
  · rintro ⟨front, back, whole⟩
    rcases List.append_eq_append_iff.mp whole with ⟨rest, same, -⟩ | ⟨rest, same, tail⟩
    · exact Or.inl ⟨front, rest, same.symm⟩
    · cases rest with
      | nil =>
        rw [List.append_nil] at same
        exact Or.inl ⟨front, [], by rw [List.append_nil, same]⟩
      | cons e rest =>
        obtain ⟨rfl, rfl⟩ := List.cons_eq_cons.mp tail
        rcases List.append_eq_append_iff.mp same with ⟨more, -, inside⟩ | ⟨more, -, inside⟩
        · exact absurd (by simp [inside]) absent
        · cases more with
          | nil => exact absurd (by rw [← show c :: rest = needle from inside]; simp) absent
          | cons e more =>
            obtain ⟨-, rfl⟩ := List.cons_eq_cons.mp inside
            exact Or.inr ⟨more, back, rfl⟩
  · rintro (there | there)
    · exact there.trans (List.prefix_append _ _).isInfix
    · exact there.trans ((List.suffix_cons _ _).trans (List.suffix_append _ _)).isInfix

theorem insert_joined (allowed : ∀ c ∈ commands, c ∈ ALLOWED_POSTGRES_COMMANDS) :
    "INSERT".toList <:+: (", ".intercalate commands).toList ↔ "INSERT" ∈ commands := by
  have single : ∀ c ∈ ALLOWED_POSTGRES_COMMANDS, "INSERT".toList <:+: c.toList ↔ "INSERT" = c := by decide
  induction commands with
  | nil => decide
  | cons c rest ih =>
    have first := single c (allowed c List.mem_cons_self)
    have later := ih fun e member => allowed e (List.mem_cons_of_mem c member)
    cases rest with
    | nil => simpa using first
    | cons d rest =>
      have split : (", ".intercalate (c :: d :: rest)).toList =
          c.toList ++ ',' :: ([] ++ ' ' :: (", ".intercalate (d :: rest)).toList) := by
        rw [String.intercalate_cons_cons, String.toList_append, String.toList_append, List.append_assoc]
        rfl
      rw [split, infix_around (by decide), infix_around (by decide), first,
        List.mem_cons]
      simpa using or_congr_right later

theorem validIdentifier_validates (name : String) : Validates (isIdentifier name) (validIdentifier name) name := by
  unfold validIdentifier
  constructor
  · intro plain
    exact if_pos plain
  · intro other
    exact ⟨_, if_neg other⟩

theorem commands_validates (allowed : List String) :
    Validates (commands ≠ [] ∧ ∀ c ∈ commands, c ∈ allowed) (commands_ commands allowed) (joined commands) := by
  unfold commands_
  constructor
  · rintro ⟨some, known⟩
    have none : commands.find? (· ∉ allowed) = none := by simpa using known
    rw [if_neg some, none]
    rfl
  · intro fails
    by_cases empty : commands = []
    · exact ⟨_, if_pos empty⟩
    · cases found : commands.find? (· ∉ allowed) with
      | none => exact absurd ⟨empty, by simpa using found⟩ fails
      | some cmd => exact ⟨_, if_neg empty⟩

theorem checkTables_validates (chosen : List String) :
    Validates (∀ t ∈ chosen, isIdentifier t ∧ t ∈ known) (checkTables known chosen) () := by
  induction chosen with
  | nil => exact Validates.pure.congr (by simp)
  | cons t rest ih =>
    have member : Validates (t ∈ known ∧ ∀ t ∈ rest, isIdentifier t ∧ t ∈ known)
        (if t ∉ known then .error (valueError ("unknown table: " ++ pyRepr t)) else checkTables known rest) () := by
      by_cases there : t ∈ known
      · rw [if_neg (not_not_intro there)]
        exact ih.congr (by simp [there])
      · exact ⟨fun holds => absurd holds.1 there, fun _ => ⟨_, if_pos there⟩⟩
    exact ((validIdentifier_validates t).bind member).congr (by simp [and_assoc])

theorem tables_validates :
    Validates (chosenTables scope tables known ≠ [] ∧ ∀ t ∈ chosenTables scope tables known, isIdentifier t ∧ t ∈ known)
      (tables_ scope tables known) (chosenTables scope tables known) := by
  have checked : Validates (∀ t ∈ chosenTables scope tables known, isIdentifier t ∧ t ∈ known)
      (checkTables known (chosenTables scope tables known) >>= fun _ => pure (chosenTables scope tables known))
      (chosenTables scope tables known) := (checkTables_validates _).map
  by_cases empty : chosenTables scope tables known = []
  · refine ⟨fun holds => absurd empty holds.1, fun _ => ?_⟩
    cases scope with
    | database => exact ⟨_, by rw [tables_, if_pos (show sortedSet known = [] from empty)]; rfl⟩
    | tables => exact ⟨_, by rw [tables_, if_pos (show fromkeys tables = [] from empty)]; rfl⟩
  · have same : tables_ scope tables known =
        (checkTables known (chosenTables scope tables known) >>= fun _ => pure (chosenTables scope tables known)) := by
      cases scope with
      | database => rw [tables_, if_neg (show ¬sortedSet known = [] from empty)]; rfl
      | tables => rw [tables_, if_neg (show ¬fromkeys tables = [] from empty)]; rfl
    rw [same]
    exact checked.congr (by simp [empty])

theorem sequenceStatements_validates (seqs : List String) :
    Validates (∀ s ∈ seqs, isIdentifier s) (sequenceStatements seqs) (seqs.map grantSequenceStatement) := by
  induction seqs with
  | nil => exact Validates.pure.congr (by simp)
  | cons seq rest ih =>
    exact ((validIdentifier_validates seq).bind (ih.map (f := (grantSequenceStatement seq :: ·)))).congr (by simp)

theorem buildPostgres_validates :
    Validates (Buildable .postgres scope tables commands known sequences)
      (buildPostgresStatements scope tables commands known sequences)
      (creationOf .postgres commands (chosenTables scope tables known) sequences, revocationOf .postgres) := by
  by_cases allowed : commands ≠ [] ∧ ∀ c ∈ commands, c ∈ ALLOWED_POSTGRES_COMMANDS
  · have insert : "INSERT".toList <:+: (joined commands).toList ↔ "INSERT" ∈ commands := by
      unfold joined
      rw [insert_joined fun c member => allowed.2 c (mem_fromkeys.mp member), mem_fromkeys]
    have whole : Validates ((commands ≠ [] ∧ ∀ c ∈ commands, c ∈ ALLOWED_POSTGRES_COMMANDS) ∧
        (chosenTables scope tables known ≠ [] ∧ ∀ t ∈ chosenTables scope tables known, isIdentifier t ∧ t ∈ known) ∧
        ∀ s ∈ neededSequences .postgres commands (chosenTables scope tables known) sequences, isIdentifier s)
        (buildPostgresStatements scope tables commands known sequences)
        (creationOf .postgres commands (chosenTables scope tables known) sequences, revocationOf .postgres) := by
      unfold buildPostgresStatements
      refine Validates.bind (commands_validates _) (Validates.bind tables_validates ?_)
      dsimp only
      unfold creationOf neededSequences
      by_cases inserts : "INSERT" ∈ commands
      · rw [if_pos (insert.mpr inserts), if_pos ⟨rfl, inserts⟩]
        exact (sequenceStatements_validates _).map
      · rw [if_neg (mt insert.mp inserts), if_neg fun both => inserts both.2]
        exact Validates.pure.congr (by simp)
    refine whole.congr ⟨?_, ?_⟩
    · rintro ⟨⟨asked, listed⟩, ⟨chosen, each⟩, owned⟩
      exact ⟨asked, listed, chosen, fun t member => (each t member).1, fun t member => (each t member).2, owned⟩
    · intro buildable
      exact ⟨⟨buildable.asked, buildable.allowed⟩, ⟨buildable.chosen,
        fun t member => ⟨buildable.plain t member, buildable.existing t member⟩⟩, buildable.owned⟩
  · obtain ⟨text, failed⟩ := (commands_validates ALLOWED_POSTGRES_COMMANDS).2 allowed
    refine ⟨fun buildable => absurd ⟨buildable.asked, buildable.allowed⟩ allowed, fun _ => ⟨text, ?_⟩⟩
    unfold buildPostgresStatements
    rw [failed]
    rfl

theorem buildClickhouse_validates :
    Validates (Buildable .clickhouse scope tables commands known sequences)
      (buildClickhouseStatements scope tables commands known)
      (creationOf .clickhouse commands (chosenTables scope tables known) sequences, revocationOf .clickhouse) := by
  have whole : Validates ((commands ≠ [] ∧ ∀ c ∈ commands, c ∈ ALLOWED_CLICKHOUSE_COMMANDS) ∧
      chosenTables scope tables known ≠ [] ∧ ∀ t ∈ chosenTables scope tables known, isIdentifier t ∧ t ∈ known)
      (buildClickhouseStatements scope tables commands known)
      (creationOf .clickhouse commands (chosenTables scope tables known) sequences, revocationOf .clickhouse) := by
    unfold buildClickhouseStatements
    refine Validates.bind (commands_validates _) ?_
    exact tables_validates.map
  refine whole.congr ⟨?_, ?_⟩
  · rintro ⟨⟨asked, listed⟩, chosen, each⟩
    refine ⟨asked, listed, chosen, fun t member => (each t member).1, fun t member => (each t member).2, ?_⟩
    simp [neededSequences]
  · intro buildable
    exact ⟨⟨buildable.asked, buildable.allowed⟩, buildable.chosen,
      fun t member => ⟨buildable.plain t member, buildable.existing t member⟩⟩

/-- The statements of a request, or a `ValueError`. -/
theorem buildStatements_validates (db : DbType) (scope : Scope) (tables commands known : List String)
    (sequences : Sequences) :
    Validates (Buildable db scope tables commands known sequences)
      (buildStatements db scope tables commands known sequences)
      (creationOf db commands (chosenTables scope tables known) sequences, revocationOf db) := by
  cases db with
  | postgres => exact buildPostgres_validates
  | clickhouse => exact buildClickhouse_validates

end builder

end Vdba
