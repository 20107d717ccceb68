import Vdba.Setup

namespace Vdba

open Query Relation

section Clickhouse

def dataAccessTypes : List String := ["SELECT", "INSERT", "ALTER UPDATE", "ALTER DELETE"]

def accountAccessTypes : List String := ["KILL QUERY", "CREATE USER", "ALTER USER", "DROP USER"]

variable (tables : ClickhouseTables) (account : String)

/-- The manager's rights as setup means them. -/
structure ClickhouseTables.LeastPrivilege : Prop where
  noRole : ∀ row ∈ tables.roleGrants, row.userName ≠ some account
  limited : ∀ row ∈ tables.grants, row.userName = some account → row.accessType ∈ dataAccessTypes →
    row.database = some "appdb" ∨ row.database = some "system"
  global : ∀ row ∈ tables.grants, row.userName = some account → row.database = none →
    row.accessType ∈ accountAccessTypes
  only : ∀ row ∈ tables.grants, row.userName = some account → row.accessType ∈ dataAccessTypes ++ accountAccessTypes

/-- A role, an access type that is not listed, or a grant on another database by name. -/
def ClickhouseTables.Excess : Prop :=
  (∃ row ∈ tables.roleGrants, row.userName = some account) ∨
  ∃ row ∈ tables.grants, row.userName = some account ∧
    (row.accessType ∉ dataAccessTypes ++ accountAccessTypes ∨
      ∃ database, row.database = some database ∧ database ≠ "appdb" ∧ database ≠ "system")

/-- `SELECT`, `INSERT`, `ALTER UPDATE` or `ALTER DELETE` on `*.*`. -/
def ClickhouseTables.GlobalData : Prop :=
  ∃ row ∈ tables.grants, row.userName = some account ∧ row.accessType ∈ dataAccessTypes ∧ row.database = none

variable {tables account}

theorem mem_probeAccessTypes {accessType : String} :
    accessType ∈ probeAccessTypes ↔ accessType ∈ dataAccessTypes ++ accountAccessTypes := by
  simp only [probeAccessTypes, dataAccessTypes, accountAccessTypes, List.mem_append, List.mem_cons, List.not_mem_nil,
    or_false]
  tauto

theorem extraGrant_holds {row : SystemGrant} :
    (extraGrant account row).holds ↔ row.userName = some account ∧
      (row.accessType ∉ dataAccessTypes ++ accountAccessTypes ∨
        ∃ database, row.database = some database ∧ database ≠ "appdb" ∧ database ≠ "system") := by
  simp only [extraGrant, Truth.and_holds, Truth.or_holds, equals_holds, isIn_not_holds, isNotNull_holds,
    mem_probeAccessTypes, Option.some.injEq, exists_eq_left', exists_eq_right', probeDatabases, List.mem_cons,
    List.not_mem_nil, or_false, not_or]
  constructor
  · rintro ⟨mine, other | ⟨_, database, named, outside⟩⟩
    · exact ⟨mine, Or.inl other⟩
    · exact ⟨mine, Or.inr ⟨database, named, outside⟩⟩
  · rintro ⟨mine, other | ⟨database, named, outside⟩⟩
    · exact ⟨mine, Or.inl other⟩
    · exact ⟨mine, Or.inr ⟨⟨database, named⟩, database, named, outside⟩⟩

/-- The probe refuses exactly the excess it names. -/
theorem clickhouseProbe_ok : clickhouseProbe tables account = .ok () ↔ ¬tables.Excess account := by
  have grants : 0 < count (extraGrant account) tables.grants ↔
      ∃ row ∈ tables.grants, (extraGrant account row).holds := count_pos
  have roles : 0 < count (fun row : SystemRoleGrant => equals row.userName (some account)) tables.roleGrants ↔
      ∃ row ∈ tables.roleGrants, row.userName = some account := by
    rw [count_pos]
    simp only [equals_holds, Option.some.injEq, exists_eq_right']
  have found : (decide (0 < count (extraGrant account) tables.grants) ||
      decide (0 < count (fun row : SystemRoleGrant => equals row.userName (some account)) tables.roleGrants)) = true ↔
      tables.Excess account := by
    simp only [Bool.or_eq_true, decide_eq_true_eq, grants, roles, extraGrant_holds]
    exact or_comm
  unfold clickhouseProbe throwIf
  split
  · rename_i bad
    exact iff_of_false (by simp) (not_not.mpr (found.mp bad))
  · rename_i good
    exact iff_of_true rfl fun excess => good (found.mpr excess)

theorem ClickhouseTables.LeastPrivilege.of_not_excess (none : ¬tables.Excess account)
    (local_ : ¬tables.GlobalData account) : tables.LeastPrivilege account := by
  have only : ∀ row ∈ tables.grants, row.userName = some account →
      row.accessType ∈ dataAccessTypes ++ accountAccessTypes := by
    intro row member mine
    by_contra other
    exact none (Or.inr ⟨row, member, mine, Or.inl other⟩)
  refine ⟨fun row member mine => none (Or.inl ⟨row, member, mine⟩), ?_, ?_, only⟩
  · intro row member mine data
    cases database : row.database with
    | none => exact absurd ⟨row, member, mine, data, database⟩ local_
    | some name =>
      by_contra outside
      rw [Option.some.injEq, Option.some.injEq, not_or] at outside
      exact none (Or.inr ⟨row, member, mine, Or.inr ⟨name, database, outside⟩⟩)
  · intro row member mine database
    rcases List.mem_append.mp (only row member mine) with data | account_
    · exact absurd ⟨row, member, mine, data, database⟩ local_
    · exact account_

/-- A grant of data access on `*.*` has no database name, and the probe lets it through. -/
theorem clickhouseProbe_sound_iff (tables : ClickhouseTables) (account : String) :
    (clickhouseProbe tables account = .ok () → tables.LeastPrivilege account) ↔
      (¬tables.GlobalData account ∨ tables.Excess account) := by
  rw [clickhouseProbe_ok]
  constructor
  · intro sound
    by_contra fails
    rw [not_or, not_not] at fails
    obtain ⟨⟨row, member, mine, data, database⟩, clean⟩ := fails
    rcases (sound clean).limited row member mine data with named | named <;>
      · rw [database] at named
        cases named
  · rintro (local_ | excess) clean
    · exact .of_not_excess clean local_
    · exact absurd excess clean

def selectEverywhere : ClickhouseTables where
  grants := [⟨some "vault_manager", "SELECT", none⟩]
  roleGrants := []

theorem clickhouseProbe_selectEverywhere :
    ¬(clickhouseProbe selectEverywhere "vault_manager" = .ok () →
      selectEverywhere.LeastPrivilege "vault_manager") := by
  intro sound
  have least := sound (by decide)
  have limited := least.limited ⟨some "vault_manager", "SELECT", none⟩ (by decide) rfl (by decide)
  revert limited
  decide

end Clickhouse

section Postgres

namespace PgSession

variable (s : PgSession)

/-- `r` is granted to `x`, directly. -/
def Granted (x r : Nat) : Prop := Edge s.edges x r

/-- The manager's rights as setup means them: `MemberOf` is any number of grants. -/
def MemberOf (r : PgRole) : Prop := TransGen s.Granted s.me.oid r.oid

structure LeastPrivilege : Prop where
  plain : s.me.rolsuper = false ∧ s.me.rolbypassrls = false ∧ s.me.rolreplication = false ∧
    s.me.rolcreatedb = false
  createrole : s.me.rolcreaterole = true
  noPredefined : ∀ r ∈ s.roles, s.MemberOf r → ¬"pg_".toList <+: r.rolname.toList
  ours : ∀ r ∈ s.roles, s.MemberOf r → "vdba_".toList <+: r.rolname.toList

/-- An attribute, a predefined role within reach, the account's own name, or a foreign role granted directly. -/
def Excess : Prop :=
  (s.me.rolsuper ∨ s.me.rolbypassrls ∨ s.me.rolreplication ∨ s.me.rolcreatedb ∨ ¬s.me.rolcreaterole) ∨
  (∃ r ∈ s.roles, ReflTransGen s.Granted s.me.oid r.oid ∧ "pg_".toList <+: r.rolname.toList) ∨
  ∃ r ∈ s.roles, s.Granted s.me.oid r.oid ∧ ¬"vdba_".toList <+: r.rolname.toList

/-- A foreign role behind a role of ours. -/
def ForeignBehind : Prop :=
  ∃ r ∈ s.roles, (∃ x, s.Granted s.me.oid x ∧ TransGen s.Granted x r.oid) ∧ ¬"vdba_".toList <+: r.rolname.toList

variable {s}

theorem ofCurrentUser_eq {α : Type} (column : PgRole → α) : s.ofCurrentUser column = .ok (some (column s.me)) := by
  have mine : selected (fun r : PgRole => equals (some r.rolname) (some s.currentUser)) s.roles = [s.me] := by
    have agree : ∀ r : PgRole, decide (equals (some r.rolname) (some s.currentUser)).holds =
        (r.rolname == s.me.rolname) := by
      intro r
      rw [beq_eq_decide]
      simp [currentUser, eq_comm]
    obtain ⟨front, back, split⟩ := List.append_of_mem s.present
    have names := s.names
    rw [split, List.map_append, List.map_cons, List.nodup_append] at names
    obtain ⟨_, tail, apart⟩ := names
    have before : front.filter (fun r => r.rolname == s.me.rolname) = [] := by
      rw [List.filter_eq_nil_iff]
      intro r member same
      exact apart _ (List.mem_map_of_mem member) _ List.mem_cons_self (beq_iff_eq.mp same)
    have after : back.filter (fun r => r.rolname == s.me.rolname) = [] := by
      rw [List.filter_eq_nil_iff]
      intro r member same
      exact (List.nodup_cons.mp tail).1 (beq_iff_eq.mp same ▸ List.mem_map_of_mem member)
    unfold selected
    simp only [agree]
    rw [split, List.filter_append, before, List.filter_cons_of_pos (by simp), after]
    rfl
  unfold ofCurrentUser
  rw [mine]
  rfl

theorem granted_iff {x r : Nat} : s.Granted x r ↔ ∃ m ∈ s.authMembers, m.member = x ∧ m.roleid = r := by
  unfold Granted Edge edges
  simp only [List.mem_map, Prod.mk.injEq]

theorem hasRole_iff {oid : Nat} : s.hasRole oid = true ↔ ReflTransGen s.Granted s.me.oid oid := reaches_iff

theorem like_pg (name : String) : like name "pg\\_%" = true ↔ "pg_".toList <+: name.toList := like_prefix (by decide)

theorem like_vdba (name : String) : like name "vdba\\_%" = true ↔ "vdba_".toList <+: name.toList :=
  like_prefix (by decide)

theorem foreign_holds : (∃ row ∈ s.authMembers.product s.roles, ((equals (some row.2.oid) (some row.1.roleid)).and
    ((equals (some row.1.member) (some s.me.oid)).and
      (Truth.not (some (like row.2.rolname "vdba\\_%"))))).holds) ↔
    ∃ r ∈ s.roles, s.Granted s.me.oid r.oid ∧ ¬"vdba_".toList <+: r.rolname.toList := by
  simp only [Truth.and_holds, equals_holds, Option.some.injEq, exists_eq_left', Truth.not, Truth.holds_some,
    Bool.not_eq_true', ← Bool.not_eq_true, like_vdba, granted_iff]
  constructor
  · rintro ⟨⟨m, r⟩, member, joined, own, foreign⟩
    rw [List.pair_mem_product] at member
    exact ⟨r, member.2, ⟨m, member.1, own.symm, joined⟩, foreign⟩
  · rintro ⟨r, known, ⟨m, member, own, joined⟩, foreign⟩
    exact ⟨⟨m, r⟩, List.pair_mem_product.mpr ⟨member, known⟩, joined, own.symm, foreign⟩

/-- The probe refuses exactly the excess it names. -/
theorem postgresProbe_ok : postgresProbe s = .ok () ↔ ¬s.Excess := by
  have found : (Truth.or (some (s.me.rolsuper || s.me.rolbypassrls || s.me.rolreplication || s.me.rolcreatedb ||
      !s.me.rolcreaterole)) ((exists_ (fun r : PgRole =>
        Truth.and (some (like r.rolname "pg\\_%")) (some (s.hasRole r.oid))) s.roles).or
      (exists_ (fun row : PgAuthMember × PgRole => (equals (some row.2.oid) (some row.1.roleid)).and
        ((equals (some row.1.member) (some s.me.oid)).and
          (Truth.not (some (like row.2.rolname "vdba\\_%"))))) (s.authMembers.product s.roles)))).holds ↔
      s.Excess := by
    rw [Truth.or_holds, Truth.or_holds, exists_holds, exists_holds, foreign_holds, Truth.holds_some]
    simp only [Bool.or_eq_true, Bool.not_eq_true', Truth.and_holds, Truth.holds_some, like_pg, hasRole_iff, Excess,
      Bool.not_eq_true, or_assoc, and_comm (a := List.IsPrefix _ _)]
  unfold postgresProbe
  rw [ofCurrentUser_eq, ofCurrentUser_eq]
  simp only [bind, Except.bind]
  unfold divides
  by_cases excess : s.Excess
  · rw [if_pos (found.mpr excess), if_pos rfl]
    exact iff_of_false (by simp) (not_not.mpr excess)
  · rw [if_neg (fun bad => excess (found.mp bad)), if_neg (by decide)]
    exact iff_of_true rfl excess

theorem MemberOf.cases {r : PgRole} (member : s.MemberOf r) :
    s.Granted s.me.oid r.oid ∨ ∃ x, s.Granted s.me.oid x ∧ TransGen s.Granted x r.oid := by
  obtain ⟨x, first, rest⟩ := TransGen.head'_iff.mp member
  rcases (reflTransGen_iff_eq_or_transGen.mp rest) with same | further
  · rw [← same] at first
    exact Or.inl first
  · exact Or.inr ⟨x, first, further⟩

theorem LeastPrivilege.of_not_excess (none : ¬s.Excess) (direct : ¬s.ForeignBehind) : s.LeastPrivilege := by
  simp only [Excess, not_or, Bool.not_eq_true, not_exists, not_and, not_not] at none
  obtain ⟨⟨super, bypass, replication, createdb, createrole⟩, predefined, ours⟩ := none
  refine ⟨⟨super, bypass, replication, createdb⟩, by simpa using createrole, ?_, ?_⟩
  · intro r known member
    exact predefined r known member.to_reflTransGen
  · intro r known member
    rcases member.cases with granted | behind
    · exact ours r known granted
    · by_contra foreign
      exact direct ⟨r, known, behind, foreign⟩

/-- The last clause of the probe looks at direct grants only. -/
theorem postgresProbe_sound_iff (s : PgSession) :
    (postgresProbe s = .ok () → s.LeastPrivilege) ↔ (¬s.ForeignBehind ∨ s.Excess) := by
  rw [postgresProbe_ok]
  constructor
  · intro sound
    by_contra fails
    rw [not_or, not_not] at fails
    obtain ⟨⟨r, known, ⟨x, first, rest⟩, foreign⟩, clean⟩ := fails
    exact foreign ((sound clean).ours r known (.head first rest))
  · rintro (direct | excess) clean
    · exact .of_not_excess clean direct
    · exact absurd excess clean

/-- `vault_manager` is granted `vdba_reports`, which is granted `evil_group`. -/
def chained : PgSession where
  roles := [⟨1, "vault_manager", false, false, false, false, true⟩, ⟨2, "vdba_reports", false, false, false, false, false⟩,
    ⟨3, "evil_group", false, false, false, false, false⟩]
  authMembers := [⟨2, 1⟩, ⟨3, 2⟩]
  names := by decide
  oids := by decide
  me := ⟨1, "vault_manager", false, false, false, false, true⟩
  present := by decide

theorem postgresProbe_chained : ¬(postgresProbe chained = .ok () → chained.LeastPrivilege) := by
  intro sound
  have least := sound (by decide)
  have first : chained.Granted 1 2 := by unfold Granted Edge; decide
  have second : chained.Granted 2 3 := by unfold Granted Edge; decide
  have ours := least.ours ⟨3, "evil_group", false, false, false, false, false⟩ (by decide) (.head first (.single second))
  revert ours
  decide

end PgSession

end Postgres

theorem checkConnectionConfig_ok {name : String} {cfg : ConnectionDetails} :
    checkConnectionConfig name cfg = .ok () ↔
      cfg.username = some "vault_manager" ∧ cfg.usernameTemplate = some USERNAME_TEMPLATE := by
  unfold checkConnectionConfig
  split
  · rename_i other
    exact iff_of_false (fun refused => nomatch refused) fun accepted => other accepted.1
  · split
    · rename_i other
      exact iff_of_false (fun refused => nomatch refused) fun accepted => other accepted.2
    · rename_i account template
      exact iff_of_true rfl ⟨not_not.mp account, not_not.mp template⟩

/-- What setup accepts: the account, the template and a probe without an error. -/
theorem validateConnection_ok {name : String} {cfg : ConnectionDetails} {probe : Except String Unit} :
    validateConnection name cfg probe = .ok () ↔ (cfg.username = some "vault_manager" ∧
      cfg.usernameTemplate = some USERNAME_TEMPLATE) ∧ probe = .ok () := by
  rw [← @checkConnectionConfig_ok name]
  unfold validateConnection
  cases checkConnectionConfig name cfg with
  | error refusal => exact iff_of_false (fun refused => nomatch refused) fun accepted => nomatch accepted.1
  | ok =>
    cases probe with
    | ok => exact iff_of_true rfl ⟨rfl, rfl⟩
    | error error => exact iff_of_false (fun refused => nomatch refused) fun accepted => nomatch accepted.2

end Vdba
