import Vdba.Query.Ternary
import Vdba.Query.Closure

namespace Vdba

open Query Relation

def USERNAME_TEMPLATE : String := "\x7b\x7b .RoleName \x7d\x7d_\x7b\x7b random 6 | lowercase \x7d\x7d"

/-- A row of `system.grants`; `database` is `NULL` for a grant on `*.*`. -/
structure SystemGrant where
  userName : Option String
  accessType : String
  database : Option String
  deriving DecidableEq

/-- A row of `system.role_grants`. -/
structure SystemRoleGrant where
  userName : Option String
  deriving DecidableEq

structure ClickhouseTables where
  grants : List SystemGrant
  roleGrants : List SystemRoleGrant
  deriving DecidableEq

def throwIf (condition : Bool) : Except String Unit :=
  if condition then throw "FUNCTION_THROW_IF_VALUE_IS_NON_ZERO" else return ()

def probeAccessTypes : List String :=
  ["KILL QUERY", "CREATE USER", "ALTER USER", "DROP USER", "SELECT", "INSERT", "ALTER UPDATE", "ALTER DELETE"]

def probeDatabases : List String := ["appdb", "system"]

/-- The row filter of `PROBES['clickhouse']`. -/
def extraGrant (currentUser : String) (row : SystemGrant) : Truth :=
  (equals row.userName (some currentUser)).and
    ((isIn (some row.accessType) probeAccessTypes).not.or
      ((isNotNull row.database).and (isIn row.database probeDatabases).not))

/-- `PROBES['clickhouse']`, run as `currentUser`. -/
def clickhouseProbe (tables : ClickhouseTables) (currentUser : String) : Except String Unit :=
  throwIf (0 < count (extraGrant currentUser) tables.grants ||
    0 < count (fun row : SystemRoleGrant => equals row.userName (some currentUser)) tables.roleGrants)

structure PgRole where
  oid : Nat
  rolname : String
  rolsuper : Bool
  rolbypassrls : Bool
  rolreplication : Bool
  rolcreatedb : Bool
  rolcreaterole : Bool
  deriving DecidableEq

structure PgAuthMember where
  roleid : Nat
  member : Nat
  deriving DecidableEq

/-- The catalog as an account sees it: `rolname` and `oid` are the keys of `pg_roles`, and the account has a row. -/
structure PgSession where
  roles : List PgRole
  authMembers : List PgAuthMember
  names : (roles.map (·.rolname)).Nodup
  oids : (roles.map (·.oid)).Nodup
  me : PgRole
  present : me ∈ roles

def PgSession.currentUser (s : PgSession) : String := s.me.rolname

def PgSession.edges (s : PgSession) : List (Nat × Nat) := s.authMembers.map fun m => (m.member, m.roleid)

/-- `(SELECT column FROM pg_roles WHERE rolname = current_user)`. -/
def PgSession.ofCurrentUser {α : Type} (s : PgSession) (column : PgRole → α) : Except String (Option α) :=
  match selected (fun r : PgRole => equals (some r.rolname) (some s.currentUser)) s.roles with
  | [] => return none
  | [row] => return some (column row)
  | _ => throw "more than one row returned by a subquery used as an expression"

/-- `pg_has_role(current_user, oid, 'MEMBER')`. -/
def PgSession.hasRole (s : PgSession) (oid : Nat) : Bool := reaches s.edges s.me.oid oid

/-- `1 / n`. -/
def divides (n : Nat) : Except String Unit := if n = 0 then throw "division by zero" else return ()

/-- `PROBES['postgres']`, run as the session's account. -/
def postgresProbe (s : PgSession) : Except String Unit := do
  let attributes ← s.ofCurrentUser fun r =>
    r.rolsuper || r.rolbypassrls || r.rolreplication || r.rolcreatedb || !r.rolcreaterole
  let own ← s.ofCurrentUser (·.oid)
  let predefined := exists_ (fun r : PgRole =>
    Truth.and (some (like r.rolname "pg\\_%")) (some (s.hasRole r.oid))) s.roles
  let foreign := exists_ (fun row : PgAuthMember × PgRole =>
    (equals (some row.2.oid) (some row.1.roleid)).and ((equals (some row.1.member) own).and
      (Truth.not (some (like row.2.rolname "vdba\\_%"))))) (s.authMembers.product s.roles)
  divides (if (Truth.or attributes (predefined.or foreign)).holds then 0 else 1)

/-- `connection_details` of `database/config/<name>`. -/
structure ConnectionDetails where
  username : Option String
  usernameTemplate : Option String
  deriving DecidableEq

/-- Why setup stops. -/
inductive Refusal
  | account (name : String) (username : Option String)
  | template (name : String) (usernameTemplate : Option String)
  | probe (name error : String)
  deriving DecidableEq

def checkConnectionConfig (name : String) (cfg : ConnectionDetails) : Except Refusal Unit :=
  if cfg.username ≠ some "vault_manager" then throw (.account name cfg.username)
  else if cfg.usernameTemplate ≠ some USERNAME_TEMPLATE then throw (.template name cfg.usernameTemplate)
  else return ()

/-- `validate_connection`, where reading the probe role's credentials runs `PROBES[kind]`. -/
def validateConnection (name : String) (cfg : ConnectionDetails) (probe : Except String Unit) :
    Except Refusal Unit := do
  checkConnectionConfig name cfg
  match probe with
  | .ok () => return ()
  | .error error => throw (.probe name error)

end Vdba
