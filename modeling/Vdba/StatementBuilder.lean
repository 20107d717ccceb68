import Vdba.Config

namespace Vdba

/-- Vault's placeholders. -/
def nameHole : String := "\x7b\x7bname\x7d\x7d"
def passwordHole : String := "\x7b\x7bpassword\x7d\x7d"
def expirationHole : String := "\x7b\x7bexpiration\x7d\x7d"

def valueError (text : String) : Exc := ⟨.valueError, text⟩

/-- `IDENTIFIER_RE.fullmatch`: `[A-Za-z_][A-Za-z0-9_]{0,62}`. -/
def isIdentifier (name : String) : Bool :=
  match name.toList with
  | [] => false
  | first :: rest => (first.isAlpha || first == '_') && rest.length ≤ 62 &&
      rest.all fun c => c.isAlphanum || c == '_'

def validIdentifier (name : String) : Except Exc String :=
  if isIdentifier name then .ok name else .error (valueError ("invalid identifier: " ++ pyRepr name))

def commands_ (commands allowed : List String) : Except Exc String :=
  if commands = [] then .error (valueError "at least one command must be selected")
  else match commands.find? (· ∉ allowed) with
    | some cmd => .error (valueError ("command not allowed: " ++ pyRepr cmd))
    | none => .ok (", ".intercalate (fromkeys commands))

/-- The check of every chosen table, in order: a plain identifier, then a known table. -/
def checkTables (known : List String) : List String → Except Exc Unit
  | [] => .ok ()
  | t :: rest => do
    let _ ← validIdentifier t
    if t ∉ known then .error (valueError ("unknown table: " ++ pyRepr t)) else checkTables known rest

/-- `known` stands for the set of its elements. -/
def tables_ (scope : Scope) (tables known : List String) : Except Exc (List String) := do
  let chosen ← match scope with
    | .database =>
      if sortedSet known = [] then .error (valueError "no tables exist in the target schema")
      else .ok (sortedSet known)
    | .tables =>
      if fromkeys tables = [] then
        .error (valueError "at least one table must be selected for table-scoped access")
      else .ok (fromkeys tables)
  checkTables known chosen
  return chosen

def createRoleStatement : String :=
  "CREATE ROLE \"" ++ nameHole ++ "\" WITH LOGIN PASSWORD '" ++ passwordHole ++
    "' VALID UNTIL '" ++ expirationHole ++ "' CONNECTION LIMIT 5;"

def grantConnectStatement : String :=
  "GRANT CONNECT ON DATABASE \"" ++ POSTGRES_DB ++ "\" TO \"" ++ nameHole ++ "\";"

def grantSchemaStatement : String := "GRANT USAGE ON SCHEMA \"public\" TO \"" ++ nameHole ++ "\";"

def grantTableStatement (cmds table : String) : String :=
  "GRANT " ++ cmds ++ " ON TABLE \"public\".\"" ++ table ++ "\" TO \"" ++ nameHole ++ "\";"

def grantSequenceStatement (seq : String) : String :=
  "GRANT USAGE ON SEQUENCE \"public\".\"" ++ seq ++ "\" TO \"" ++ nameHole ++ "\";"

def lockoutText (account : String) : String := "SELECT vdba.lockout_role('" ++ account ++ "');"

def cleanupText (account : String) : String := "SELECT vdba.cleanup_role('" ++ account ++ "');"

def terminateText (account : String) : String :=
  "SELECT pg_terminate_backend(pid) FROM pg_stat_activity WHERE usename = '" ++ account ++ "';"

def killText (account : String) : String := "KILL QUERY WHERE user = '" ++ account ++ "' SYNC;"

def dropUserText (account : String) : String := "DROP USER IF EXISTS '" ++ account ++ "';"

/-- A Python dict of lists, read with `get(key, [])`. -/
abbrev Sequences := List (String × List String)

def Sequences.of (sequences : Sequences) (table : String) : List String :=
  (sequences.lookup table).getD []

def sequenceStatements : List String → Except Exc (List String)
  | [] => .ok []
  | seq :: rest => do
    let _ ← validIdentifier seq
    return grantSequenceStatement seq :: (← sequenceStatements rest)

def buildPostgresStatements (scope : Scope) (tables commands known : List String) (sequences : Sequences) :
    Except Exc (List String × List String) := do
  let cmds ← commands_ commands ALLOWED_POSTGRES_COMMANDS
  let chosen ← tables_ scope tables known
  let statements := [createRoleStatement, grantConnectStatement, grantSchemaStatement] ++
    chosen.map (grantTableStatement cmds)
  -- the source asks whether "INSERT" occurs anywhere in the joined command text
  let seqs ← if "INSERT".toList <:+: cmds.toList then sequenceStatements (chosen.flatMap sequences.of)
    else pure []
  return (statements ++ seqs, [cleanupText nameHole])

def createUserStatement : String :=
  "CREATE USER '" ++ nameHole ++ "' IDENTIFIED WITH sha256_password BY '" ++ passwordHole ++
    "' VALID UNTIL '" ++ expirationHole ++ "';"

def grantClickhouseStatement (cmds table : String) : String :=
  "GRANT " ++ cmds ++ " ON `" ++ CLICKHOUSE_DB ++ "`.`" ++ table ++ "` TO '" ++ nameHole ++ "';"

def buildClickhouseStatements (scope : Scope) (tables commands known : List String) :
    Except Exc (List String × List String) := do
  let cmds ← commands_ commands ALLOWED_CLICKHOUSE_COMMANDS
  let chosen ← tables_ scope tables known
  return (createUserStatement :: chosen.map (grantClickhouseStatement cmds),
    [killText nameHole, dropUserText nameHole])

def buildStatements (dbType : DbType) (scope : Scope) (tables commands known : List String)
    (sequences : Sequences) : Except Exc (List String × List String) :=
  match dbType with
  | .postgres => buildPostgresStatements scope tables commands known sequences
  | .clickhouse => buildClickhouseStatements scope tables commands known

/-- `ACCOUNT_RE.fullmatch`: `vdba_[0-9a-f]{10}_[a-z0-9]{6}`. -/
def isAccount (name : String) : Bool :=
  let chars := name.toList
  chars.length = 22 && chars.take 5 = "vdba_".toList &&
    ((chars.drop 5).take 10).all (fun c => c ∈ "0123456789abcdef".toList) &&
    (chars.drop 15).take 1 = ['_'] && (chars.drop 16).all fun c => c.isLower || c.isDigit

def validAccount (name : String) : Except Exc String :=
  if isAccount name then .ok name else .error (valueError ("invalid account name: " ++ pyRepr name))

def lockoutStatements (dbType : DbType) (account : String) : Except Exc (List String) := do
  let _ ← validAccount account
  match dbType with
  | .postgres => return [lockoutText account]
  | .clickhouse => return []

def terminateStatements (dbType : DbType) (account : String) : Except Exc (List String) := do
  let _ ← validAccount account
  match dbType with
  | .postgres => return [terminateText account]
  | .clickhouse => return [killText account]

def dropStatements (dbType : DbType) (account : String) : Except Exc (List String) := do
  let _ ← validAccount account
  match dbType with
  | .postgres => return [cleanupText account]
  | .clickhouse => return [killText account, dropUserText account]

end Vdba
