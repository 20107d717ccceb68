import Vdba.VaultClient

namespace Vdba

/-- `_ok`. -/
def ok_ (names : List String) : List String := names.filter isIdentifier

def pgConnect : Portal Unit := do
  let (user, password) ← introspectCredentials .postgres
  ask (.connect .postgres user password)

def chClient : Portal Unit := do
  let (user, password) ← introspectCredentials .clickhouse
  ask (.connect .clickhouse user password)

/-- `seqs.setdefault(table, []).append(seq)`. -/
def Sequences.add (sequences : Sequences) (table seq : String) : Sequences :=
  if sequences.any (·.1 = table) then
    sequences.map fun entry => if entry.1 = table then (table, entry.2 ++ [seq]) else entry
  else sequences ++ [(table, [seq])]

def ownedSequences (tables : List String) (rows : List (String × String)) : Sequences :=
  rows.foldl (fun sequences row =>
    if row.1 ∈ tables && isIdentifier row.2 then sequences.add row.1 row.2 else sequences) []

def postgresCatalog : Portal Catalog := do
  pgConnect
  let names : List String ← ask .pgTables
  let rows : List (String × String) ← ask .pgSequences
  return ⟨ok_ names, ownedSequences (ok_ names) rows⟩

def clickhouseCatalog : Portal Catalog := do
  chClient
  let names : List String ← ask .chTables
  return ⟨ok_ names, []⟩

def catalog : DbType → Portal Catalog
  | .postgres => postgresCatalog
  | .clickhouse => clickhouseCatalog

def connect_ : DbType → Portal Unit
  | .postgres => pgConnect
  | .clickhouse => chClient

/-- Accounts with the portal's prefix. -/
def leftoverUsers (db : DbType) : Portal (List String) := do
  connect_ db
  ask (.accountsWithPrefix db ROLE_PREFIX)

def findAccounts (db : DbType) (id : GrantId) : Portal (List String) := do
  connect_ db
  ask (.accountsWithPrefix db (id.text ++ "_"))

def pgBackends (account : String) : Portal Nat := do
  pgConnect
  ask (.pgBackends account)

end Vdba
