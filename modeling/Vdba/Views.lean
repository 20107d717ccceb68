import Vdba.Store

namespace Vdba

/-- Year, month and day of a day counted from 1970-01-01. -/
def civil (day : Nat) : Nat × Nat × Nat :=
  let shifted := day + 719468
  let era := shifted / 146097
  let dayOfEra := shifted % 146097
  let yearOfEra := (dayOfEra - dayOfEra / 1460 + dayOfEra / 36524 - dayOfEra / 146096) / 365
  let dayOfYear := dayOfEra - (365 * yearOfEra + yearOfEra / 4 - yearOfEra / 100)
  let month := (5 * dayOfYear + 2) / 153
  let year := yearOfEra + era * 400
  (if month < 10 then year else year + 1, if month < 10 then month + 3 else month - 9,
    dayOfYear - (153 * month + 2) / 5 + 1)

def padded (width n : Nat) : String :=
  let digits := Nat.toDigits 10 n
  String.ofList (List.replicate (width - digits.length) '0' ++ digits)

/-- `strftime("%Y-%m-%dT%H:%M:%SZ")` in UTC; no text for a time that is not set, or is zero. -/
def iso : Option Time → Option String
  | none => none
  | some time =>
    if time = 0 then none
    else
      let total := time / 1000000
      let (year, month, day) := civil (total / 86400)
      let clock := total % 86400
      some (padded 4 year ++ "-" ++ padded 2 month ++ "-" ++ padded 2 day ++ "T" ++ padded 2 (clock / 3600) ++ ":" ++
        padded 2 (clock / 60 % 60) ++ ":" ++ padded 2 (clock % 60) ++ "Z")

example : iso (some (seconds 1700000000)) = some "2023-11-14T22:13:20Z" := by decide

/-- The dict that `public` returns. -/
structure PublicGrant where
  grantId : GrantId
  dbType : DbType
  scope : Scope
  tables : List String
  commands : List String
  requestedFor : String
  issuedBy : String
  ttlSeconds : Int
  status : Status
  username : Option String
  createdAt : Option String
  expiresAt : Option String
  deriving DecidableEq

def public_ (g : Grant) : PublicGrant where
  grantId := g.id
  dbType := g.dbType
  scope := g.scope
  tables := g.tables
  commands := g.commands
  requestedFor := g.requestedFor
  issuedBy := g.issuedBy
  ttlSeconds := g.ttlSeconds
  status := g.status
  username := g.username
  createdAt := iso (some g.createdAt)
  expiresAt := iso g.expiresAt

/-- What `issue` returns: the public grant and the password. -/
structure Issued where
  grant : PublicGrant
  password : Secret
  deriving DecidableEq

/-- What the index page is made of. -/
structure IndexPage where
  username : String
  csrf : String
  pgTables : List String
  chTables : List String
  pgCommands : List String
  chCommands : List String
  grants : List PublicGrant
  result : Option Issued
  error : Option String
  ttlMin : Int
  ttlMax : Int
  deriving DecidableEq

/-- The body of a response: a JSON value, or a template with what it is given. -/
inductive Body
  | empty
  | detail (text : String)
  | health (testHooks : Bool) (recheck : Nat)
  | loginPage (error : Option String) (csrf : String)
  | indexPage (page : IndexPage)
  | settingsPage (username csrf : String) (message : Option String)
  | session (username csrf : String)
  | issued (result : Issued)
  | grant (g : PublicGrant)
  | grants (gs : List PublicGrant)
  | tables (names : List String)
  | rotated (db : DbType)
  deriving DecidableEq

structure Response where
  status : Nat
  body : Body
  location : Option String := none
  cookies : List (String × String) := []
  deriving DecidableEq

end Vdba
