import Vdba.Config

namespace Vdba

/-- A password or a Vault token. -/
structure Secret where
  text : String
  deriving DecidableEq

/-- A SHA-256 digest, known by the text it was taken of. -/
structure Digest where
  sha256 : String
  deriving DecidableEq

/-- A row of `grants`. -/
structure Grant where
  id : GrantId
  dbType : DbType
  scope : Scope
  tables : List String
  commands : List String
  requestedFor : String
  issuedBy : String
  ttlSeconds : Int
  status : Status
  createdAt : Time
  expiresAt : Option Time
  username : Option String
  leaseId : Option String
  tokenAccessor : Option String
  lastError : Option String
  updatedAt : Time
  deriving DecidableEq

/-- The argument of `insert_grant`. -/
structure NewGrant where
  id : GrantId
  dbType : DbType
  scope : Scope
  tables : List String
  commands : List String
  requestedFor : String
  issuedBy : String
  ttlSeconds : Int
  deriving DecidableEq

/-- The keyword arguments of `update_grant`; `none` is a column that is not named. -/
structure GrantFields where
  status : Option Status := none
  username : Option String := none
  leaseId : Option String := none
  tokenAccessor : Option String := none
  expiresAt : Option Time := none
  lastError : Option (Option String) := none
  deriving DecidableEq

structure AuditRow where
  ts : Time
  requestId : Option String
  grantId : Option GrantId
  actor : String
  action : String
  result : String
  detail : String
  deriving DecidableEq

structure Session where
  sid : Digest
  username : String
  csrf : String
  vaultToken : Secret
  createdAt : Time
  lastSeen : Time
  lastCheck : Time
  deriving DecidableEq

/-- The SQLite file; every function below is one transaction. -/
structure Store where
  grants : List Grant
  audit : List AuditRow
  sessions : List Session
  deriving DecidableEq

namespace Store

def empty : Store := ⟨[], [], []⟩

def getGrant (s : Store) (id : GrantId) : Option Grant := s.grants.find? (·.id = id)

def insertGrant (now : Time) (g : NewGrant) (s : Store) : Store :=
  { s with grants := s.grants ++ [{
      id := g.id, dbType := g.dbType, scope := g.scope, tables := g.tables, commands := g.commands
      requestedFor := g.requestedFor, issuedBy := g.issuedBy, ttlSeconds := g.ttlSeconds
      status := .issuing, createdAt := now, expiresAt := none, username := none, leaseId := none
      tokenAccessor := none, lastError := none, updatedAt := now }] }

end Store

def Grant.set (now : Time) (fields : GrantFields) (g : Grant) : Grant :=
  { g with
    status := fields.status.getD g.status
    username := fields.username.or g.username
    leaseId := fields.leaseId.or g.leaseId
    tokenAccessor := fields.tokenAccessor.or g.tokenAccessor
    expiresAt := fields.expiresAt.or g.expiresAt
    lastError := fields.lastError.getD g.lastError
    updatedAt := now }

namespace Store

def updateGrant (now : Time) (id : GrantId) (fields : GrantFields) (s : Store) : Store :=
  { s with grants := s.grants.map fun g => if g.id = id then g.set now fields else g }

/-- Oldest first, no limit. -/
def listByStatus (statuses : List Status) (s : Store) : List Grant :=
  (s.grants.filter (·.status ∈ statuses)).insertionSort (·.createdAt ≤ ·.createdAt)

/-- Newest first. -/
def listGrants (limit : Nat) (s : Store) : List Grant :=
  (s.grants.insertionSort (·.createdAt ≥ ·.createdAt)).take limit

def addAudit (row : AuditRow) (s : Store) : Store :=
  { s with audit := s.audit ++ [{ row with detail := String.ofList (row.detail.toList.take 500) }] }

def auditExists (action detail : String) (s : Store) : Bool :=
  s.audit.any fun row => row.action = action ∧ row.detail = detail

def createSession (session : Session) (s : Store) : Store :=
  { s with sessions := s.sessions ++ [session] }

def getSession (sid : Digest) (s : Store) : Option Session := s.sessions.find? (·.sid = sid)

def touchSession (now : Time) (sid : Digest) (checked : Bool) (s : Store) : Store :=
  { s with sessions := s.sessions.map fun session =>
      if session.sid = sid then
        { session with lastSeen := now, lastCheck := if checked then now else session.lastCheck }
      else session }

def deleteSession (sid : Digest) (s : Store) : Store :=
  { s with sessions := s.sessions.filter (·.sid ≠ sid) }

/-- Past the absolute or the idle limit. -/
def stale (now : Time) (session : Session) : Bool :=
  session.createdAt + seconds SESSION_ABSOLUTE_SECONDS < now ∨ session.lastSeen + seconds SESSION_IDLE_SECONDS < now

def purgeSessions (now : Time) (s : Store) : List Session × Store :=
  (s.sessions.filter (stale now), { s with sessions := s.sessions.filter fun session => ¬stale now session })

theorem getGrant_insertGrant (s : Store) {now : Time} {g : NewGrant} (absent : s.getGrant g.id = none) (id : GrantId) :
    (s.insertGrant now g).getGrant id =
      if id = g.id then ((empty.insertGrant now g).grants.head?) else s.getGrant id := by
  unfold getGrant at absent ⊢
  by_cases same : id = g.id
  · subst same
    simp [insertGrant, absent, empty]
  · simp [insertGrant, same, Ne.symm same]

theorem getGrant_updateGrant (s : Store) (now : Time) (id other : GrantId) (fields : GrantFields) :
    (s.updateGrant now id fields).getGrant other =
      if other = id then (s.getGrant other).map (·.set now fields) else s.getGrant other := by
  unfold getGrant updateGrant
  have keeps : ∀ g : Grant, (if g.id = id then g.set now fields else g).id = g.id := by
    intro g
    split <;> rfl
  rw [List.find?_map]
  have found : (fun g : Grant => decide (g.id = other)) ∘ (fun g => if g.id = id then g.set now fields else g) =
      fun g => decide (g.id = other) := by
    funext g
    simp only [Function.comp_apply, keeps]
  rw [found]
  cases at_other : s.grants.find? fun g => decide (g.id = other) with
  | none => split <;> simp
  | some g =>
    have id_eq : g.id = other := by simpa using List.find?_some at_other
    by_cases same : other = id
    · simp [id_eq, same]
    · simp [id_eq, same]

theorem getGrant_id {s : Store} {id : GrantId} {g : Grant} (found : s.getGrant id = some g) : g.id = id := by
  simpa using List.find?_some found

end Store
end Vdba
