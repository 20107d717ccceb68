import Vdba.DbIntrospect

namespace Vdba

/-- `store.insert_grant`. -/
def insertGrant (g : NewGrant) : Portal Unit := do
  let now ← time
  ask (.insertGrant now g)

/-- `store.update_grant`. -/
def updateGrant (id : GrantId) (fields : GrantFields) : Portal Unit := do
  let now ← time
  ask (.updateGrant now id fields)

def getGrant (id : GrantId) : Portal (Option Grant) := ask (.getGrant id)

def listByStatus (statuses : List Status) : Portal (List Grant) := ask (.listByStatus statuses)

def listGrants (limit : Nat) : Portal (List Grant) := ask (.listGrants limit)

/-- `store.audit`. -/
def audit (requestId : Option String) (id : Option GrantId) (actor action result detail : String) : Portal Unit := do
  let now ← time
  ask (.addAudit ⟨now, requestId, id, actor, action, result, detail⟩)

def purgeSessions : Portal (List Session) := do
  let now ← time
  ask (.purgeSessions now)

def newGrantId : Portal GrantId := do
  let random : Hex 5 ← ask (.tokenHex 5)
  return ⟨random⟩

/-- `admit`: a slot, or `Busy` at once. -/
def admit_ {α : Type} (kind : Kind) (body : Portal α) : Portal α := do
  let granted : Bool ← ask (.slotAcquire kind)
  if granted then body.finally_ (ask (.slotRelease kind))
  else raise .busy ("too many concurrent " ++ kind.value ++ " operations")

def begin_ (db : DbType) (id : GrantId) (caller : Caller) : Portal Unit := do
  let acquired : Bool ← ask (.lockAcquire db id caller)
  if acquired then ask (.inflightAdd id)
  else raise .busy ("another " ++ db.value ++ " operation is taking too long")

def end_ (db : DbType) (id : GrantId) : Portal Unit := do
  ask (.inflightDiscard id)
  ask (.lockRelease db)

def validateTtl (cfg : Config) (ttl : Int) : Except Exc Unit :=
  if cfg.ttlMin ≤ ttl ∧ ttl ≤ cfg.ttlMax then .ok ()
  else .error (valueError ("ttl_seconds must be between " ++ toString cfg.ttlMin ++ " and " ++ toString cfg.ttlMax))

def bogusStatement : String := "GRANT BOGUS PRIVILEGE ON nothing TO '" ++ nameHole ++ "';"

/-- `faults.mutate_statements`. -/
def mutateStatements (cfg : Config) (creation : List String) : Portal (List String) := do
  if cfg.testHooks then
    let armed : Bool ← ask .bogusArmed
    if armed then return creation ++ [bogusStatement] else return creation
  else return creation

/-- `_run`. -/
def run_ (db : DbType) (id : GrantId) (statements : List String) : Portal Unit := do
  if statements = [] then return ()
  else
    let suffix : Hex 2 ← ask (.tokenHex 2)
    runAsManager db (id.text ++ "_h" ++ suffix.text) statements

/-- The loop of `_lock_out_and_terminate`, until no backend is left. -/
def terminateLoop (account : String) (id : GrantId) (deadline : Time) : Portal Unit :=
  Interaction.Prog.while_ (do
    let backends ← pgBackends account
    return decide (backends > 0)) (do
    let now ← time
    if now > deadline then
      raise .runtimeError ("backends of " ++ account ++ " still alive after termination attempts")
    let statements ← lift (terminateStatements .postgres account)
    run_ .postgres id statements
    sleep 300000)

def lockOutPostgres (account : String) (id : GrantId) : Portal Unit := do
  let statements ← lift (lockoutStatements .postgres account)
  run_ .postgres id statements
  let start ← time
  let deadline := start + seconds 20
  mark (.deadline (some deadline))
  terminateLoop account id deadline
  mark (.deadline none)

/-- `_lock_out_and_terminate`. -/
def lockOutAndTerminate (db : DbType) (account : String) (id : GrantId) : Portal Unit :=
  if db ≠ .postgres then return ()
  else
    (do lockOutPostgres account id; mark (.lockedOut id account)).onError fun exn => do
      mark .raised
      .raise exn

/-- The accessors a teardown has to revoke. -/
def tokensOf (g : Grant) (id : GrantId) : Portal (List String) :=
  match truthy g.tokenAccessor with
  | some accessor => return [accessor]
  | none => findTokenAccessors id.text

/-- `repr` of a list of strings. -/
def pyReprList (names : List String) : String := "[" ++ ", ".intercalate (names.map pyRepr) ++ "]"

/-- The `try` of `_teardown`. -/
def teardownSteps (g : Grant) (id : GrantId) : Portal Unit := do
  let accessors ← tokensOf g id
  let accounts ← findAccounts g.dbType id
  Interaction.Prog.forEach accounts fun account => lockOutAndTerminate g.dbType account id
  let listed ← listLeases id.text
  Interaction.Prog.forEach (sortedSet (listed ++ (truthy g.leaseId).toList)) revokeLease
  let present ← findAccounts g.dbType id
  Interaction.Prog.forEach present fun account => do
    lockOutAndTerminate g.dbType account id
    let statements ← lift (dropStatements g.dbType account)
    run_ g.dbType id statements
  let left ← findAccounts g.dbType id
  if left ≠ [] then raise .runtimeError ("accounts still present after cleanup: " ++ pyReprList left)
  let accessors : List String ← ask (.setOrder (fromkeys accessors))
  Interaction.Prog.forEach accessors revokeAccessor
  deleteRole id.text

/-- What `_teardown` records of an exception. -/
def teardownFailed (id : GrantId) (requestId : Option String) (actor : String) (raiseErrors : Bool) (exn : Exc) :
    Portal Unit := do
  mark .raised
  updateGrant id { status := some .revoking, lastError := some (some exn.cls.name) }
  audit requestId (some id) actor "teardown" "error" exn.cls.name
  if raiseErrors then .raise exn else return ()

def teardownDone (id : GrantId) (final : Status) (requestId : Option String) (actor : String) : Portal Unit := do
  updateGrant id { status := some final, lastError := some none }
  audit requestId (some id) actor "teardown" final.value ""

/-- `_teardown`. -/
def teardown (id : GrantId) (final : Status) (requestId : Option String) (actor : String) (raiseErrors : Bool) :
    Portal Unit := do
  mark (.teardown id final)
  let row ← getGrant id
  match row with
  | none => return ()
  | some g =>
    (teardownSteps g id).attempt.bind fun
      | .error exn => teardownFailed id requestId actor raiseErrors exn
      | .ok () => teardownDone id final requestId actor

/-- The inner `try` of `issue`. -/
def issueSteps (req : GrantRequest) (id : GrantId) (creation revocation : List String) : Portal Creds := do
  writeRole id.text req.dbType creation revocation req.ttlSeconds
  let (token, accessor) ← createGrantToken req.ttlSeconds id.text
  updateGrant id { tokenAccessor := some accessor }
  let creds ← readCredentials token id.text
  let now ← time
  updateGrant id {
    status := some .active
    username := some creds.username
    leaseId := some creds.leaseId
    expiresAt := some (now + seconds creds.leaseDuration) }
  return creds

def GrantRequest.toNew (req : GrantRequest) (id : GrantId) (actor : String) : NewGrant where
  id := id
  dbType := req.dbType
  scope := req.scope
  tables := if req.scope = .tables then req.tables else []
  commands := req.commands
  requestedFor := req.requestedFor
  issuedBy := actor
  ttlSeconds := req.ttlSeconds

/-- The `except` of `issue`. -/
def issueFailed (id : GrantId) (actor requestId : String) (exn : Exc) : Portal Creds := do
  audit (some requestId) (some id) actor "issue" "error" exn.cls.name
  teardown id .failed (some requestId) "system" false
  .raise exn

/-- What `issue` does while it holds the lock. -/
def issueLocked (req : GrantRequest) (actor requestId : String) (id : GrantId) (creation revocation : List String) :
    Portal Creds := do
  insertGrant (req.toNew id actor)
  let creds ← (issueSteps req id creation revocation).onError (issueFailed id actor requestId)
  audit (some requestId) (some id) actor "issue" "ok" (req.dbType.value ++ " " ++ req.scope.value)
  return creds

/-- `public(store.get_grant(grant_id))`. -/
def publicGrant (id : GrantId) : Portal PublicGrant := do
  let row ← getGrant id
  match row with
  | some g => return public_ g
  | none => raise (.other "TypeError") "'NoneType' object is not subscriptable"

def issue (cfg : Config) (req : GrantRequest) (actor requestId : String) : Portal Issued := do
  lift (validateTtl cfg req.ttlSeconds)
  let cat ← catalog req.dbType
  let (creation, revocation) ←
    lift (buildStatements req.dbType req.scope req.tables req.commands cat.tables cat.sequences)
  let creation ← mutateStatements cfg creation
  let id ← newGrantId
  begin_ req.dbType id .issue
  let creds ← (issueLocked req actor requestId id creation revocation).finally_ (end_ req.dbType id)
  let g ← publicGrant id
  return ⟨g, creds.password⟩

/-- What `revoke` does while it holds the lock. -/
def revokeLocked (id : GrantId) (actor requestId : String) : Portal Unit := do
  updateGrant id { status := some .revoking }
  audit (some requestId) (some id) actor "revoke" "started" ""
  teardown id .revoked (some requestId) actor true

/-- The rest of `revoke` once it has read the row. -/
def revokeRow (id : GrantId) (actor requestId : String) : Option Grant → Portal PublicGrant
  | none => raise .notFound id.text
  | some g => do
    if g.status.terminal then return public_ g
    else
      begin_ g.dbType id (.revoke actor g)
      (revokeLocked id actor requestId).finally_ (end_ g.dbType id)
      publicGrant id

def revoke (id : GrantId) (actor requestId : String) : Portal PublicGrant := do
  let row ← getGrant id
  revokeRow id actor requestId row

/-- `_final_for`. -/
def finalFor (g : Grant) (now : Time) : Option Status :=
  match g.status with
  | .issuing => some .failed
  | .revoking => some .revoked
  | .active =>
    match g.expiresAt with
    | some expires => if expires ≠ 0 ∧ expires + seconds 15 < now then some .expired else none
    | none => none
  | .revoked | .expired | .failed => none

/-- What `reconcile_one` does while it holds the lock: it decides from the row as it is now. -/
def reconcileLocked (id : GrantId) : Portal Unit := do
  let fresh ← getGrant id
  match fresh with
  | none => return ()
  | some g =>
    let now ← time
    match finalFor g now with
    | none => return ()
    | some final => teardown id final none "system" false

def reconcileOne (id : GrantId) : Portal Unit := do
  let row ← getGrant id
  match row with
  | none => return ()
  | some g =>
    begin_ g.dbType id .reconcile
    (reconcileLocked id).finally_ (end_ g.dbType id)

/-- One turn of the loop of `reconcile_once`. -/
def reconcileRow (now : Time) (g : Grant) : Portal Unit := do
  let busy : Bool ← ask (.inflightHas g.id)
  if busy then return ()
  else
    match finalFor g now with
    | none => return ()
    | some _ => quietly (reconcileOne g.id)

def reportName (live : List String) (name : String) : Portal Unit := do
  if name ∈ live then return ()
  else
    let seen : Bool ← ask (.auditExists "orphan_account" name)
    if seen then return () else audit none none "system" "orphan_account" "warning" name

/-- `_report_orphans`. -/
def reportOrphans : Portal Unit := do
  let rows ← listByStatus [.active, .revoking, .issuing]
  if rows.any (·.status = .issuing) then return ()
  else
    let live := rows.filterMap fun g => truthy g.username
    Interaction.Prog.forEach [DbType.postgres, .clickhouse] fun db =>
      (leftoverUsers db).attempt.bind fun
        | .error _ => return ()
        | .ok names => Interaction.Prog.forEach names (reportName live)

/-- The rest of `reconcile_once` after its reading of the clock. -/
def reconcilePass (now : Time) : Portal Unit := do
  let rows ← listByStatus [.issuing, .revoking, .active]
  Interaction.Prog.forEach rows (reconcileRow now)
  let purged ← purgeSessions
  Interaction.Prog.forEach purged fun session => revokeTokenQuietly session.vaultToken
  reportOrphans

def reconcileOnce : Portal Unit := do
  let now ← time
  reconcilePass now

end Vdba
