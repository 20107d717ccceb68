import Vdba.Portal

namespace Vdba

/-- A stored text counts when it is neither missing nor empty. -/
def truthy (text : Option String) : Option String := text.filter (· ≠ "")

/-- `for`, `if` a text is there. -/
def forGiven (text : Option String) (f : String → Portal Unit) : Portal Unit :=
  match truthy text with
  | some s => f s
  | none => .ret ()

/-- `try: p except Exception: pass`. -/
def quietly (p : Portal Unit) : Portal Unit := p.onError fun _ => .ret ()

/-- Subclasses of hvac's `VaultError`. -/
def ExcClass.isVaultError : ExcClass → Bool
  | .forbidden | .invalidRequest | .invalidPath | .vaultDown | .vaultError _ => true
  | _ => false

def ExcClass.isOSError : ExcClass → Bool
  | .osError _ => true
  | _ => false

def unavailable (exn : Exc) : Exc := ⟨.vaultUnavailable, "Vault unavailable: " ++ exn.cls.name⟩

namespace Service

/-- `Service.call`; the shared client and its lock are in `Identity`. -/
def call {α : Type} (fn : Portal α) : Portal α :=
  (do ask .client; fn).onError fun exn =>
    match exn.cls with
    | .forbidden => do ask .relogin; fn
    | .vaultDown | .osError _ => .raise (unavailable exn)
    | _ => .raise exn

end Service

def writeRole (role : String) (db : DbType) (creation revocation : List String) (ttl : Int) : Portal Unit :=
  Service.call (ask (.writeRole role db creation revocation ttl))

def deleteRole (role : String) : Portal Unit := Service.call (ask (.deleteRole role))

def createGrantToken (ttl : Int) (label : String) : Portal (Secret × String) :=
  Service.call (ask (.createToken (ttl + TOKEN_GRACE_SECONDS) label))

/-- `_gone`. -/
def Exc.gone (exn : Exc) : Bool :=
  (exn.cls = .invalidRequest || exn.cls = .invalidPath) && exn.mentions "invalid accessor"

/-- `name.replace("_", "-")`. -/
def dashed (name : String) : String :=
  String.ofList (name.toList.map fun c => if c = '_' then '-' else c)

/-- The display names under which a token of `label` is accepted. -/
def displayNames (label : String) : List String := ["token-" ++ dashed label, "token-" ++ label, label]

/-- The accessors of the listing whose lookup shows one of the names. -/
def lookupAll (names : List String) : List String → Portal (List String)
  | [] => return []
  | acc :: rest => do
    let info ← (Service.call (ask (.lookupAccessor acc))).onError fun exn =>
      if exn.gone then .ret none else .raise exn
    let found ← lookupAll names rest
    match info with
    | some name => if name ∈ names then return acc :: found else return found
    | none => return found

def findTokenAccessors (label : String) : Portal (List String) := do
  let resp : Option (List String) ← Service.call (ask .listAccessors)
  let keys := resp.getD []
  if MAX_ACCESSOR_SCAN < keys.length then
    raise .runtimeError
      (toString keys.length ++ " tokens: too many to scan, cannot confirm the grant token is gone")
  else lookupAll (displayNames label) keys

/-- What Vault does on a read of `database/creds/<role>` with a token: the role's creation statements run
one by one under a new account name, then the lease is registered. -/
def vaultReadCreds (token : Secret) (role : String) : Portal (Option Creds) := do
  let opened : Opened ← ask (.credsOpen token role)
  Interaction.Prog.forEach opened.creation fun text => ask (.runStatement opened.db text opened.account)
  ask (.credsClose opened)

def readCredentials (token : Secret) (role : String) : Portal Creds := do
  let resp ← vaultReadCreds token role
  match resp with
  | none => raise .runtimeError "empty credentials response"
  | some creds => return creds

def listLeases (role : String) : Portal (List String) := do
  let resp : Option (List String) ← Service.call (ask (.listLeases role))
  return (resp.getD []).map fun key => "database/creds/" ++ role ++ "/" ++ key

/-- What Vault does on a synchronous revoke: the revocation statements run in list order, then the
lease is gone. -/
def vaultRevoke (leaseId : String) : Portal Unit := do
  let found : Option Found ← ask (.leaseFind leaseId)
  match found with
  | none => return ()
  | some found =>
    Interaction.Prog.forEach found.revocation fun text => ask (.runStatement found.db text found.account)
    ask (.leaseRemove leaseId)

/-- The answers that `revoke_lease` takes for "already gone". -/
def Exc.leaseGone (exn : Exc) : Bool :=
  (exn.cls = .invalidPath || exn.cls = .invalidRequest) && (exn.mentions "not found" || exn.mentions "invalid lease")

def revokeLease (leaseId : String) : Portal Unit :=
  (Service.call (vaultRevoke leaseId)).onError fun exn => if exn.leaseGone then .ret () else .raise exn

/-- The answers that `revoke_accessor` takes for "already gone". -/
def Exc.accessorGone (exn : Exc) : Bool :=
  (exn.cls = .invalidPath || exn.cls = .invalidRequest || exn.cls = .forbidden) && exn.mentions "invalid accessor"

def revokeAccessor (accessor : String) : Portal Unit :=
  (Service.call (ask (.revokeAccessor accessor))).onError fun exn =>
    if exn.accessorGone then .ret () else .raise exn

/-- The `finally` of `run_as_manager`, with the lease and the accessor known so far. -/
def helperCleanup (role : String) (lease accessor : Option String) : Portal Unit := do
  forGiven lease fun lease => quietly (revokeLease lease)
  forGiven accessor fun accessor => quietly (revokeAccessor accessor)
  (deleteRole role).onError fun _ => mark (.leftBehind role)

/-- `p`, with the cleanup before an exception leaves. -/
def orCleanup {α : Type} (p : Portal α) (cleanup : Portal Unit) : Portal α :=
  p.onError fun exn => cleanup.bind fun _ => .raise exn

def runAsManager (db : DbType) (label : String) (statements : List String) : Portal Unit := do
  let role := label
  orCleanup (writeRole role db statements ["SELECT 1"] HELPER_TTL_SECONDS) (helperCleanup role none none)
  let (token, accessor) ← orCleanup (createGrantToken HELPER_TTL_SECONDS role) (helperCleanup role none none)
  let creds ← orCleanup (readCredentials token role) (helperCleanup role none (some accessor))
  helperCleanup role (some creds.leaseId) (some accessor)

def rotateRoot (db : DbType) : Portal Unit := Service.call (ask (.rotateRoot db))

def introspectCredentials (db : DbType) : Portal (String × Secret) := Service.call (ask (.introspectCredentials db))

def userpassLogin (username password : String) : Portal (Secret × List String) :=
  (ask (.userpassLogin username password)).onError fun exn =>
    if exn.cls = .invalidRequest then raise .permissionError "invalid credentials"
    else if exn.cls.isVaultError || exn.cls.isOSError then .raise (unavailable exn)
    else .raise exn

/-- `[A-Za-z0-9_.@-]{1,128}`. -/
def isUserName (username : String) : Bool :=
  username.toList ≠ [] && username.toList.length ≤ 128 &&
    username.toList.all fun c => c.isAlphanum || c ∈ ['_', '.', '@', '-']

def userPolicies (username : String) : Portal (Option (List String)) :=
  if isUserName username then
    (Service.call (ask (.readUser username))).onError fun exn =>
      if exn.cls = .invalidPath then .ret none else .raise exn
  else return none

def tokenPolicies (token : Secret) : Portal (Option (List String)) :=
  (some <$> ask (.lookupSelf token)).onError fun exn =>
    if exn.cls = .forbidden then .ret none
    else if exn.cls.isVaultError || exn.cls.isOSError then .raise (unavailable exn)
    else .raise exn

def revokeTokenQuietly (token : Secret) : Portal Unit := quietly (ask (.revokeSelf token))

end Vdba
