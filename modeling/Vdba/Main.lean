import Vdba.Grants

namespace Vdba

/-- A form as the code reads it; `grant` is what `int` and pydantic make of the fields of a grant, or the message. -/
structure Form where
  csrfToken : String := ""
  username : String := ""
  password : String := ""
  grant : Except String GrantRequest := .error "invalid form input"

/-- A JSON body: no JSON at all, JSON that pydantic does not accept, or a request. -/
inductive Sent
  | malformed (message : String)
  | invalid (message : String)
  | accepted (body : GrantRequest)

/-- The routes with their parameters; a parameter that does not match comes with its message. -/
inductive Route
  | healthz
  | loginForm (error : Option String)
  | login
  | logout
  | index
  | createGrantForm
  | revokeGrant (api : Bool) (id : Except String GrantId)
  | apiSession
  | apiCreateGrant (body : Sent)
  | apiListGrants
  | apiListTables (db : Except String DbType)
  | settingsPage (message : Option String)
  | rotateConnection (db : Except String DbType)

/-- The method is in `SAFE`. -/
def Route.safe : Route → Bool
  | .healthz | .loginForm _ | .index | .apiSession | .apiListGrants | .apiListTables _ | .settingsPage _ => true
  | .login | .logout | .createGrantForm | .revokeGrant .. | .apiCreateGrant _ | .rotateConnection _ => false

/-- The path starts with `/api/`. -/
def Route.api : Route → Bool
  | .revokeGrant api _ => api
  | .apiSession | .apiCreateGrant _ | .apiListGrants | .apiListTables _ => true
  | _ => false

/-- A request: its id, its route, and the cookies, headers and form that the code reads. -/
structure Request where
  id : String
  route : Route
  sid : Option String := none
  pre : Option String := none
  secFetchSite : Option String := none
  origin : Option String := none
  host : Option String := none
  csrfToken : Option String := none
  contentType : Option String := none
  accept : Option String := none
  form : Form := {}

def COOKIE : String := "vdba_sid"
def PRE_COOKIE : String := "vdba_pre"

/-- The configuration, and the host part of a URL as `urlsplit` has it. -/
structure Site where
  cfg : Config
  netloc : String → Except Exc String

def httpException (status : Nat) (detail : String) : Exc := ⟨.http status, detail⟩

def notAuthenticated : Exc := ⟨.other "NotAuthenticated", ""⟩

def validationError (message : String) : Exc := ⟨.other "RequestValidationError", message⟩

/-- `needle in text`. -/
def contains (text needle : String) : Bool := decide (needle.toList <:+: text.toList)

/-- `_wants_json`. -/
def wantsJson (req : Request) : Bool := req.route.api || contains (req.contentType.getD "") "application/json"

/-- The answers of the exception handlers. -/
def answer (req : Request) (exn : Exc) : Response :=
  if exn = notAuthenticated then
    if wantsJson req then ⟨401, .detail "not authenticated", none, []⟩ else ⟨303, .empty, some "/login", []⟩
  else
    match exn.cls with
    | .http status => ⟨status, .detail exn.text, none, []⟩
    | .other "RequestValidationError" =>
      ⟨400, .detail (if exn.text = "" then "invalid request" else exn.text), none, []⟩
    | .vaultUnavailable => ⟨503, .detail "Vault is unavailable (sealed or unreachable)", none, []⟩
    | _ => ⟨500, .detail ("internal error (request " ++ req.id ++ ")"), none, []⟩

/-- `hmac.compare_digest` of two strings. -/
def compareDigest (a b : String) : Except Exc Bool :=
  if a.toList.all (·.toNat < 128) && b.toList.all (·.toNat < 128) then .ok (a = b)
  else .error ⟨.other "TypeError", "comparing strings with non-ASCII characters is not supported"⟩

/-- The hosts that `check_origin` allows. -/
def allowedHosts (site : Site) (req : Request) : Except Exc (List String) := do
  let extra ← site.cfg.extraOrigins.mapM site.netloc
  let hosts := req.host.getD "" :: extra
  if site.cfg.publicOrigin ≠ "" then return hosts ++ [← site.netloc site.cfg.publicOrigin] else return hosts

def checkOrigin (site : Site) (req : Request) : Except Exc Unit :=
  let fetched := truthy req.secFetchSite
  if fetched.any fun value => value ≠ "same-origin" ∧ value ≠ "none" then
    .error (httpException 403 "cross-site request rejected")
  else
    match truthy req.origin with
    | none => if fetched.isNone then .error (httpException 403 "Origin header required") else .ok ()
    | some origin => do
      let allowed ← allowedHosts site req
      if origin = "null" then .error (httpException 403 "origin not allowed")
      else
        let host ← site.netloc origin
        if host ∈ allowed then .ok () else .error (httpException 403 "origin not allowed")

/-- `_submitted_token`. -/
def submittedToken (req : Request) : String :=
  match truthy req.csrfToken with
  | some token => token
  | none =>
    if "application/x-www-form-urlencoded".toList <+: (req.contentType.getD "").toList then req.form.csrfToken else ""

/-- Both places where `current_session` ends a session. -/
def endSession (sid : String) (s : Session) : Portal Unit := do
  ask (.deleteSession ⟨sid⟩)
  revokeTokenQuietly s.vaultToken

/-- What Vault says of the rights behind a session: the policies of the user, and the token. -/
def recheck (s : Session) : Portal Bool := do
  let (current, alive) ← (admit_ .session do
    let current ← userPolicies s.username
    let alive ← tokenPolicies s.vaultToken
    return (current, alive)).onError fun exn =>
      if exn.cls = .busy then .raise (httpException 503 exn.text) else .raise exn
  return (current.getD []).contains ADMIN_POLICY_NAME && (alive.getD []) ≠ []

/-- `store.touch_session`. -/
def touchSession (sid : String) (checked : Bool) : Portal Unit := do
  let now ← time
  ask (.touchSession now ⟨sid⟩ checked)

/-- `current_session` once it has read the row and the clock. -/
def checkSession (site : Site) (sid : String) (s : Session) (now : Time) : Portal (Option Session) := do
  if s.createdAt + seconds SESSION_ABSOLUTE_SECONDS < now ∨ s.lastSeen + seconds SESSION_IDLE_SECONDS < now then
    endSession sid s
    return none
  else if s.lastCheck + seconds site.cfg.sessionRecheckSeconds < now then
    let rights ← recheck s
    if rights then
      touchSession sid true
      return some s
    else
      endSession sid s
      audit none none s.username "session" "ended" "admin rights removed"
      return none
  else
    touchSession sid false
    return some s

def currentSession (site : Site) (req : Request) : Portal (Option Session) :=
  match truthy req.sid with
  | none => return none
  | some sid => do
    let row : Option Session ← ask (.getSession ⟨sid⟩)
    match row with
    | none => return none
    | some s =>
      let now ← time
      checkSession site sid s now

def requireAdmin (site : Site) (req : Request) : Portal Session := do
  let session ← currentSession site req
  match session with
  | none => .raise notAuthenticated
  | some s =>
    if req.route.safe then return s
    else
      lift (checkOrigin site req)
      let same ← lift (compareDigest (submittedToken req) s.csrf)
      if same then return s else .raise (httpException 403 "missing or invalid CSRF token")

def loginForm (error : Option String) : Portal Response := do
  let pre : String ← ask .tokenUrlsafe
  return ⟨200, .loginPage error pre, none, [(PRE_COOKIE, pre)]⟩

/-- `_login_page`. -/
def loginPage (req : Request) (msg : String) (status : Nat) (username : String) : Portal Response := do
  audit (some req.id) none (String.ofList (username.toList.take 64)) "login" "denied" msg
  let newPre : String ← ask .tokenUrlsafe
  return ⟨status, .loginPage (some msg) newPre, none, [(PRE_COOKIE, newPre)]⟩

/-- `store.create_session`. -/
def createSession (username : String) (token : Secret) : Portal String := do
  let sid : String ← ask .tokenUrlsafe
  let csrf : String ← ask .tokenUrlsafe
  let now ← time
  ask (.createSession ⟨⟨sid⟩, username, csrf, token, now, now, now⟩)
  return sid

/-- The previous session of a browser that logs in again. -/
def replaceSession (old : String) : Portal Unit := do
  let prev : Option Session ← ask (.getSession ⟨old⟩)
  ask (.deleteSession ⟨old⟩)
  match prev with
  | some s => revokeTokenQuietly s.vaultToken
  | none => return ()

/-- What `_do_login` does with a token it has got: a page that refuses it, or a session. -/
def admitAdmin (req : Request) (username : String) (token : Secret) (policies : List String) :
    Portal (Response ⊕ String) := do
  if ADMIN_POLICY_NAME ∉ policies then
    revokeTokenQuietly token
    let page ← loginPage req "This account is not a portal administrator" 403 username
    return .inl page
  else
    forGiven req.sid replaceSession
    let sid ← createSession username token
    audit (some req.id) none username "login" "ok" ""
    return .inr sid

/-- What `_do_login` does inside its slot. -/
def loginAdmitted (req : Request) (username password : String) : Portal (Response ⊕ String) := do
  if username = "" ∨ password = "" ∨ 128 < username.toList.length ∨ 512 < password.toList.length then
    let page ← loginPage req "Invalid credentials" 401 username
    return .inl page
  else
    let logged ← (some <$> userpassLogin username password).onError fun exn =>
      if exn.cls = .permissionError then .ret none else .raise exn
    match logged with
    | none =>
      let page ← loginPage req "Invalid credentials" 401 username
      return .inl page
    | some (token, policies) => admitAdmin req username token policies

/-- `_do_login`. -/
def doLogin (req : Request) (username password : String) : Portal Response := do
  let outcome ← (admit_ .auth (loginAdmitted req username password)).onError fun exn =>
    if exn.cls = .busy then .raise (httpException 503 exn.text) else .raise exn
  match outcome with
  | .inl page => return page
  | .inr sid => return ⟨303, .empty, some "/", [(COOKIE, sid), (PRE_COOKIE, "")]⟩

/-- `login_submit`. -/
def loginSubmit (site : Site) (req : Request) : Portal Response := do
  lift (checkOrigin site req)
  let pre := req.pre.getD ""
  if pre = "" then .raise (httpException 403 "missing or invalid CSRF token")
  else
    let same ← lift (compareDigest req.form.csrfToken pre)
    if same then doLogin req req.form.username req.form.password
    else .raise (httpException 403 "missing or invalid CSRF token")

/-- `_do_logout`. -/
def doLogout (req : Request) (s : Session) : Portal Response := do
  let sid := req.sid.getD ""
  ask (.deleteSession ⟨sid⟩)
  revokeTokenQuietly s.vaultToken
  audit (some req.id) none s.username "logout" "ok" ""
  return ⟨303, .empty, some "/login", [(COOKIE, "")]⟩

/-- The tables of one database for the index page, and the error it shows. -/
def indexTables (db : DbType) (error : Option String) : Portal (List String × Option String) :=
  (do let cat ← admit_ .issue (catalog db); return (cat.tables, error) : Portal (List String × Option String)).onError
    fun exn => if exn.cls = .busy then .ret ([], (truthy error).or (some "Server busy, try again"))
      else .ret ([], (truthy error).or (some ("Could not list " ++ db.value ++ " tables (database unreachable?)")))

/-- `_index`. -/
def indexPage (site : Site) (s : Session) (result : Option Issued) (error : Option String) (status : Nat) :
    Portal Response := do
  let (pg, error) ← indexTables .postgres error
  let (ch, error) ← indexTables .clickhouse error
  let rows ← listGrants 100
  return ⟨status, .indexPage {
    username := s.username
    csrf := s.csrf
    pgTables := pg
    chTables := ch
    pgCommands := ALLOWED_POSTGRES_COMMANDS
    chCommands := ALLOWED_CLICKHOUSE_COMMANDS
    grants := rows.map public_
    result := result
    error := error
    ttlMin := site.cfg.ttlMin
    ttlMax := site.cfg.ttlMax }, none, []⟩

/-- `_issue`. -/
def issueGrant (site : Site) (req : Request) (s : Session) (body : GrantRequest) : Portal Issued :=
  (admit_ .issue (issue site.cfg body s.username req.id)).onError fun exn =>
    match exn.cls with
    | .valueError => .raise (httpException 400 exn.text)
    | .busy => .raise (httpException 503 exn.text)
    | .vaultUnavailable => .raise exn
    | _ => .raise (httpException 502 ("issuing failed and was rolled back (request " ++ req.id ++ ")"))

def createGrantForm (site : Site) (req : Request) (s : Session) : Portal Response :=
  match req.form.grant with
  | .error msg => indexPage site s none (some msg) 400
  | .ok body =>
    (issueGrant site req s body).attempt.bind fun
      | .ok issued => indexPage site s (some issued) none 200
      | .error exn =>
        match exn.cls with
        | .http status => indexPage site s none (some exn.text) status
        | .valueError => indexPage site s none (some exn.text) 400
        | _ => .raise exn

def revokeGrant (req : Request) (s : Session) (id : GrantId) : Portal Response := do
  let g ← (admit_ .revoke (revoke id s.username req.id)).onError fun exn =>
    match exn.cls with
    | .notFound => .raise (httpException 404 "grant not found")
    | .busy => .raise (httpException 503 exn.text)
    | .vaultUnavailable => .raise exn
    | _ => .raise (httpException 502 ("revocation incomplete, will be retried (request " ++ req.id ++ ")"))
  if wantsJson req || decide ("application/json".toList <+: (req.accept.getD "").toList) then
    return ⟨200, .grant g, none, []⟩
  else return ⟨303, .empty, some "/", []⟩

def apiCreateGrant (site : Site) (req : Request) (s : Session) (body : GrantRequest) : Portal Response := do
  if contains (req.contentType.getD "") "application/json" then
    let issued ← issueGrant site req s body
    return ⟨200, .issued issued, none, []⟩
  else .raise (httpException 415 "Content-Type must be application/json")

def apiListTables (db : DbType) : Portal Response := do
  let cat ← (admit_ .issue (catalog db)).onError fun exn =>
    if exn.cls = .busy then .raise (httpException 503 exn.text) else .raise exn
  return ⟨200, .tables cat.tables, none, []⟩

/-- What `rotate_connection` does inside its slot. -/
def rotateAdmitted (req : Request) (s : Session) (db : DbType) : Portal Unit := do
  (rotateRoot db).onError fun exn => do
    if exn.cls = .vaultUnavailable then .raise exn
    else
      audit (some req.id) none s.username "rotate" "error" db.value
      .raise (httpException 502 ("rotation failed (request " ++ req.id ++ ")"))
  audit (some req.id) none s.username "rotate" "ok" db.value

def rotateConnection (req : Request) (s : Session) (db : DbType) : Portal Response := do
  (admit_ .issue (rotateAdmitted req s db)).onError fun exn =>
    if exn.cls = .busy then .raise (httpException 503 exn.text) else .raise exn
  if wantsJson req then return ⟨200, .rotated db, none, []⟩
  else return ⟨303, .empty, some ("/settings?message=Manager+credential+for+" ++ db.value ++ "+rotated"), []⟩

/-- A parameter that is checked after the session. -/
def matched {α : Type} : Except String α → Portal α
  | .ok value => .ret value
  | .error message => .raise (validationError message)

/-- The route of the request. -/
def dispatch (site : Site) (req : Request) : Portal Response :=
  match req.route with
  | .healthz => return ⟨200, .health site.cfg.testHooks site.cfg.sessionRecheckSeconds, none, []⟩
  | .loginForm error => loginForm error
  | .login => loginSubmit site req
  | .logout => do
    let s ← requireAdmin site req
    doLogout req s
  | .index => do
    let s ← requireAdmin site req
    indexPage site s none none 200
  | .createGrantForm => do
    let s ← requireAdmin site req
    createGrantForm site req s
  | .revokeGrant _ id => do
    let s ← requireAdmin site req
    let id ← matched id
    revokeGrant req s id
  | .apiSession => do
    let s ← requireAdmin site req
    return ⟨200, .session s.username s.csrf, none, []⟩
  | .apiCreateGrant (.malformed message) => .raise (validationError message)
  | .apiCreateGrant (.invalid message) => do
    let _ ← requireAdmin site req
    .raise (validationError message)
  | .apiCreateGrant (.accepted body) => do
    let s ← requireAdmin site req
    apiCreateGrant site req s body
  | .apiListGrants => do
    let _ ← requireAdmin site req
    let rows ← listGrants 500
    return ⟨200, .grants (rows.map public_), none, []⟩
  | .apiListTables db => do
    let _ ← requireAdmin site req
    let db ← matched db
    apiListTables db
  | .settingsPage message => do
    let s ← requireAdmin site req
    return ⟨200, .settingsPage s.username s.csrf message, none, []⟩
  | .rotateConnection db => do
    let s ← requireAdmin site req
    let db ← matched db
    rotateConnection req s db

/-- One request, up to its response. -/
def handle (site : Site) (req : Request) : Portal Unit :=
  (dispatch site req).attempt.bind fun
    | .ok response => ask (.respond response)
    | .error exn => ask (.respond (answer req exn))

end Vdba
