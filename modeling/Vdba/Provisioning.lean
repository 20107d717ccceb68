import Mathlib.Data.List.AList
import Vdba.Bootstrap
import Vdba.ServicePolicy
import Vdba.Setup

namespace Vdba.Provisioning
open Interaction (Iface Prog)
open Bootstrap (systemExit strip)

def PASSWORD_POLICY_NAME : String := "vdba-password"
def SERVICE_POLICY_NAME : String := "vdba-service"
def CREDS_READER_POLICY_NAME : String := "vdba-creds-reader"
def APPROLE_NAME : String := "vdba-service"
def PLUGIN_NAME : String := "clickhouse-database-plugin"

def PASSWORD_POLICY_HCL : String := "\n".intercalate
  ["",
    "length = 24",
    "rule \"charset\" \x7b charset = \"abcdefghijklmnopqrstuvwxyz\" min-chars = 4 \x7d",
    "rule \"charset\" \x7b charset = \"ABCDEFGHIJKLMNOPQRSTUVWXYZ\" min-chars = 4 \x7d",
    "rule \"charset\" \x7b charset = \"0123456789\" min-chars = 4 \x7d",
    "rule \"charset\" \x7b charset = \"-_\" min-chars = 1 \x7d",
    ""]

def CREDS_READER_POLICY : String := "path \"database/creds/vdba_*\" \x7b capabilities = [\"read\"] \x7d\n"

def ADMIN_POLICY : String := "# Marker policy: portal administrators hold NO direct Vault privileges.\n" ++
  "path \"sys/capabilities-self\" \x7b capabilities = [\"update\"] \x7d\n"

def TEST_ADMIN_POLICY : String :=
  "path \"*\" \x7b capabilities = [\"create\",\"read\",\"update\",\"delete\",\"list\",\"sudo\"] \x7d"

def PROBES : List (String × List String) :=
  [("postgres",
      ["SELECT 1 / (CASE WHEN " ++
        "(SELECT rolsuper OR rolbypassrls OR rolreplication OR rolcreatedb OR NOT rolcreaterole " ++
        " FROM pg_roles WHERE rolname = current_user) " ++
        "OR EXISTS (SELECT 1 FROM pg_roles r WHERE r.rolname LIKE 'pg\\_%' " ++
        " AND pg_has_role(current_user, r.oid, 'MEMBER')) " ++
        "OR EXISTS (SELECT 1 FROM pg_auth_members m JOIN pg_roles g ON g.oid = m.roleid " ++
        " WHERE m.member = (SELECT oid FROM pg_roles WHERE rolname = current_user) AND g.rolname NOT LIKE 'vdba\\_%') " ++
        "THEN 0 ELSE 1 END)"]),
    ("clickhouse",
      ["SELECT throwIf(" ++
        "(SELECT count() FROM system.grants WHERE user_name = currentUser() AND (" ++
        "access_type NOT IN ('KILL QUERY', 'CREATE USER', 'ALTER USER', 'DROP USER', 'SELECT', 'INSERT', " ++
        "'ALTER UPDATE', 'ALTER DELETE') OR (database IS NOT NULL AND database NOT IN ('appdb', 'system')))) > 0 " ++
        "OR (SELECT count() FROM system.role_grants WHERE user_name = currentUser()) > 0)"])]

/-- An audit device, a secrets engine or an auth method. -/
structure Mount where
  backend : String
  options : List (String × String)
  deriving DecidableEq

structure Plugin where
  sha256 : String
  command : String
  deriving DecidableEq

structure ConnectionConfig where
  pluginName : String
  allowedRoles : String
  connectionUrl : String
  username : Option String
  password : String
  usernameTemplate : Option String
  passwordPolicy : String
  verifyConnection : Bool
  deriving DecidableEq

/-- What Vault shows of a connection. -/
def ConnectionConfig.details (cfg : ConnectionConfig) : ConnectionDetails := ⟨cfg.username, cfg.usernameTemplate⟩

structure DatabaseRole where
  dbName : String
  creationStatements : List String
  revocationStatements : List String
  defaultTtl : String
  maxTtl : String
  deriving DecidableEq

/-- What the portal reads the databases' catalogs with. -/
structure IntrospectSecret where
  username : String
  password : String
  deriving DecidableEq

structure TokenRole where
  allowedPolicies : List String
  orphan : Bool
  renewable : Bool
  tokenNoDefaultPolicy : Bool
  tokenType : String
  tokenExplicitMaxTtl : String
  deriving DecidableEq

structure User where
  password : String
  tokenPolicies : List String
  tokenTtl : String
  tokenMaxTtl : String
  deriving DecidableEq

structure Approle where
  tokenPolicies : List String
  tokenNoDefaultPolicy : Bool
  tokenTtl : String
  tokenMaxTtl : String
  tokenType : String
  secretIdNumUses : Nat
  secretIdTtl : Nat
  deriving DecidableEq

/-- The policies of the tokens of the role. -/
def Approle.policies (role : Approle) : List String :=
  if role.tokenNoDefaultPolicy then role.tokenPolicies else "default" :: role.tokenPolicies

/-- What is configured in Vault, each under its name. -/
inductive Slot
  | auditDevice (path : String)
  | mount (path : String)
  | authMethod (path : String)
  | passwordPolicy (name : String)
  | plugin (name : String)
  | config (name : String)
  | role (name : String)
  | secret (path : String)
  | policy (name : String)
  | tokenRole (name : String)
  | user (name : String)
  | approle (name : String)
  deriving DecidableEq

abbrev Value : Slot → Type
  | .auditDevice _ | .mount _ | .authMethod _ => Mount
  | .passwordPolicy _ | .policy _ => String
  | .plugin _ => Plugin
  | .config _ => ConnectionConfig
  | .role _ => DatabaseRole
  | .secret _ => IntrospectSecret
  | .tokenRole _ => TokenRole
  | .user _ => User
  | .approle _ => Approle

/-- Whose token a connection is read with. -/
inductive Client
  | root
  | service
  deriving DecidableEq

inductive Op
  -- Vault, with the root token
  | listEnabledAuditDevices
  | listMountedSecretsEngines
  | listAuthMethods
  | write (slot : Slot) (value : Value slot)
  | readConfig (client : Client) (name : String)
  | readCreds (role : String)
  | revokeLease (lease : String)
  | deleteRole (name : String)
  | readRoleId (approle : String)
  | writeSecretId (approle : String)
  | createToken (policies : List String) (ttl : String)
  -- Vault, with the service identity
  | approleLogin (roleId secretId : String)
  | readSecretVersion (path : String)
  | serviceWrite (path : String)
  -- the files
  | makeApproleOut
  | chownApproleOut (uid : Nat)
  | chmodApproleOut (mode : Nat)
  | fileExists (path : String)
  | readText (path : String)
  | mkstemp (dir : String)
  | writeTemp (path data : String)
  | chmod (path : String) (mode : Nat)
  | chown (path : String) (uid : Nat)
  | replace (path target : String)

abbrev Ans : Op → Type
  | .listEnabledAuditDevices => Option (List String)
  | .listMountedSecretsEngines | .listAuthMethods => List String
  | .readConfig .. => Option ConnectionDetails
  | .readCreds _ | .readRoleId _ | .writeSecretId _ | .createToken .. | .readText _ | .mkstemp _ => String
  | .fileExists _ => Bool
  | _ => Unit

abbrev calls : Iface := ⟨Op, Ans⟩

abbrev Script := Prog calls Exc

abbrev ask (op : Op) : Script (Ans op) := @Prog.perform calls Exc op

def lift {α : Type} : Except Exc α → Script α := Prog.ofExcept

/-- What the functions read in the environment, and the digest file of the image. -/
structure Env where
  main : Bootstrap.Env
  postgresHost : String
  postgresPort : Int
  clickhouseHost : String
  clickhouseNativePort : Int
  pgSslmode : String
  pgSslrootcert : String
  allowInsecure : Bool
  chSecure : Bool
  managerPassword : DbType → String
  introspectPassword : DbType → String
  adminUser : String
  adminPassword : String
  ttlMax : Int
  appUid : Nat
  hostUid : Option Nat
  digest : Except Exc String

def WEAK_SSLMODES : List String := ["disable", "allow", "prefer"]
def SSLMODES : List String := WEAK_SSLMODES ++ ["require", "verify-ca", "verify-full"]

/-- `pg_sslmode`. -/
def Env.sslmode (env : Env) : Except Exc String :=
  let mode := env.pgSslmode
  if mode ≠ "" ∧ mode ∉ SSLMODES then
    .error (systemExit ("VDBA_PG_SSLMODE=" ++ pyRepr mode ++ " is not one of " ++ pyReprList (sortedSet SSLMODES)))
  else if mode ∈ WEAK_SSLMODES ∧ ¬env.allowInsecure then
    .error (systemExit ("VDBA_PG_SSLMODE=" ++ mode ++
      " sends data without verified TLS: needs VDBA_ALLOW_INSECURE=1 (demo only)"))
  else if mode ≠ "" then .ok mode
  else if env.pgSslrootcert ≠ "" then .ok "verify-full"
  else if ¬env.allowInsecure then
    .error (systemExit ("no TLS configured for Postgres: set VDBA_PG_SSLMODE (e.g. verify-full) or VDBA_PG_SSLROOTCERT, "
      ++ "or set VDBA_ALLOW_INSECURE=1 to accept plain text on the internal network (demo only)"))
  else .ok "disable"

/-- `if path not in listed: enable`. -/
def whenMissing (path : String) (listed : List String) (enable : Script Unit) : Script Unit :=
  if path ∈ listed then return () else enable

def ensureAudit : Script Unit := do
  let devices : Option (List String) ← ask .listEnabledAuditDevices
  whenMissing "file/" (devices.getD [])
    (ask (.write (.auditDevice "file/") ⟨"file", [("file_path", "/vault/logs/audit.log")]⟩))

def digestOk (digest : String) : Bool :=
  digest.toList.length = 64 && digest.toList.all fun ch => ch ∈ "0123456789abcdef".toList

def ensureEngines (env : Env) : Script Unit := do
  let mounts : List String ← ask .listMountedSecretsEngines
  whenMissing "database/" mounts (ask (.write (.mount "database/") ⟨"database", []⟩))
  whenMissing "kv/" mounts (ask (.write (.mount "kv/") ⟨"kv", [("version", "2")]⟩))
  ask (.write (.passwordPolicy PASSWORD_POLICY_NAME) PASSWORD_POLICY_HCL)
  let text ← lift env.digest
  if digestOk (strip text) then ask (.write (.plugin PLUGIN_NAME) ⟨strip text, PLUGIN_NAME⟩)
  else .raise (systemExit "bad plugin digest in /opt/vdba/clickhouse-plugin.sha256")

/-- `repr` of a text that may be missing. -/
def pyReprOption : Option String → String
  | none => "None"
  | some text => pyRepr text

/-- The text setup stops with. -/
def refusalText : Refusal → String
  | .account name username => "connection " ++ pyRepr name ++ " uses account " ++ pyReprOption username ++
      ", not 'vault_manager': refusing to continue. Delete it (vault delete database/config/" ++ name ++
      ") and re-run setup"
  | .template name template => "connection " ++ pyRepr name ++ " has username_template " ++ pyReprOption template ++
      ", expected " ++ pyRepr USERNAME_TEMPLATE ++
      ": cleanup of half-created accounts depends on it; refusing to continue"
  | .probe name error => "connection " ++ pyRepr name ++
      " failed the least-privilege probe (extra privileges or role memberships?): refusing. " ++ error

/-- `check_connection_config`; the check itself is `Vdba.checkConnectionConfig`. -/
def checkConnectionConfig (client : Client) (name : String) : Script Unit := do
  let cfg : Option ConnectionDetails ← ask (.readConfig client name)
  match cfg with
  | none => .raise ⟨.other "TypeError", "'NoneType' object is not subscriptable"⟩
  | some cfg =>
    match Vdba.checkConnectionConfig name cfg with
    | .ok () => return ()
    | .error refusal => .raise (systemExit (refusalText refusal))

def probeRole (name : String) : String := "vdba_probe_" ++ name

def probesOf (kind : String) : Except Exc (List String) :=
  match PROBES.lookup kind with
  | some statements => .ok statements
  | none => .error ⟨.other "KeyError", pyRepr kind⟩

/-- `if lease: revoke it`. -/
def revokeGiven (lease : Option String) : Script Unit :=
  match truthy lease with
  | some lease => ask (.revokeLease lease)
  | none => return ()

/-- The `finally` of `validate_connection`. -/
def dropProbe (role : String) (lease : Option String) : Script Unit := do
  revokeGiven lease
  ask (.deleteRole role)

def readProbe (name : String) : Script String :=
  (ask (.readCreds (probeRole name))).onError fun exn =>
    if exn.cls.isVaultError then .raise (systemExit (refusalText (.probe name exn.text))) else .raise exn

def validateConnection (name : String) (kind : Option String) : Script Unit := do
  checkConnectionConfig .root name
  let statements ← lift (probesOf ((truthy kind).getD name))
  ask (.write (.role (probeRole name)) ⟨name, statements, ["SELECT 1"], "30s", "30s"⟩)
  let lease ← (readProbe name).attempt
  dropProbe (probeRole name) lease.toOption
  let _ ← lift lease
  return ()

def ensureConnection (name : String) (cfg : ConnectionConfig) : Script Unit := do
  let found : Option ConnectionDetails ← ask (.readConfig .root name)
  if found.isSome then validateConnection name none
  else
    ask (.write (.config name) cfg)
    validateConnection name none

/-- What the two calls of `ensure_connection` write for a plugin, a url and a password. -/
def managerConfig (plugin url password : String) : ConnectionConfig where
  pluginName := plugin
  allowedRoles := "vdba_*"
  connectionUrl := url
  username := some "vault_manager"
  password := password
  usernameTemplate := some USERNAME_TEMPLATE
  passwordPolicy := PASSWORD_POLICY_NAME
  verifyConnection := true

def Env.postgresConfig (env : Env) (mode : String) : ConnectionConfig :=
  managerConfig "postgresql-database-plugin"
    ("postgresql://\x7b\x7busername\x7d\x7d:\x7b\x7bpassword\x7d\x7d@" ++ env.postgresHost ++ ":" ++
      toString env.postgresPort ++ "/" ++ POSTGRES_DB ++ "?sslmode=" ++ mode ++
      if env.pgSslrootcert ≠ "" then "&sslrootcert=" ++ env.pgSslrootcert else "")
    (env.managerPassword .postgres)

def Env.clickhouseConfig (env : Env) : ConnectionConfig :=
  managerConfig PLUGIN_NAME
    ("clickhouse://" ++ env.clickhouseHost ++ ":" ++ toString env.clickhouseNativePort ++
      "?username=\x7b\x7busername\x7d\x7d&password=\x7b\x7bpassword\x7d\x7d&dial_timeout=10s" ++
      if env.chSecure then "&secure=true" else "")
    (env.managerPassword .clickhouse)

def Env.introspect (env : Env) (db : DbType) : IntrospectSecret := ⟨"vault_introspect", env.introspectPassword db⟩

def ensureConnections (env : Env) : Script Unit := do
  let mode ← lift env.sslmode
  ensureConnection "postgres" (env.postgresConfig mode)
  ensureConnection "clickhouse" env.clickhouseConfig
  ask (.write (.secret "vdba/introspect/postgres") (env.introspect .postgres))
  ask (.write (.secret "vdba/introspect/clickhouse") (env.introspect .clickhouse))

def Env.tokenRole (env : Env) : TokenRole where
  allowedPolicies := [CREDS_READER_POLICY_NAME]
  orphan := true
  renewable := false
  tokenNoDefaultPolicy := true
  tokenType := "service"
  tokenExplicitMaxTtl := toString (env.ttlMax + 3600) ++ "s"

def Env.admin (env : Env) : User := ⟨env.adminPassword, [ADMIN_POLICY_NAME], "8h", "8h"⟩

def serviceApprole : Approle where
  tokenPolicies := [SERVICE_POLICY_NAME]
  tokenNoDefaultPolicy := true
  tokenTtl := "1h"
  tokenMaxTtl := "24h"
  tokenType := "service"
  secretIdNumUses := 0
  secretIdTtl := 0

def ensurePoliciesAndRoles (env : Env) : Script Unit := do
  ask (.write (.policy SERVICE_POLICY_NAME) SERVICE_POLICY)
  ask (.write (.policy CREDS_READER_POLICY_NAME) CREDS_READER_POLICY)
  ask (.write (.policy ADMIN_POLICY_NAME) ADMIN_POLICY)
  ask (.write (.tokenRole TOKEN_ROLE_NAME) env.tokenRole)
  let auth : List String ← ask .listAuthMethods
  whenMissing "userpass/" auth (ask (.write (.authMethod "userpass/") ⟨"userpass", []⟩))
  whenMissing "approle/" auth (ask (.write (.authMethod "approle/") ⟨"approle", []⟩))
  ask (.write (.user env.adminUser) env.admin)
  ask (.write (.approle APPROLE_NAME) serviceApprole)

/-- `if uid is not None: chown`. -/
def chownGiven (path : String) (uid : Option Nat) : Script Unit :=
  match uid with
  | some uid => ask (.chown path uid)
  | none => return ()

def writePrivate (dir name data : String) (mode : Nat) (uid : Option Nat) : Script Unit := do
  let tmp : String ← ask (.mkstemp dir)
  ask (.writeTemp tmp data)
  ask (.chmod tmp mode)
  chownGiven tmp uid
  ask (.replace tmp (dir ++ name))

def approleLoginOk (roleId secretId : String) : Script Bool :=
  (do ask (.approleLogin roleId secretId); return true : Script Bool).onError fun exn =>
    if exn.cls.isVaultError then .ret false else .raise exn

/-- `path.read_text().strip()`. -/
def readStripped (path : String) : Script String := do
  let text : String ← ask (.readText path)
  return strip text

/-- The secret id in the file still logs in. -/
def secretIdValid (roleId : String) : Script Bool := do
  let there : Bool ← ask (.fileExists "approle/secret_id")
  if there then
    let secretId ← readStripped "approle/secret_id"
    approleLoginOk roleId secretId
  else return false

/-- The secret id that is kept, or a new one. -/
def deliverSecretId (env : Env) (roleId : String) : Script Unit := do
  let valid ← secretIdValid roleId
  if valid then return ()
  else
    let secretId : String ← ask (.writeSecretId APPROLE_NAME)
    writePrivate "approle/" "secret_id" secretId 0o400 (some env.appUid)

def deliverApprole (env : Env) : Script Unit := do
  ask .makeApproleOut
  ask (.chownApproleOut env.appUid)
  ask (.chmodApproleOut 0o700)
  let roleId : String ← ask (.readRoleId APPROLE_NAME)
  deliverSecretId env roleId
  writePrivate "approle/" "role_id" roleId 0o400 (some env.appUid)

/-- One round of the loop of `self_check`. -/
def refusedWrite (bad : String) : Script Unit := do
  let refused ← (do ask (.serviceWrite bad); return false : Script Bool).onError fun exn =>
    if exn.cls = .forbidden then .ret true else .raise exn
  if refused then return ()
  else .raise (systemExit ("self-check failed: service identity could write " ++ bad))

def selfCheck : Script Unit := do
  let roleId ← readStripped "approle/role_id"
  let secretId ← readStripped "approle/secret_id"
  ask (.approleLogin roleId secretId)
  ask (.readSecretVersion "vdba/introspect/postgres")
  Prog.forEach ["sys/policies/acl/evil", "database/config/evil"] refusedWrite

def mintTestAdmin (env : Env) : Script Unit := do
  ask (.write (.policy "vdba-test-admin") TEST_ADMIN_POLICY)
  let token : String ← ask (.createToken ["vdba-test-admin"] "2h")
  writePrivate "" "test-admin-token" token 0o600 env.hostUid

def recheckWithoutRoot : Script Unit := do
  let roleId ← readStripped "approle/role_id"
  let secretId ← readStripped "approle/secret_id"
  ask (.approleLogin roleId secretId)
  Prog.forEach ["postgres", "clickhouse"] fun name =>
    (checkConnectionConfig .service name).onError fun exn => if exn.cls = .forbidden then .ret () else .raise exn

/-- The function behind a step of `main`. -/
def code (env : Env) : Bootstrap.Step → Script Unit
  | .audit => ensureAudit
  | .engines => ensureEngines env
  | .connections => ensureConnections env
  | .policiesAndRoles => ensurePoliciesAndRoles env
  | .approle => deliverApprole env
  | .selfCheck => selfCheck
  | .testAdmin => mintTestAdmin env

/-- What `main` does between `root_client` and `revoke_root`. -/
def provision (env : Env) : Script Unit := Prog.forEach (Bootstrap.provisioning env.main) (code env)

/-- The databases as the accounts of the connections see them. -/
structure Databases where
  postgres : PgSession
  clickhouse : ClickhouseTables

/-- What statements do that are run with the account of a connection. Of those of the probes, each for its database, it
is known what they raise. -/
def Databases.run (databases : Databases) (name : String) (statements : List String) : Except String Unit :=
  if PROBES.lookup name = some statements then
    if name = "postgres" then postgresProbe databases.postgres
    else clickhouseProbe databases.clickhouse "vault_manager"
  else .ok ()

structure File where
  data : String
  mode : Nat
  owner : Option Nat
  deriving DecidableEq

/-- Nobody but the owner can read the file. -/
def File.Private (f : File) : Prop := f.mode = 0o400 ∨ f.mode = 0o600

/-- Vault, the databases and the directory of the secrets; and whether Vault has been used without an audit device, and
whether an operation has failed that need not have. -/
structure State where
  vault : AList Value
  leases : List String
  roleId : String
  secretIds : List String
  databases : Databases
  files : AList fun _ : String => File
  unaudited : Bool
  troubled : Bool
  tidy : strip roleId = roleId

namespace State

def put (s : State) (slot : Slot) (value : Value slot) : State := { s with vault := s.vault.insert slot value }

def drop (s : State) (slot : Slot) : State := { s with vault := s.vault.erase slot }

def setFile (s : State) (path : String) (f : File) : State := { s with files := s.files.insert path f }

def alterFile (s : State) (path : String) (change : File → File) : State :=
  match s.files.lookup path with
  | some f => s.setFile path (change f)
  | none => s

/-- The file gets the name of another, which it takes the place of. -/
def moveFile (s : State) (path target : String) : State :=
  match s.files.lookup path with
  | some f => { s with files := (s.files.erase path).insert target f }
  | none => s

def troubles (s : State) : State := { s with troubled := true }

/-- The details of a connection that Vault shows. -/
def details (s : State) (name : String) : Option ConnectionDetails :=
  @Option.map (Value (.config name)) _ ConnectionConfig.details (s.vault.lookup (.config name))

/-- The credentials of the AppRole are good. -/
def LogsIn (s : State) (roleId secretId : String) : Prop :=
  (s.vault.lookup (.approle APPROLE_NAME)).isSome ∧ roleId = s.roleId ∧ secretId ∈ s.secretIds

/-- The policies of the AppRole let the request through. -/
def Permits (s : State) (request : VaultRequest) : Prop :=
  ∃ role : Approle, s.vault.lookup (.approle APPROLE_NAME) = some role ∧ ∃ name ∈ role.policies,
    ∃ text : String, s.vault.lookup (.policy name) = some text ∧ ∃ rules, readPolicy text = some rules ∧
      Vdba.Permits rules request

def Audited (s : State) : Prop := (s.vault.lookup (.auditDevice "file/")).isSome

instance (s : State) : Decidable s.Audited := inferInstanceAs (Decidable (_ = true))

end State

/-- The paths in Vault of what is listed. -/
def Slot.device : Slot → Option String
  | .auditDevice path => some path
  | _ => none

def Slot.engine : Slot → Option String
  | .mount path => some path
  | _ => none

def Slot.auth : Slot → Option String
  | .authMethod path => some path
  | _ => none

/-- What an operation answers that does not fail. -/
def Answers : (op : Op) → State → Ans op → Prop
  | .listEnabledAuditDevices, s, (devices : Option (List String)) =>
    devices.getD [] = s.vault.keys.filterMap Slot.device
  | .listMountedSecretsEngines, s, (mounts : List String) => mounts = s.vault.keys.filterMap Slot.engine
  | .listAuthMethods, s, (auth : List String) => auth = s.vault.keys.filterMap Slot.auth
  | .readConfig client name, s, (cfg : Option ConnectionDetails) =>
    cfg = s.details name ∧ (client = .service → s.Permits ⟨.read, "database/config/" ++ name⟩)
  | .readCreds role, s, (lease : String) => ∃ r : DatabaseRole, s.vault.lookup (.role role) = some r ∧
    (s.vault.lookup (.config r.dbName)).isSome ∧ s.databases.run r.dbName r.creationStatements = .ok () ∧
      lease ∉ s.leases ∧ ∃ key, lease = "database/creds/" ++ role ++ "/" ++ key
  | .readRoleId approle, s, (roleId : String) => (s.vault.lookup (.approle approle)).isSome ∧ roleId = s.roleId
  | .writeSecretId approle, s, (secretId : String) =>
    (s.vault.lookup (.approle approle)).isSome ∧ strip secretId = secretId
  | .approleLogin roleId secretId, s, _ => s.LogsIn roleId secretId
  | .readSecretVersion path, s, _ =>
    (s.vault.lookup (.secret path)).isSome ∧ s.Permits ⟨.read, "kv/data/" ++ path⟩
  | .serviceWrite path, s, _ => s.Permits ⟨.write, path⟩
  | .fileExists path, s, (there : Bool) => there = (s.files.lookup path).isSome
  | .readText path, s, (text : String) => (s.files.lookup path).map (·.data) = some text
  | .mkstemp dir, s, (path : String) => s.files.lookup path = none ∧ ∃ rest, path = dir ++ ".tmp-" ++ rest
  | .writeTemp path _, s, _ | .chmod path _, s, _ | .chown path _, s, _ | .replace path _, s, _ =>
    (s.files.lookup path).isSome
  | _, _, _ => True

/-- What an operation does that has answered. -/
def effect : (op : Op) → Ans op → State → State
  | .write slot value, _, s => s.put slot value
  | .readCreds _, (lease : String), s => { s with leases := lease :: s.leases }
  | .revokeLease lease, _, s => { s with leases := s.leases.filter (· ≠ lease) }
  | .deleteRole name, _, s => s.drop (.role name)
  | .writeSecretId _, (secretId : String), s => { s with secretIds := secretId :: s.secretIds }
  | .mkstemp _, (path : String), s => s.setFile path ⟨"", 0o600, none⟩
  | .writeTemp path data, _, s => s.alterFile path fun f => { f with data := data }
  | .chmod path mode, _, s => s.alterFile path fun f => { f with mode := mode }
  | .chown path uid, _, s => s.alterFile path fun f => { f with owner := some uid }
  | .replace path target, _, s => s.moveFile path target
  | _, _, s => s

/-- The calls of Vault, but for those that see to the audit device. -/
def Op.ofVault : Op → Bool
  | .listEnabledAuditDevices | .write (.auditDevice _) _ | .makeApproleOut | .chownApproleOut _ | .chmodApproleOut _
  | .fileExists _ | .readText _ | .mkstemp _ | .writeTemp .. | .chmod .. | .chown .. | .replace .. => false
  | _ => true

def State.after (s : State) (op : Op) (answer : Ans op) : State :=
  { effect op answer s with unaudited := s.unaudited || op.ofVault && !decide s.Audited }

/-- How Vault says no. -/
def Op.Refusal (op : Op) (exn : Exc) : Prop :=
  match op with
  | .serviceWrite _ | .readConfig .service _ => exn.cls = .forbidden
  | .readCreds _ | .approleLogin .. => exn.cls.isVaultError = true
  | _ => True

/-- What an operation answers and does; everything may fail, and may have been done even so. -/
inductive Serves : (op : Op) → State → Except Exc (Ans op) → State → Prop
  | answers {op s answer} : Answers op s answer → Serves op s (.ok answer) (s.after op answer)
  | refuses {op s exn} : (∀ answer, ¬Answers op s answer) → op.Refusal exn → Serves op s (.error exn) s
  | lost {op s answer exn} : Answers op s answer → Serves op s (.error exn) (s.after op answer).troubles
  | fails {op s exn} : Serves op s (.error exn) s.troubles

/-- What is set up only where it is missing. -/
def Slot.ensured : Slot → Bool
  | .auditDevice _ | .mount _ | .authMethod _ | .config _ => true
  | _ => false

/-- The roles of the probes. -/
def Slot.probe : Slot → Bool
  | .role name => name = probeRole "postgres" || name = probeRole "clickhouse"
  | _ => false

/-- The value setup writes to a place, if it writes to it. -/
def Env.desired (env : Env) : (slot : Slot) → Option (Value slot)
  | .auditDevice path => if path = "file/" then some ⟨"file", [("file_path", "/vault/logs/audit.log")]⟩ else none
  | .mount path =>
    if path = "database/" then some ⟨"database", []⟩
    else if path = "kv/" then some ⟨"kv", [("version", "2")]⟩ else none
  | .authMethod path =>
    if path = "userpass/" then some ⟨"userpass", []⟩
    else if path = "approle/" then some ⟨"approle", []⟩ else none
  | .passwordPolicy name => if name = PASSWORD_POLICY_NAME then some PASSWORD_POLICY_HCL else none
  | .plugin name => if name = PLUGIN_NAME then env.digest.toOption.map fun text => ⟨strip text, PLUGIN_NAME⟩ else none
  | .config name =>
    if name = "postgres" then env.sslmode.toOption.map env.postgresConfig
    else if name = "clickhouse" then some env.clickhouseConfig else none
  | .role _ => none
  | .secret path =>
    if path = "vdba/introspect/postgres" then some (env.introspect .postgres)
    else if path = "vdba/introspect/clickhouse" then some (env.introspect .clickhouse) else none
  | .policy name =>
    if name = SERVICE_POLICY_NAME then some SERVICE_POLICY
    else if name = CREDS_READER_POLICY_NAME then some CREDS_READER_POLICY
    else if name = ADMIN_POLICY_NAME then some ADMIN_POLICY
    else if name = "vdba-test-admin" ∧ env.main.testHooks then some TEST_ADMIN_POLICY else none
  | .tokenRole name => if name = TOKEN_ROLE_NAME then some env.tokenRole else none
  | .user name => if name = env.adminUser then some env.admin else none
  | .approle name => if name = APPROLE_NAME then some serviceApprole else none

end Vdba.Provisioning
