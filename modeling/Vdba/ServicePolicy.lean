import Vdba.Ownership
import Vdba.Text.Lexer

namespace Vdba
open Text (Dialect)

def servicePolicyLines : List String :=
  ["",
    "# Roles are written by the middleware with fixed, code-generated templates.",
    "path \"database/roles/vdba_*\" \x7b capabilities = [\"create\", \"read\", \"update\", \"delete\"] \x7d",
    "path \"database/rotate-root/postgres\" \x7b capabilities = [\"update\"] \x7d",
    "path \"database/rotate-root/clickhouse\" \x7b capabilities = [\"update\"] \x7d",
    "path \"kv/data/vdba/introspect/*\" \x7b capabilities = [\"read\"] \x7d",
    "# One orphan token per grant, from a token role with a FIXED allowed policy.",
    "path \"auth/token/create/vdba-grant\" \x7b capabilities = [\"create\", \"update\"] \x7d",
    "path \"auth/token/revoke-accessor\" \x7b capabilities = [\"update\"] \x7d",
    "# Revocation (no sudo, no revoke-prefix) and lease discovery for the reconciler.",
    "path \"sys/leases/revoke/database/creds/vdba_*\" \x7b capabilities = [\"update\"] \x7d",
    "# (listing leases requires sudo in Vault; scoped to our own role prefix only)",
    "path \"sys/leases/lookup/database/creds/vdba_*\" \x7b capabilities = [\"list\", \"sudo\"] \x7d",
    "path \"auth/token/lookup-self\" \x7b capabilities = [\"read\"] \x7d",
    "# Needed to revoke its own previous token on re-login (token_no_default_policy drops the default policy's grant).",
    "path \"auth/token/revoke-self\" \x7b capabilities = [\"update\"] \x7d",
    "# Read-only view of the two connections (never returns the password): lets a later setup run re-check them.",
    "path \"database/config/postgres\" \x7b capabilities = [\"read\"] \x7d",
    "path \"database/config/clickhouse\" \x7b capabilities = [\"read\"] \x7d",
    "# Session re-validation reads the CURRENT policies of an admin user (never the password hash).",
    "path \"auth/userpass/users/*\" \x7b capabilities = [\"read\"] \x7d",
    "# Recovery of a grant token whose create response was lost: find it by its display name (grant id).",
    "# Accessors are not credentials; listing them needs sudo on this one path.",
    "path \"auth/token/accessors\" \x7b capabilities = [\"list\", \"sudo\"] \x7d",
    "path \"auth/token/lookup-accessor\" \x7b capabilities = [\"update\"] \x7d",
    "# Deliberately absent: sys/policies/*, database/config WRITES, database/creds/*, sys/leases/revoke-prefix.",
    ""]

def SERVICE_POLICY : String := "\n".intercalate servicePolicyLines

/-- A rule of a policy. -/
structure Rule where
  pattern : String
  capabilities : List String
  deriving DecidableEq

theorem hcl_apart : '"' ≠ '\'' ∧ '"' ≠ ' ' ∧ Text.wordChar '"' = false := by decide

/-- The quoting rules of policies. -/
def hcl : Dialect := ⟨'"', true, hcl_apart⟩

def readCapabilities : List Text.Token → Option (List String)
  | [.quoted c, .mark ']', .mark '\x7d'] => some [c]
  | .quoted c :: .mark ',' :: rest => (readCapabilities rest).map (c :: ·)
  | _ => none

def readRule : List Text.Token → Option Rule
  | .word "path" :: .quoted pattern :: .mark '\x7b' :: .word "capabilities" :: .mark '=' :: .mark '[' :: rest =>
    (readCapabilities rest).map (⟨pattern, ·⟩)
  | _ => none

/-- The rules of a policy, one a line; lines that start with `#` are comments. -/
def readPolicy (policy : String) : Option (List Rule) :=
  ((policy.toList.splitOn '\n').filter fun line => line ≠ [] ∧ line.head? ≠ some '#').mapM fun line =>
    (hcl.lex line).bind readRule

def serviceRules : List Rule := (readPolicy SERVICE_POLICY).getD []

/-- A trailing `*` stands for any text. -/
def Rule.Matches (rule : Rule) (path : String) : Prop :=
  if rule.pattern.toList.getLast? = some '*' then rule.pattern.toList.dropLast <+: path.toList
  else rule.pattern = path

instance (rule : Rule) (path : String) : Decidable (rule.Matches path) :=
  inferInstanceAs (Decidable (if rule.pattern.toList.getLast? = some _ then _ <+: _ else rule.pattern = path))

theorem servicePolicy_lines : SERVICE_POLICY.toList.splitOn '\n' = servicePolicyLines.map String.toList := by
  have newline : "\n".toList = ['\n'] := by decide
  have unbroken : ∀ line ∈ servicePolicyLines.map String.toList, '\n' ∉ line := by
    rw [List.forall_mem_map]
    unfold servicePolicyLines
    repeat'
      first
      | exact List.forall_mem_nil _
      | refine List.forall_mem_cons.mpr ⟨?_, ?_⟩
      | (rw [String.toList_ofList]; decide)
  rw [SERVICE_POLICY, String.toList_intercalate, newline]
  exact List.splitOn_intercalate '\n' unbroken (List.cons_ne_nil _ _)

set_option maxRecDepth 100000 in
theorem serviceRules_eq : serviceRules =
    [⟨"database/roles/vdba_*", ["create", "read", "update", "delete"]⟩,
      ⟨"database/rotate-root/postgres", ["update"]⟩,
      ⟨"database/rotate-root/clickhouse", ["update"]⟩,
      ⟨"kv/data/vdba/introspect/*", ["read"]⟩,
      ⟨"auth/token/create/vdba-grant", ["create", "update"]⟩,
      ⟨"auth/token/revoke-accessor", ["update"]⟩,
      ⟨"sys/leases/revoke/database/creds/vdba_*", ["update"]⟩,
      ⟨"sys/leases/lookup/database/creds/vdba_*", ["list", "sudo"]⟩,
      ⟨"auth/token/lookup-self", ["read"]⟩,
      ⟨"auth/token/revoke-self", ["update"]⟩,
      ⟨"database/config/postgres", ["read"]⟩,
      ⟨"database/config/clickhouse", ["read"]⟩,
      ⟨"auth/userpass/users/*", ["read"]⟩,
      ⟨"auth/token/accessors", ["list", "sudo"]⟩,
      ⟨"auth/token/lookup-accessor", ["update"]⟩] := by
  unfold serviceRules readPolicy
  rw [servicePolicy_lines]
  unfold servicePolicyLines
  simp only [List.map_cons, List.map_nil]
  repeat rw [String.toList_ofList]
  decide

/-- What a request does in Vault. -/
inductive Operation
  | read
  | list
  | write
  | delete
  deriving DecidableEq

/-- The capabilities one of which lets the operation through. -/
def Operation.capabilities : Operation → List String
  | read => ["read"]
  | list => ["list"]
  | write => ["create", "update"]
  | delete => ["delete"]

structure VaultRequest where
  operation : Operation
  path : String
  deriving DecidableEq

/-- The path a request is checked on: that of a listing without a trailing slash. -/
def VaultRequest.checked (request : VaultRequest) : String :=
  if request.operation = .list ∧ request.path.toList.getLast? = some '/' then
    String.ofList request.path.toList.dropLast
  else request.path

/-- The listings Vault keeps for tokens with `sudo`. -/
def VaultRequest.Guarded (request : VaultRequest) : Prop :=
  request.operation = .list ∧
    ("sys/leases/lookup/".toList <+: request.path.toList ∨ request.path = "auth/token/accessors")

/-- Some rule lets the request through. -/
def Permits (rules : List Rule) (request : VaultRequest) : Prop :=
  ∃ rule ∈ rules, rule.Matches request.checked ∧ (∃ c ∈ request.operation.capabilities, c ∈ rule.capabilities) ∧
    (request.Guarded → "sudo" ∈ rule.capabilities)

instance (request : VaultRequest) : Decidable request.Guarded := inferInstanceAs (Decidable (_ ∧ (_ <+: _ ∨ _ = _)))

instance (rules : List Rule) (request : VaultRequest) : Decidable (Permits rules request) :=
  inferInstanceAs (Decidable (∃ rule ∈ rules, _ ∧ (∃ c ∈ request.operation.capabilities, _ ∈ _) ∧ (_ → _ ∈ _)))

def connectionName : DbType → String
  | .postgres => "postgres"
  | .clickhouse => "clickhouse"

/-- The requests of a call with the service identity. -/
def Op.requests : Op → List VaultRequest
  | .client | .relogin => [⟨.write, "auth/token/revoke-self"⟩]
  | .writeRole role .. => [⟨.write, "database/roles/" ++ role⟩]
  | .deleteRole role => [⟨.delete, "database/roles/" ++ role⟩]
  | .createToken .. => [⟨.write, "auth/token/create/" ++ TOKEN_ROLE_NAME⟩]
  | .listAccessors => [⟨.list, "auth/token/accessors"⟩]
  | .lookupAccessor _ => [⟨.write, "auth/token/lookup-accessor"⟩]
  | .listLeases role => [⟨.list, "sys/leases/lookup/database/creds/" ++ role⟩]
  -- the revocation is one request, which Vault serves in two steps
  | .leaseFind leaseId | .leaseRemove leaseId => [⟨.write, "sys/leases/revoke/" ++ leaseId⟩]
  | .revokeAccessor _ => [⟨.write, "auth/token/revoke-accessor"⟩]
  | .rotateRoot db => [⟨.write, "database/rotate-root/" ++ connectionName db⟩]
  | .introspectCredentials db => [⟨.read, "kv/data/vdba/introspect/" ++ db.value⟩]
  | .readUser username => [⟨.read, "auth/userpass/users/" ++ username⟩]
  | _ => []

/-- A role the portal writes: that of a grant, or one of its helpers. -/
def PortalRole (role : String) : Prop := ∃ id : GrantId, role = id.text ∨ ∃ suffix, role = id.helper suffix

/-- The call is about a role the portal writes. -/
def Op.Own : Op → Prop
  | .writeRole role .. | .deleteRole role | .listLeases role => PortalRole role
  | .leaseFind leaseId | .leaseRemove leaseId =>
    ∃ role key, PortalRole role ∧ leaseId = "database/creds/" ++ role ++ "/" ++ key
  | _ => True

section rules
variable {rule : Rule} {path : String}

theorem matches_under {head : String} {capabilities : List String} (under : head.toList <+: path.toList) :
    (⟨head ++ "*", capabilities⟩ : Rule).Matches path := by
  have chars : (head ++ "*").toList = head.toList ++ ['*'] := by
    rw [String.toList_append]
    rfl
  unfold Rule.Matches
  rw [chars, if_pos List.getLast?_concat, List.dropLast_concat]
  exact under

theorem hex_last {n : Nat} (hex : Hex (n + 1)) : ∃ c, hex.val.getLast? = some c ∧ c ≠ '/' := by
  have some : hex.val ≠ [] := by
    intro empty
    have length := hex.property.1
    rw [empty, List.length_nil] at length
    omega
  refine ⟨hex.val.getLast some, List.getLast?_eq_some_getLast some, fun slash => ?_⟩
  have digit := hex.property.2 _ (List.getLast_mem some)
  rw [slash] at digit
  revert digit
  decide

/-- The roles of the portal have its prefix and end with a digit. -/
theorem portalRole_text {role : String} (own : PortalRole role) :
    "vdba_".toList <+: role.toList ∧ ∃ c, role.toList.getLast? = some c ∧ c ≠ '/' := by
  obtain ⟨id, rfl | ⟨suffix, rfl⟩⟩ := own
  · obtain ⟨c, last, other⟩ := hex_last id.random
    refine ⟨⟨id.random.val, (id.text_toList).symm⟩, c, ?_, other⟩
    rw [id.text_toList, List.getLast?_append, last]
    rfl
  · obtain ⟨c, last, other⟩ := hex_last suffix
    have chars : (id.helper suffix).toList = "vdba_".toList ++ (id.random.val ++ ("_h".toList ++ suffix.val)) := by
      have digits : suffix.text.toList = suffix.val := String.toList_ofList
      rw [GrantId.helper, String.toList_append, String.toList_append, id.text_toList, digits, List.append_assoc,
        List.append_assoc]
    refine ⟨⟨_, chars.symm⟩, c, ?_, other⟩
    rw [chars, List.getLast?_append, List.getLast?_append, List.getLast?_append, last]
    rfl

theorem under_append {head front rest : String} (under : front.toList <+: rest.toList) :
    (head ++ front).toList <+: (head ++ rest).toList := by
  rw [String.toList_append, String.toList_append]
  exact (List.prefix_append_right_inj _).mpr under

variable {rules : List Rule}

theorem permits_plain {operation : Operation} (member : rule ∈ rules) (fits : rule.Matches path)
    (other : operation ≠ .list) (able : ∃ c ∈ operation.capabilities, c ∈ rule.capabilities) :
    Permits rules ⟨operation, path⟩ := by
  have checked : (⟨operation, path⟩ : VaultRequest).checked = path := if_neg fun both => other both.1
  refine ⟨rule, member, ?_, able, fun guarded => absurd guarded.1 other⟩
  rw [checked]
  exact fits

section heads
variable {operation : Operation} {head front rest : String} {capabilities : List String}

theorem permits_any (member : ⟨head ++ "*", capabilities⟩ ∈ rules) (other : operation ≠ .list)
    (able : ∃ c ∈ operation.capabilities, c ∈ capabilities) : Permits rules ⟨operation, head ++ rest⟩ := by
  have under : head.toList <+: (head ++ rest).toList := by
    rw [String.toList_append]
    exact List.prefix_append _ _
  exact permits_plain member (matches_under under) other able

/-- A path made of a fixed head and of a name with the front the pattern asks for. -/
theorem permits_under (member : ⟨head ++ front ++ "*", capabilities⟩ ∈ rules) (under : front.toList <+: rest.toList)
    (other : operation ≠ .list) (able : ∃ c ∈ operation.capabilities, c ∈ capabilities) :
    Permits rules ⟨operation, head ++ rest⟩ :=
  permits_plain member (matches_under (under_append under)) other able

theorem permits_list (member : ⟨head ++ front ++ "*", capabilities⟩ ∈ rules) (under : front.toList <+: rest.toList)
    (unslashed : ∃ c, rest.toList.getLast? = some c ∧ c ≠ '/') (able : "list" ∈ capabilities)
    (root : "sudo" ∈ capabilities) : Permits rules ⟨.list, head ++ rest⟩ := by
  obtain ⟨c, last, other⟩ := unslashed
  have final : (head ++ rest).toList.getLast? = some c := by
    rw [String.toList_append, List.getLast?_append, last]
    rfl
  have checked : (⟨.list, head ++ rest⟩ : VaultRequest).checked = head ++ rest := by
    refine if_neg fun both => other ?_
    rw [final] at both
    exact Option.some.inj both.2
  refine ⟨_, member, ?_, ⟨"list", List.mem_singleton_self _, able⟩, fun _ => root⟩
  rw [checked]
  exact matches_under (under_append under)

end heads

/-- Some path under this one may match the rule. -/
def Rule.Meets (rule : Rule) (front : List Char) : Prop :=
  if rule.pattern.toList.getLast? = some '*' then
    rule.pattern.toList.dropLast <+: front ∨ front <+: rule.pattern.toList.dropLast
  else front <+: rule.pattern.toList

instance (rule : Rule) (front : List Char) : Decidable (rule.Meets front) :=
  inferInstanceAs (Decidable (if rule.pattern.toList.getLast? = some _ then _ <+: _ ∨ _ <+: _ else _ <+: _))

theorem Rule.Matches.meets {front : List Char} (fits : rule.Matches path) (under : front <+: path.toList) :
    rule.Meets front := by
  unfold Rule.Matches at fits
  unfold Rule.Meets
  split at fits
  · rw [if_pos (by assumption)]
    exact List.prefix_or_prefix_of_prefix fits under
  · rw [if_neg (by assumption), fits]
    exact under

end rules

theorem serviceRules_meets : ∀ rule ∈ serviceRules, ¬rule.Meets "sys/policies/".toList ∧
    ¬rule.Meets "sys/leases/revoke-prefix".toList ∧ ¬rule.Meets "database/creds/".toList ∧
    (rule.Meets "auth/token/create".toList → rule.pattern = "auth/token/create/" ++ TOKEN_ROLE_NAME) ∧
    (rule.Meets "database/config/".toList → rule.capabilities = ["read"]) := by
  rw [serviceRules_eq]
  decide

theorem mem_serviceRules : ⟨"database/roles/" ++ "vdba_" ++ "*", ["create", "read", "update", "delete"]⟩ ∈ serviceRules ∧
    ⟨"sys/leases/lookup/database/creds/" ++ "vdba_" ++ "*", ["list", "sudo"]⟩ ∈ serviceRules ∧
    ⟨"sys/leases/revoke/database/creds/" ++ "vdba_" ++ "*", ["update"]⟩ ∈ serviceRules ∧
    ⟨"auth/userpass/users/" ++ "*", ["read"]⟩ ∈ serviceRules ∧
    ⟨"kv/data/vdba/introspect/" ++ "*", ["read"]⟩ ∈ serviceRules := by
  rw [serviceRules_eq]
  decide

/-- The requests whose path is fixed. -/
theorem permits_fixed : Permits serviceRules ⟨.write, "auth/token/revoke-self"⟩ ∧
    Permits serviceRules ⟨.write, "auth/token/create/" ++ TOKEN_ROLE_NAME⟩ ∧
    Permits serviceRules ⟨.list, "auth/token/accessors"⟩ ∧
    Permits serviceRules ⟨.write, "auth/token/lookup-accessor"⟩ ∧
    Permits serviceRules ⟨.write, "auth/token/revoke-accessor"⟩ ∧
    Permits serviceRules ⟨.write, "database/rotate-root/" ++ connectionName .postgres⟩ ∧
    Permits serviceRules ⟨.write, "database/rotate-root/" ++ connectionName .clickhouse⟩ := by
  rw [serviceRules_eq]
  decide

theorem permits_requests (op : Op) (own : op.Own) : ∀ request ∈ op.requests, Permits serviceRules request := by
  obtain ⟨roles, lookup, revoke, users, introspect⟩ := mem_serviceRules
  obtain ⟨self, create, accessors, lookupAccessor, revokeAccessor, rotatePostgres, rotateClickhouse⟩ := permits_fixed
  intro request asked
  cases op with
  | client | relogin =>
    obtain rfl := List.mem_singleton.mp asked
    exact self
  | writeRole role db creation revocation ttl =>
    obtain rfl := List.mem_singleton.mp asked
    exact permits_under roles (portalRole_text own).1 (by decide) (by decide)
  | deleteRole role =>
    obtain rfl := List.mem_singleton.mp asked
    exact permits_under roles (portalRole_text own).1 (by decide) (by decide)
  | createToken ttl label =>
    obtain rfl := List.mem_singleton.mp asked
    exact create
  | listAccessors =>
    obtain rfl := List.mem_singleton.mp asked
    exact accessors
  | lookupAccessor accessor =>
    obtain rfl := List.mem_singleton.mp asked
    exact lookupAccessor
  | listLeases role =>
    obtain rfl := List.mem_singleton.mp asked
    obtain ⟨under, unslashed⟩ := portalRole_text own
    exact permits_list lookup under unslashed (by decide) (by decide)
  | leaseFind leaseId | leaseRemove leaseId =>
    obtain rfl := List.mem_singleton.mp asked
    obtain ⟨role, key, named, rfl⟩ := own
    have under : "vdba_".toList <+: (role ++ "/" ++ key).toList := by
      rw [String.toList_append, String.toList_append, List.append_assoc]
      exact (portalRole_text named).1.trans (List.prefix_append _ _)
    have path : "sys/leases/revoke/" ++ ("database/creds/" ++ role ++ "/" ++ key) =
        "sys/leases/revoke/database/creds/" ++ (role ++ "/" ++ key) := by
      rw [show "sys/leases/revoke/database/creds/" = "sys/leases/revoke/" ++ "database/creds/" by decide,
        String.append_assoc, String.append_assoc, String.append_assoc, String.append_assoc]
    rw [path]
    exact permits_under revoke under (by decide) (by decide)
  | revokeAccessor accessor =>
    obtain rfl := List.mem_singleton.mp asked
    exact revokeAccessor
  | rotateRoot db =>
    obtain rfl := List.mem_singleton.mp asked
    cases db with
    | postgres => exact rotatePostgres
    | clickhouse => exact rotateClickhouse
  | introspectCredentials db =>
    obtain rfl := List.mem_singleton.mp asked
    exact permits_any introspect (by decide) (by decide)
  | readUser username =>
    obtain rfl := List.mem_singleton.mp asked
    exact permits_any users (by decide) (by decide)
  | _ => cases asked

/-- The service policy lets through every request of the portal's own, and nothing that could widen its rights. -/
theorem servicePolicy_exact :
    (∀ op : Op, op.Own → ∀ request ∈ op.requests, Permits serviceRules request) ∧
    (∀ path : String, ("sys/policies/".toList <+: path.toList ∨ "sys/leases/revoke-prefix".toList <+: path.toList ∨
        "database/creds/".toList <+: path.toList ∨
        "auth/token/create".toList <+: path.toList ∧ path ≠ "auth/token/create/" ++ TOKEN_ROLE_NAME) →
      ∀ rule ∈ serviceRules, ¬rule.Matches path) ∧
    ∀ path : String, "database/config/".toList <+: path.toList →
      ∀ rule ∈ serviceRules, rule.Matches path → ∀ c ∈ ["create", "update", "delete"], c ∉ rule.capabilities := by
  refine ⟨permits_requests, fun path family rule member fits => ?_, fun path config rule member fits c changing => ?_⟩
  · obtain ⟨policies, revocations, creds, create, -⟩ := serviceRules_meets rule member
    rcases family with under | under | under | ⟨under, other⟩
    · exact policies (fits.meets under)
    · exact revocations (fits.meets under)
    · exact creds (fits.meets under)
    · have same := create (fits.meets under)
      have plain : rule.pattern.toList.getLast? ≠ some '*' := by
        rw [same]
        decide
      unfold Rule.Matches at fits
      rw [if_neg plain] at fits
      exact other (fits.symm.trans same)
  · have only := (serviceRules_meets rule member).2.2.2.2 (fits.meets config)
    rw [only]
    revert c
    decide

end Vdba
