import Vdba.Interaction.Path
import Vdba.VaultClient

namespace Vdba.Identity
open Interaction (Iface Prog Exchange)

def RELOGIN_AFTER : Nat := 45 * 60

/-- The steps of `Service`: its lock and its fields, the clock, the files of the AppRole, and what it asks Vault. A
client is known by its token; `attempt` is the function that is called with one. -/
inductive Op
  | acquire
  | release
  | getClient
  | getLoggedInAt
  | setClient (token : Secret) (at_ : Time)
  | now
  | readText (file : String)
  | approleLogin (roleId secretId : String)
  | revokeSelf (token : Secret)
  | attempt (token : Secret)
  deriving DecidableEq

def Ans (α : Type) : Op → Type
  | .getClient => Option Secret
  | .getLoggedInAt | .now => Time
  | .readText _ => String
  | .approleLogin .. => Secret
  | .attempt _ => α
  | .acquire | .release | .setClient .. | .revokeSelf _ => Unit

abbrev steps (α : Type) : Iface := ⟨Op, Ans α⟩

/-- Code of `Service` that serves functions with results in `α`. -/
abbrev Code (α β : Type) := Prog (steps α) Exc β

section code
variable {α : Type}

abbrev ask (op : Op) : Code α (Ans α op) := @Prog.perform (steps α) Exc op

/-- `_read_approle`; the files are read stripped. -/
def readApprole : Code α (String × String) :=
  (do let roleId : String ← ask (.readText "role_id")
      let secretId : String ← ask (.readText "secret_id")
      return (roleId, secretId)).onError fun exn =>
    if exn.cls.isOSError then
      .raise ⟨.vaultUnavailable, "AppRole credentials not available (has `make up` / setup run?)"⟩
    else .raise exn

/-- The log-in request of `_login`. -/
def approleLogin (roleId secretId : String) : Code α Secret :=
  (ask (.approleLogin roleId secretId)).onError fun exn =>
    if exn.cls.isVaultError || exn.cls.isOSError then
      .raise ⟨.vaultUnavailable, "AppRole login failed: " ++ exn.cls.name⟩
    else .raise exn

/-- The token of the previous client is not to live until its TTL. -/
def revokeOld : Option Secret → Code α Unit
  | some old => (ask (.revokeSelf old)).onError fun _ => .ret ()
  | none => .ret ()

/-- What `_login` does with its new client. -/
def swap (token : Secret) : Code α Secret := do
  let old : Option Secret ← ask .getClient
  let now : Time ← ask .now
  ask (.setClient token now)
  revokeOld old
  return token

/-- `_login`. -/
def login : Code α Secret := do
  let (roleId, secretId) ← readApprole
  let token ← approleLogin roleId secretId
  swap token

/-- `with self._lock`. -/
def locked {β : Type} (p : Code α β) : Code α β := do
  ask .acquire
  p.finally_ (ask .release)

def current : Code α Secret := do
  let held : Option Secret ← ask .getClient
  match held with
  | none => login
  | some token =>
    let now : Time ← ask .now
    let since : Time ← ask .getLoggedInAt
    if since + seconds RELOGIN_AFTER < now then login else return token

def client : Code α Secret := locked current

def call : Code α α :=
  (do let token ← client
      ask (.attempt token)).onError fun exn =>
    match exn.cls with
    | .forbidden => do
      let token ← locked login
      ask (.attempt token)
    | .vaultDown | .osError _ => .raise (unavailable exn)
    | _ => .raise exn

end code
end Vdba.Identity
