import Vdba.Interaction.Prog
import Vdba.StatementBuilder
import Vdba.Views

namespace Vdba

/-- The calls that take a database lock; a revocation is known by its actor and the row it has read. -/
inductive Caller
  | issue
  | revoke (actor : String) (read : Grant)
  | reconcile
  deriving DecidableEq

/-- What `admit` counts. -/
inductive Kind
  | issue
  | revoke
  | auth
  | session
  deriving DecidableEq

def Kind.value : Kind → String
  | .issue => "issue"
  | .revoke => "revoke"
  | .auth => "auth"
  | .session => "session"

structure Catalog where
  tables : List String
  sequences : Sequences
  deriving DecidableEq

structure Creds where
  username : String
  password : Secret
  leaseId : String
  leaseDuration : Nat
  deriving DecidableEq

/-- A read of `database/creds` under way in Vault. -/
structure Opened where
  role : String
  db : DbType
  creation : List String
  revocation : List String
  account : String
  deriving DecidableEq

/-- A lease Vault is about to revoke. -/
structure Found where
  db : DbType
  account : String
  revocation : List String
  deriving DecidableEq

/-- Points of the code at which the world takes a note of what a call has got to, so that invariants and statements can
name it: a teardown begins or gives up, an account is locked out, a deadline is set, a helper role stays behind. The code
does not see the notes. -/
inductive Mark
  | teardown (id : GrantId) (final : Status)
  | raised
  | lockedOut (id : GrantId) (account : String)
  | deadline (time : Option Time)
  | leftBehind (role : String)
  deriving DecidableEq

inductive Op
  -- the process
  | now
  | sleep (span : Time)
  | tokenHex (n : Nat)
  | tokenUrlsafe
  | setOrder (xs : List String)
  | bogusArmed
  | mark (m : Mark)
  | lockAcquire (db : DbType) (id : GrantId) (caller : Caller)
  | lockRelease (db : DbType)
  | inflightAdd (id : GrantId)
  | inflightDiscard (id : GrantId)
  | inflightHas (id : GrantId)
  | slotAcquire (kind : Kind)
  | slotRelease (kind : Kind)
  -- the store
  | insertGrant (now : Time) (g : NewGrant)
  | updateGrant (now : Time) (id : GrantId) (fields : GrantFields)
  | getGrant (id : GrantId)
  | listByStatus (statuses : List Status)
  | listGrants (limit : Nat)
  | addAudit (row : AuditRow)
  | auditExists (action detail : String)
  | createSession (session : Session)
  | getSession (sid : Digest)
  | touchSession (now : Time) (sid : Digest) (checked : Bool)
  | deleteSession (sid : Digest)
  | purgeSessions (now : Time)
  -- Vault with the service identity
  | client
  | relogin
  | writeRole (role : String) (db : DbType) (creation revocation : List String) (ttl : Int)
  | deleteRole (role : String)
  | createToken (ttl : Int) (label : String)
  | listAccessors
  | lookupAccessor (accessor : String)
  | listLeases (role : String)
  | leaseFind (leaseId : String)
  | leaseRemove (leaseId : String)
  | revokeAccessor (accessor : String)
  | rotateRoot (db : DbType)
  | introspectCredentials (db : DbType)
  | readUser (username : String)
  -- Vault with another token or none
  | credsOpen (token : Secret) (role : String)
  | runStatement (db : DbType) (text account : String)
  | credsClose (opened : Opened)
  | userpassLogin (username password : String)
  | lookupSelf (token : Secret)
  | revokeSelf (token : Secret)
  -- the databases
  | connect (db : DbType) (user : String) (password : Secret)
  | pgTables
  | pgSequences
  | chTables
  | accountsWithPrefix (db : DbType) (pfx : String)
  | pgBackends (account : String)
  -- the response of a request
  | respond (response : Response)
  deriving DecidableEq

/-- The types of the answers. A listing of Vault may be empty in two ways: no keys, or no data at all. -/
def Ans : Op → Type
  | .now => Time
  | .tokenHex n => Hex n
  | .tokenUrlsafe => String
  | .setOrder _ => List String
  | .bogusArmed | .lockAcquire .. | .inflightHas _ | .slotAcquire _ | .auditExists .. => Bool
  | .getGrant _ => Option Grant
  | .listByStatus _ | .listGrants _ => List Grant
  | .getSession _ => Option Session
  | .purgeSessions _ => List Session
  | .createToken .. => Secret × String
  | .listAccessors | .listLeases _ => Option (List String)
  | .lookupAccessor _ => Option String
  | .leaseFind _ => Option Found
  | .introspectCredentials _ => String × Secret
  | .readUser _ => Option (List String)
  | .credsOpen .. => Opened
  | .credsClose _ => Option Creds
  | .userpassLogin .. => Secret × List String
  | .lookupSelf _ => List String
  | .pgTables | .chTables | .accountsWithPrefix .. => List String
  | .pgSequences => List (String × String)
  | .pgBackends _ => Nat
  | _ => Unit

abbrev calls : Interaction.Iface := ⟨Op, Ans⟩

/-- A piece of the portal's code. -/
abbrev Portal := Interaction.Prog calls Exc

abbrev ask (op : Op) : Portal (Ans op) := @Interaction.Prog.perform calls Exc op

def raise {α : Type} (cls : ExcClass) (text : String) : Portal α := .raise ⟨cls, text⟩

def lift {α : Type} : Except Exc α → Portal α := Interaction.Prog.ofExcept

@[simp] theorem lift_ok_bind {α β : Type} (value : α) (f : α → Portal β) : (lift (.ok value)).bind f = f value := rfl

def mark (m : Mark) : Portal Unit := ask (.mark m)

def time : Portal Time := ask .now

def sleep (span : Time) : Portal Unit := ask (.sleep span)

end Vdba
