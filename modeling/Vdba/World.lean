import Mathlib.Logic.Function.Basic
import Vdba.Interaction.Pool
import Vdba.Grants
import Vdba.Sql

namespace Vdba

/-- Who holds a database lock, and for which grant. -/
structure Holder where
  thread : Nat
  grant : GrantId
  caller : Caller
  deriving DecidableEq

/-- A role under `database/roles`. -/
structure Role where
  db : DbType
  creation : List String
  revocation : List String
  deriving DecidableEq

structure Token where
  accessor : String
  secret : Secret
  label : String
  deriving DecidableEq

/-- Vault's spelling of a display name. -/
def Token.displayName (token : Token) : String := "token-" ++ dashed token.label

structure Lease where
  role : String
  key : String
  db : DbType
  account : String
  revocation : List String
  deriving DecidableEq

def Lease.id (lease : Lease) : String := "database/creds/" ++ lease.role ++ "/" ++ lease.key

/-- The live objects of Vault, and the label of every accessor it ever handed out. -/
structure Vault where
  roles : String → Option Role
  tokens : List Token
  leases : List Lease
  accessors : String → Option String

/-- The accounts of a database, whether they may log in, and what they have running. -/
structure Database where
  accounts : List String
  login : String → Bool
  sessions : String → Nat
  queries : String → Nat

/-- A teardown under way: its arguments, whether it has written the status, whether one of its steps raised. -/
structure Watch where
  grant : GrantId
  final : Status
  wrote : Bool
  raised : Bool
  deriving DecidableEq

structure CredsRead where
  role : String
  time : Time
  account : String
  secret : Secret
  lease : String
  duration : Nat
  deriving DecidableEq

/-- A row the audit log is still to get for a write of a status. -/
structure Debt where
  grant : GrantId
  action : String
  result : String
  actor : Option String
  deriving DecidableEq

def Debt.paidBy (d : Debt) (row : AuditRow) : Bool :=
  row.grantId = some d.grant && row.action = d.action && row.result = d.result && d.actor.all (· = row.actor)

/-- The row that the audit log is to get for the write of a status: that the grant was issued, that a revocation has
begun, or how a teardown has ended. -/
def debtOf (id : GrantId) (issuedBy : String) (caller : Option Caller) (fields : GrantFields) : Option Debt :=
  match fields.status with
  | some .active => some ⟨id, "issue", "ok", some issuedBy⟩
  | some .revoking =>
    match fields.lastError, caller with
    | none, some (.revoke actor _) => some ⟨id, "revoke", "started", some actor⟩
    | _, _ => none
  | some .revoked => some ⟨id, "teardown", "revoked", none⟩
  | some .expired => some ⟨id, "teardown", "expired", none⟩
  | some .failed => some ⟨id, "teardown", "failed", none⟩
  | some .issuing | none => none

/-- The id an issue has the lock for, whether it has inserted its row, and the status in which it has left it. -/
structure Begun where
  grant : GrantId
  inserted : Bool
  left : Option Status
  deriving DecidableEq

/-- A record of the run: the latest time the clock has shown, what every thread owes the audit log, the issues,
and the responses. -/
structure Logbook where
  high : Time
  owed : Nat → Option Debt
  begun : Nat → Option Begun
  told : List Response

namespace Logbook

def begins (b : Logbook) (t : Nat) (id : GrantId) : Caller → Logbook
  | .issue => { b with begun := Function.update b.begun t (some ⟨id, false, none⟩) }
  | .revoke .. | .reconcile => b

def inserts (b : Logbook) (t : Nat) : Logbook :=
  { b with begun := Function.update b.begun t ((b.begun t).map fun x => { x with inserted := true }) }

def leaves (b : Logbook) (t : Nat) (status : GrantId → Option Status) : Logbook :=
  { b with begun := Function.update b.begun t ((b.begun t).map fun x => { x with left := status x.grant }) }

def owes (b : Logbook) (t : Nat) (debt : Option Debt) : Logbook :=
  { b with owed := Function.update b.owed t (debt.or (b.owed t)) }

def pays (b : Logbook) (t : Nat) (row : AuditRow) : Logbook :=
  { b with owed := Function.update b.owed t ((b.owed t).filter fun d => !d.paidBy row) }

def shows (b : Logbook) (time : Time) : Logbook := { b with high := max b.high time }

def tells (b : Logbook) (response : Response) : Logbook := { b with told := response :: b.told }

/-- What is left when the process dies. -/
def reset (b : Logbook) : Logbook := { b with owed := fun _ => none, begun := fun _ => none }

end Logbook

/-- The portal's process, its store, Vault and the databases. The grants in flight and the slots taken are kept
with the threads that added them, which the code cannot see; the last six fields only record what happened. -/
structure World where
  clock : Time
  store : Store
  locks : DbType → Option Holder
  inflight : List (Nat × GrantId)
  slots : List (Nat × Kind)
  vault : Vault
  dbs : DbType → Database
  watch : Nat → Option Watch
  deadline : Nat → Option Time
  listed : List (GrantId × String)
  lockedOut : List (GrantId × String)
  credsLog : List CredsRead
  book : Logbook

namespace World

def row (w : World) (id : GrantId) : Option Grant := w.store.getGrant id

def initial : World where
  clock := 0
  store := Store.empty
  locks := fun _ => none
  inflight := []
  slots := []
  vault := ⟨fun _ => none, [], [], fun _ => none⟩
  dbs := fun _ => ⟨[], fun _ => false, fun _ => 0, fun _ => 0⟩
  watch := fun _ => none
  deadline := fun _ => none
  listed := []
  lockedOut := []
  credsLog := []
  book := ⟨0, fun _ => none, fun _ => none, []⟩

/-- What is left when the process dies. -/
def reset (w : World) : World :=
  { w with locks := fun _ => none, inflight := [], slots := [], watch := fun _ => none
           deadline := fun _ => none, listed := [], book := w.book.reset }

/-- The clock shows another time. -/
def at_ (w : World) (time : Time) : World := { w with clock := time, book := w.book.shows time }

def setRole (w : World) (name : String) (role : Option Role) : World :=
  { w with vault := { w.vault with roles := Function.update w.vault.roles name role } }

def addToken (w : World) (token : Token) : World :=
  { w with vault := { w.vault with
      tokens := token :: w.vault.tokens
      accessors := Function.update w.vault.accessors token.accessor (some token.label) } }

def dropToken (w : World) (accessor : String) : World :=
  { w with vault := { w.vault with tokens := w.vault.tokens.filter (·.accessor ≠ accessor) } }

def addLease (w : World) (lease : Lease) : World :=
  { w with vault := { w.vault with leases := lease :: w.vault.leases } }

def dropLease (w : World) (id : String) : World :=
  { w with vault := { w.vault with leases := w.vault.leases.filter (·.id ≠ id) } }

def setDb (w : World) (db : DbType) (d : Database) : World := { w with dbs := Function.update w.dbs db d }

def marked (w : World) (t : Nat) : Mark → World
  | .teardown id final =>
    { w with watch := Function.update w.watch t (some ⟨id, final, false, false⟩)
             deadline := Function.update w.deadline t none
             listed := w.listed.filter (·.1 ≠ id) }
  | .raised =>
    { w with watch := Function.update w.watch t ((w.watch t).map fun k => { k with raised := true })
             deadline := Function.update w.deadline t none }
  | .lockedOut id account => { w with lockedOut := (id, account) :: w.lockedOut }
  | .deadline time => { w with deadline := Function.update w.deadline t time }
  | .leftBehind _ => w

/-- The accounts that a search has found for the grant whose teardown is under way. -/
def searched (w : World) (t : Nat) (names : List String) : World :=
  { w with listed := ((w.watch t).toList.flatMap fun k => names.map (k.grant, ·)) ++ w.listed }

def debt (w : World) (id : GrantId) (fields : GrantFields) : Option Debt :=
  (w.row id).bind fun r => debtOf id r.issuedBy ((w.locks r.dbType).map (·.caller)) fields

/-- The write of a status, as the thread's own teardown and the logbook note it. -/
def noteWrite (w : World) (t : Nat) (id : GrantId) (fields : GrantFields) : World :=
  if fields.status.isSome then
    { w with
      watch := Function.update w.watch t ((w.watch t).map fun k => if k.grant = id then { k with wrote := true } else k)
      book := w.book.owes t (w.debt id fields) }
  else w

end World

/-- A statement at work on an account; `count` is how many sessions a termination leaves, and no
database means that the statement can only fail. `cleanup_role` ends when it sees no backend: sessions can
be there again only if the role could log in all the while. -/
def Database.apply (d : Database) (name : String) (count : Nat) : Deed → Option Database
  | .create =>
    if name ∈ d.accounts then none
    else some { d with accounts := name :: d.accounts, login := Function.update d.login name true }
  | .lockout =>
    if isAccount name then
      some { d with login := if name ∈ d.accounts then Function.update d.login name false else d.login }
    else none
  | .cleanup =>
    if isAccount name then
      if name ∈ d.accounts then
        some { d with
          accounts := d.accounts.filter (· ≠ name)
          login := Function.update d.login name false
          sessions := Function.update d.sessions name (if d.login name then min count (d.sessions name) else 0) }
      else some d
    else none
  | .terminate => some { d with sessions := Function.update d.sessions name (min count (d.sessions name)) }
  | .kill => some { d with queries := Function.update d.queries name 0 }
  | .drop => some { d with accounts := d.accounts.filter (· ≠ name) }

/-- A statement of a role, run for an account of Vault's. -/
def World.statement (w : World) (db : DbType) (text account : String) (count : Nat) : Option World :=
  match act text with
  | none => some w
  | some a => ((w.dbs db).apply (fill account a.name) count a.deed).map (w.setDb db)

/-- How a call goes: it succeeds, fails before its effect, or its response is lost after the effect. -/
inductive Fate
  | ok
  | fail (exn : Exc)
  | lost (exn : Exc)

/-- What the outside decides of one call; a call reads the fields it needs. -/
structure Choice where
  fate : Fate := .ok
  flag : Bool := false
  chars : List Char := []
  key : String := ""
  name : Option String := none
  names : List String := []
  rows : List (String × String) := []
  secret : Secret := ⟨""⟩
  count : Nat := 0

/-- A call that can succeed. What Vault says of its objects is honest in the world it is said in, and a
lost response is never a refusal. -/
def settle {α : Type} (c : Choice) (honest : World → Exc → Bool) (w w' : World) (answer : α) :
    Option (Except Exc α × World) :=
  match c.fate with
  | .ok => some (.ok answer, w')
  | .fail exn => if honest w exn then some (.error exn, w) else none
  | .lost exn => if honest w' exn && exn.cls ≠ .forbidden then some (.error exn, w') else none

/-- A call that cannot succeed. -/
def refuse {α : Type} (c : Choice) (honest : World → Exc → Bool) (w : World) : Option (Except Exc α × World) :=
  match c.fate with
  | .fail exn => if honest w exn then some (.error exn, w) else none
  | _ => none

def settleIf {α : Type} (possible : Bool) (c : Choice) (honest : World → Exc → Bool) (w w' : World) (answer : α) :
    Option (Except Exc α × World) :=
  if possible then settle c honest w w' answer else refuse c honest w

def anyExc (_ : World) (_ : Exc) : Bool := true

def slotLimit : Kind → Nat
  | .issue => MAX_ISSUE_OPS
  | .revoke => MAX_REVOKE_OPS
  | .auth => MAX_AUTH_OPS
  | .session => MAX_SESSION_CHECKS

def lowerAlnum (c : Char) : Bool := c.isLower || c.isDigit

/-- Vault's choice of the random part of an account name. -/
def isSuffix (chars : List Char) : Bool := chars.length = 6 && chars.all lowerAlnum

namespace World

def taken (w : World) (kind : Kind) : Nat := w.slots.countP (·.2 = kind)

def liveAccessor (w : World) (accessor : String) : Bool := w.vault.tokens.any (·.accessor = accessor)

def liveLease (w : World) (id : String) : Option Lease := w.vault.leases.find? (·.id = id)

def accountsWith (w : World) (db : DbType) (pfx : String) : List String :=
  (w.dbs db).accounts.filter fun name => pfx.toList <+: name.toList

/-- An answer that an accessor or a lease is unknown is given of one that is. -/
def honestLookup (accessor : String) (w : World) (exn : Exc) : Bool := !exn.gone || !w.liveAccessor accessor

def honestAccessor (accessor : String) (w : World) (exn : Exc) : Bool := !exn.accessorGone || !w.liveAccessor accessor

def honestLease (id : String) (w : World) (exn : Exc) : Bool := !exn.leaseGone || (w.liveLease id).isNone

/-- A failing statement is not taken for an unknown lease. -/
def honestStatement (_ : World) (exn : Exc) : Bool := !exn.leaseGone

/-- The shared client cannot be had. -/
def noClient (_ : World) (exn : Exc) : Bool := exn.cls = .vaultUnavailable

/-- The backends `pg_stat_activity` shows under the name of a role. -/
def backends (w : World) (account : String) : Nat :=
  if account ∈ (w.dbs .postgres).accounts then (w.dbs .postgres).sessions account else 0

def opened (name : String) (role : Role) (chars : List Char) : Opened :=
  ⟨name, role.db, role.creation, role.revocation, name ++ "_" ++ String.ofList chars⟩

/-- The lease a read of `database/creds` ends with. -/
def lease (o : Opened) (key : String) : Lease := ⟨o.role, key, o.db, o.account, o.revocation⟩

def closed (w : World) (o : Opened) (key : String) (secret : Secret) (duration : Nat) : World :=
  { w.addLease (lease o key) with
    credsLog := ⟨o.role, w.clock, o.account, secret, (lease o key).id, duration⟩ :: w.credsLog }

end World

/-- One call in a world. -/
def exec (t : Nat) : (op : Op) → Choice → World → Option (Except Exc (Ans op) × World)
  | .now, _, w => some (.ok w.clock, w)
  | .sleep span, _, w => some (.ok (), w.at_ (w.clock + span))
  | .tokenHex n, c, w =>
    if h : c.chars.length = 2 * n ∧ ∀ d ∈ c.chars, d ∈ "0123456789abcdef".toList then some (.ok ⟨c.chars, h⟩, w)
    else none
  | .tokenUrlsafe, c, w => some (.ok c.key, w)
  | .setOrder xs, c, w => if c.names.isPerm xs then some (.ok c.names, w) else none
  | .bogusArmed, c, w => some (.ok c.flag, w)
  | .mark m, _, w => some (.ok (), w.marked t m)
  | .lockAcquire db id caller, c, w =>
    match w.locks db with
    | none =>
      some (.ok true, { w with
        locks := Function.update w.locks db (some ⟨t, id, caller⟩)
        book := w.book.begins t id caller })
    | some _ => if c.flag then some (.ok false, w) else none
  | .lockRelease db, _, w =>
    some (.ok (), { w with
      locks := Function.update w.locks db none
      watch := Function.update w.watch t none
      book := w.book.leaves t fun id => (w.row id).map (·.status) })
  | .inflightAdd id, _, w => some (.ok (), { w with inflight := (t, id) :: w.inflight })
  | .inflightDiscard id, _, w => some (.ok (), { w with inflight := w.inflight.filter (·.2 ≠ id) })
  | .inflightHas id, _, w => some (.ok (w.inflight.any (·.2 = id)), w)
  | .slotAcquire kind, _, w =>
    if w.taken kind < slotLimit kind then some (.ok true, { w with slots := (t, kind) :: w.slots })
    else some (.ok false, w)
  | .slotRelease kind, _, w => some (.ok (), { w with slots := w.slots.erase (t, kind) })
  | .insertGrant now g, c, w =>
    settleIf (w.row g.id).isNone c anyExc w
      { w with store := w.store.insertGrant now g, book := w.book.inserts t } ()
  | .updateGrant now id fields, c, w =>
    settle c anyExc w ({ w with store := w.store.updateGrant now id fields }.noteWrite t id fields) ()
  | .getGrant id, c, w => settle c anyExc w w (w.row id)
  | .listByStatus statuses, c, w => settle c anyExc w w (w.store.listByStatus statuses)
  | .listGrants limit, c, w => settle c anyExc w w (w.store.listGrants limit)
  | .addAudit row, c, w =>
    settle c anyExc w { w with store := w.store.addAudit row, book := w.book.pays t row } ()
  | .auditExists action detail, c, w => settle c anyExc w w (w.store.auditExists action detail)
  | .createSession session, c, w => settle c anyExc w { w with store := w.store.createSession session } ()
  | .getSession sid, c, w => settle c anyExc w w (w.store.getSession sid)
  | .touchSession now sid checked, c, w =>
    settle c anyExc w { w with store := w.store.touchSession now sid checked } ()
  | .deleteSession sid, c, w => settle c anyExc w { w with store := w.store.deleteSession sid } ()
  | .purgeSessions now, c, w =>
    settle c anyExc w { w with store := (w.store.purgeSessions now).2 } (w.store.purgeSessions now).1
  | .client, c, w => settle c World.noClient w w ()
  | .relogin, c, w => settle c World.noClient w w ()
  | .writeRole role db creation revocation _, c, w =>
    settle c anyExc w (w.setRole role (some ⟨db, creation, revocation⟩)) ()
  | .deleteRole role, c, w => settle c anyExc w (w.setRole role none) ()
  | .createToken _ label, c, w =>
    settleIf ((w.vault.accessors c.key).isNone && w.vault.tokens.all (·.secret ≠ c.secret)) c anyExc w
      (w.addToken ⟨c.key, c.secret, label⟩) (c.secret, c.key)
  | .listAccessors, c, w =>
    if c.flag && w.vault.tokens.isEmpty then settle c anyExc w w none
    else settleIf (c.names.isPerm (w.vault.tokens.map (·.accessor))) c anyExc w w (some c.names)
  | .lookupAccessor accessor, c, w =>
    match w.vault.tokens.find? (·.accessor = accessor) with
    | some token => settle c (World.honestLookup accessor) w w (some token.displayName)
    | none => refuse c anyExc w
  | .listLeases role, c, w =>
    let keys := (w.vault.leases.filter (·.role = role)).map (·.key)
    if c.flag && keys.isEmpty then settle c anyExc w w none
    else settleIf (c.names.isPerm keys) c anyExc w w (some c.names)
  | .leaseFind id, c, w =>
    match w.liveLease id with
    | some lease => settle c (World.honestLease id) w w (some ⟨lease.db, lease.account, lease.revocation⟩)
    | none => settle c anyExc w w none
  | .leaseRemove id, c, w => settle c (World.honestLease id) w (w.dropLease id) ()
  | .revokeAccessor accessor, c, w => settle c (World.honestAccessor accessor) w (w.dropToken accessor) ()
  | .rotateRoot _, c, w => settle c anyExc w w ()
  | .introspectCredentials _, c, w => settle c anyExc w w (c.key, c.secret)
  | .readUser _, c, w => settle c anyExc w w (if c.flag then none else some c.names)
  | .credsOpen token name, c, w =>
    match w.vault.roles name with
    | some role =>
      settleIf (w.vault.tokens.any (·.secret = token) && isSuffix c.chars) c anyExc w w
        (World.opened name role c.chars)
    | none => refuse c anyExc w
  | .runStatement db text account, c, w =>
    match w.statement db text account c.count with
    | some w' => settle c World.honestStatement w w' ()
    | none => refuse c World.honestStatement w
  | .credsClose o, c, w =>
    settleIf (w.liveLease (World.lease o c.key).id).isNone c anyExc w (w.closed o c.key c.secret c.count)
      (if c.flag then none else some ⟨o.account, c.secret, (World.lease o c.key).id, c.count⟩)
  | .userpassLogin _ _, c, w => settle c anyExc w w (c.secret, c.names)
  | .lookupSelf _, c, w => settle c anyExc w w c.names
  | .revokeSelf _, c, w => settle c anyExc w w ()
  | .connect _ _ _, c, w => settle c anyExc w w ()
  | .pgTables, c, w => settle c anyExc w w c.names
  | .pgSequences, c, w => settle c anyExc w w c.rows
  | .chTables, c, w => settle c anyExc w w c.names
  | .accountsWithPrefix db pfx, c, w =>
    settleIf (c.names.isPerm (w.accountsWith db pfx)) c anyExc w (w.searched t c.names) c.names
  | .pgBackends account, c, w => settle c anyExc w w (w.backends account)
  | .respond response, _, w => some (.ok (), { w with book := w.book.tells response })

/-- What happens on its own: time passes or the clock is set, recipients use their accounts, Vault ends
leases and tokens, and tokens are made that are not the portal's. -/
inductive Event
  | tick (span : Time)
  | setClock (time : Time)
  | login (db : DbType) (account : String)
  | logout (db : DbType) (account : String)
  | startQuery (account : String)
  | endQuery (account : String)
  | leaseText (id text : String) (count : Nat)
  | leaseGone (id : String)
  | tokenGone (accessor : String)
  | foreignTokens (tokens : List Token)

namespace Event

def canLogin (w : World) (db : DbType) (account : String) : Bool :=
  decide (account ∈ (w.dbs db).accounts) && (w.dbs db).login account

def setSessions (w : World) (db : DbType) (account : String) (n : Nat) : World :=
  w.setDb db { w.dbs db with sessions := Function.update (w.dbs db).sessions account n }

def setQueries (w : World) (account : String) (n : Nat) : World :=
  w.setDb .clickhouse { w.dbs .clickhouse with queries := Function.update (w.dbs .clickhouse).queries account n }

/-- A token of somebody else: its accessor is new, and its name does not have the portal's prefix. -/
def foreign (w : World) (token : Token) : Bool :=
  (w.vault.accessors token.accessor).isNone && decide (¬ROLE_PREFIX.toList <+: token.label.toList)

/-- Tokens appearing one after the other, as long as they are somebody else's. -/
def addForeign : List Token → World → World
  | [], w => w
  | token :: tokens, w => addForeign tokens (if foreign w token then w.addToken token else w)

def happen : Event → World → Option World
  | tick span, w => some (w.at_ (w.clock + span))
  | setClock time, w => some (w.at_ time)
  | login db account, w =>
    if canLogin w db account then some (setSessions w db account ((w.dbs db).sessions account + 1)) else none
  | logout db account, w => some (setSessions w db account ((w.dbs db).sessions account - 1))
  | startQuery account, w =>
    if account ∈ (w.dbs .clickhouse).accounts then
      some (setQueries w account ((w.dbs .clickhouse).queries account + 1))
    else none
  | endQuery account, w => some (setQueries w account ((w.dbs .clickhouse).queries account - 1))
  | leaseText id text count, w =>
    match w.liveLease id with
    | some lease => if text ∈ lease.revocation then w.statement lease.db text lease.account count else none
    | none => none
  | leaseGone id, w => some (w.dropLease id)
  | tokenGone accessor, w => some (w.dropToken accessor)
  | foreignTokens tokens, w => some (addForeign tokens w)

end Event

def machine : Interaction.Machine calls Exc World Nat Choice Event where
  exec := exec
  env := Event.happen
  reset := World.reset

/-- The calls that run side by side; what an issue returns is the body of a response. -/
inductive Entry
  | issue (req : GrantRequest) (actor requestId : String)
  | revoke (id : GrantId) (actor requestId : String)
  | reconcile

def Entry.code (cfg : Config) : Entry → Portal Unit
  | issue req actor requestId =>
    (Vdba.issue cfg req actor requestId).bind fun issued => ask (.respond ⟨200, .issued issued, none, []⟩)
  | revoke id actor requestId => (Vdba.revoke id actor requestId).bind fun _ => .ret ()
  | reconcile => reconcileOnce

/-- A moment of the whole system. -/
abbrev System := Interaction.Pool calls Exc World Nat

abbrev Move := Interaction.Label Nat Choice Event Entry

def System.start : System := ⟨World.initial, fun _ => none⟩

/-- One step of the whole system. -/
def System.move (cfg : Config) (label : Move) (s : System) : Option System :=
  Interaction.Pool.step machine (fun _ => Entry.code cfg) label s

/-- The states of the runs whose steps are all allowed. -/
abbrev System.Run (cfg : Config) (ok : System → Move → Prop) : System → Prop :=
  Interaction.Pool.Reach machine (fun _ => Entry.code cfg) ok System.start

end Vdba
