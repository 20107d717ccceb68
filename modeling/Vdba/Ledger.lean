import Vdba.Interaction.All
import Vdba.Adequacy
import Vdba.Calls

namespace Vdba
open Interaction (Triple Stable Keeping)

/-- What a group of results takes for granted of the records: that a row owed to the audit log is not lost (`recorded`),
that no helper role is left behind (`tidy`), which grants nobody revokes and no teardown fails for (`untroubled`), and
that the calls of an issue succeed once its grant is active (`delivered`). -/
structure Pledge where
  recorded : Prop := False
  tidy : Prop := False
  untroubled : GrantId → Prop := fun _ => False
  delivered : Prop := False

/-- The writes of the store. -/
def Op.writes : Op → Bool
  | .insertGrant .. | .updateGrant .. | .addAudit _ | .createSession _ | .touchSession .. | .deleteSession _
  | .purgeSessions _ => true
  | _ => false

/-- A call as the pledge has it; a write of the store that raises has changed nothing. -/
structure Honours (p : Pledge) (t : Nat) (op : Op) (c : Choice) (v : World) : Prop where
  atomic : op.writes = true → ∀ exn, c.fate ≠ .lost exn
  recorded : p.recorded → ∀ row, op = .addAudit row → v.book.owed t ≠ none → c.fate = .ok
  tidy : p.tidy → ∀ role, op = .mark (.leftBehind role) → v.vault.roles role = none
  unrevoked : ∀ id, p.untroubled id → ∀ db actor read, op ≠ .lockAcquire db id (.revoke actor read)
  unfailing : ∀ id, p.untroubled id → op = .mark .raised → ∀ k, v.watch t = some k → k.grant ≠ id
  delivered : p.delivered → (∀ row, op = .addAudit row → row.action = "issue" → row.result = "ok" → c.fate = .ok) ∧
    ∀ id b, op = .getGrant id → v.book.begun t = some b → b.left ≠ none → c.fate = .ok

def Honoured (p : Pledge) (s : System) : Move → Prop
  | .run t choice => ∀ op next, s.threads t = some (.call op next) → Honours p t op choice s.world
  | .kill => (p.recorded → ∀ t, s.world.book.owed t = none) ∧
      (p.tidy → ∀ (id : GrantId) suffix, s.world.vault.roles (id.helper suffix) = none)
  | .env _ | .spawn .. => True

/-- The columns of a row that go together. -/
structure RowOk (r : Grant) : Prop where
  together : r.leaseId.isSome = r.username.isSome ∧ r.expiresAt.isSome = r.username.isSome
  accessor : r.username.isSome = true → r.tokenAccessor.isSome = true
  set : r.status = .active ∨ r.status = .expired → r.username.isSome = true
  unset : r.status = .issuing ∨ r.status = .failed → r.username = none
  error : r.lastError.isSome = true → r.status = .revoking

/-- The changes of a status under the lock. A revocation goes by the row it has read. -/
inductive Moves (caller : Caller) (id : GrantId) : Status → Status → Prop
  | activate : Moves caller id .issuing .active
  | fail : Moves caller id .issuing .failed
  | interrupt : Moves caller id .issuing .revoking
  | expire : Moves caller id .active .expired
  | retract : Moves caller id .active .revoking
  | retry : Moves caller id .revoking .revoking
  | finish : Moves caller id .revoking .revoked
  | revoke {actor : String} {read : Grant} {old : Status} : caller = .revoke actor read → read.id = id →
      read.status.terminal = false → Moves caller id old .revoking

/-- What stays in a row for ever. -/
structure Persists (r r' : Grant) : Prop where
  id : r'.id = r.id
  dbType : r'.dbType = r.dbType
  scope : r'.scope = r.scope
  tables : r'.tables = r.tables
  commands : r'.commands = r.commands
  requestedFor : r'.requestedFor = r.requestedFor
  issuedBy : r'.issuedBy = r.issuedBy
  ttlSeconds : r'.ttlSeconds = r.ttlSeconds
  createdAt : r'.createdAt = r.createdAt
  username : r.username.isSome = true → r'.username = r.username ∧ r'.leaseId = r.leaseId ∧ r'.expiresAt = r.expiresAt

structure Change (caller : Caller) (r r' : Grant) : Prop extends Persists r r' where
  moves : r'.status = r.status ∨ Moves caller r.id r.status r'.status
  named : r.username = none → r'.username ≠ none → r'.status = .active

namespace Persists

theorem refl (r : Grant) : Persists r r := ⟨rfl, rfl, rfl, rfl, rfl, rfl, rfl, rfl, rfl, fun _ => ⟨rfl, rfl, rfl⟩⟩

theorem trans {q r s : Grant} (first : Persists q r) (second : Persists r s) : Persists q s where
  id := second.id.trans first.id
  dbType := second.dbType.trans first.dbType
  scope := second.scope.trans first.scope
  tables := second.tables.trans first.tables
  commands := second.commands.trans first.commands
  requestedFor := second.requestedFor.trans first.requestedFor
  issuedBy := second.issuedBy.trans first.issuedBy
  ttlSeconds := second.ttlSeconds.trans first.ttlSeconds
  createdAt := second.createdAt.trans first.createdAt
  username named := by
    obtain ⟨username, lease, expires⟩ := first.username named
    obtain ⟨username', lease', expires'⟩ := second.username (by rw [username]; exact named)
    exact ⟨username'.trans username, lease'.trans lease, expires'.trans expires⟩

/-- Fields that name no column the row has set already. -/
theorem set {r : Grant} {fields : GrantFields} (fresh : r.username.isSome = true →
    fields.username = none ∧ fields.leaseId = none ∧ fields.expiresAt = none) (now : Time) : Persists r (r.set now fields) := by
  refine ⟨rfl, rfl, rfl, rfl, rfl, rfl, rfl, rfl, rfl, fun named => ?_⟩
  obtain ⟨username, lease, expires⟩ := fresh named
  simp [Grant.set, username, lease, expires]

end Persists

/-- The row is in the audit log, or a thread is about to write it. -/
def Paid (d : Debt) (w : World) : Prop := (∃ a ∈ w.store.audit, d.paidBy a = true) ∨ ∃ t, w.book.owed t = some d

/-- A grant that nobody revoked and whose teardowns did not fail. -/
def Smoothly (r : Grant) (high : Time) : Prop :=
  r.status ≠ .revoking ∧ r.status ≠ .revoked ∧
    (r.status = .expired → ∃ expires, r.expiresAt = some expires ∧ expires + seconds 15 < high)

/-- What an issue has returned: the password of a response of Vault whose other data the row has. -/
def Delivered (i : Issued) (w : World) : Prop :=
  ∃ read ∈ w.credsLog, read.role = i.grant.grantId.text ∧ i.password = read.secret ∧
    ∃ r, w.row i.grant.grantId = some r ∧ r.username = some read.account ∧ r.leaseId = some read.lease ∧
      ∃ now, r.expiresAt = some (now + seconds read.duration)

/-- The grant has no helper role. -/
def Helperless (id : GrantId) (w : World) : Prop := ∀ suffix, w.vault.roles (id.helper suffix) = none

/-- A thread has the row to itself, and did not just draw its id. -/
def Tended (id : GrantId) (w : World) : Prop :=
  ∃ t r caller, w.Held t id r caller ∧ r.status.terminal = false ∧ ∀ b, w.book.begun t = some b → b.inserted = true

/-- The issues that are under way or over: one at most has inserted the row of a grant, and the row of an issue that has
left it in another status is not active. -/
structure Issues (w : World) : Prop where
  present : ∀ t b, w.book.begun t = some b → b.inserted = true → w.row b.grant ≠ none
  sole : ∀ t u b c, w.book.begun t = some b → w.book.begun u = some c → b.inserted = true → c.inserted = true →
    b.grant = c.grant → t = u
  past : ∀ t b status, w.book.begun t = some b → b.inserted = true → b.left = some status → status ≠ .active →
    ∀ r, w.row b.grant = some r → r.status ≠ .active

structure Ledger (p : Pledge) (w : World) : Prop where
  base : Inv {} w
  unique : (w.store.grants.map (·.id)).Nodup
  rows : ∀ id r, w.row id = some r → RowOk r
  issued : p.recorded → ∀ id r, w.row id = some r → r.username.isSome = true →
    Paid ⟨id, "issue", "ok", some r.issuedBy⟩ w
  ended : p.recorded → ∀ id r, w.row id = some r → r.status.terminal = true →
    Paid ⟨id, "teardown", r.status.value, none⟩ w
  helpers : p.tidy → ∀ id, ¬Helperless id w → Tended id w
  smoothly : ∀ id, p.untroubled id → ∀ r, w.row id = some r → Smoothly r w.book.high
  told : ∀ response ∈ w.book.told, ∀ i, response.body = .issued i → Delivered i w
  issues : Issues w
  high : w.clock ≤ w.book.high

/-- What one call of a thread does to the rows and records. -/
structure Enters (p : Pledge) (t : Nat) (v w : World) : Prop where
  base : Guar {} t v w
  rows : ∀ id r, v.row id = some r → ∃ r', w.row id = some r' ∧
    (r' = r ∨ ∃ caller, v.Held t id r caller ∧ Change caller r r')
  inserted : ∀ id, v.row id = none → ∀ r, w.row id = some r → ∃ now g, r = World.newRow now g
  active : ∀ id r r', v.row id = some r → w.row id = some r' → r'.status = .active →
    r.status = .active ∨ v.book.begun t = some ⟨id, true, none⟩
  owed : ∀ u, u ≠ t → w.book.owed u = v.book.owed u
  begun : ∀ u, u ≠ t → w.book.begun u = v.book.begun u
  high : v.book.high ≤ w.book.high
  paid : p.recorded → ∀ d, Paid d v → Paid d w
  aside : ∀ b, w.book.begun t = some b → b.inserted = false →
    w.row b.grant = v.row b.grant ∧ Untouched b.grant v w

/-- What a thread relies on. -/
structure Upholds (t : Nat) (v w : World) : Prop where
  base : Rely {} t v w
  rows : ∀ id r, v.row id = some r → ∃ r', w.row id = some r' ∧ Persists r r'
  owed : w.book.owed t = v.book.owed t
  begun : w.book.begun t = v.book.begun t
  high : v.book.high ≤ w.book.high

namespace Upholds
variable {t : Nat}

theorem refl (w : World) : Upholds t w w :=
  ⟨Rely.refl w, fun _ r row => ⟨r, row, .refl r⟩, rfl, rfl, Nat.le_refl _⟩

theorem trans {u v w : World} (first : Upholds t u v) (second : Upholds t v w) : Upholds t u w where
  base := first.base.trans second.base
  rows id r row := by
    obtain ⟨r', row', persists⟩ := first.rows id r row
    obtain ⟨r'', row'', persists'⟩ := second.rows id r' row'
    exact ⟨r'', row'', persists.trans persists'⟩
  owed := second.owed.trans first.owed
  begun := second.begun.trans first.begun
  high := first.high.trans second.high

end Upholds

/-- The discipline of the records; that a step keeps the discipline of the portal is known. -/
def ledger (p : Pledge) : Interaction.Discipline calls Exc World Nat where
  Step t op v answer u := (∃ c, exec t op c v = some (answer, u) ∧ Honours p t op c v) ∧ Inv {} u ∧ Guar {} t v u
  Inv := Ledger p
  Rely := Upholds
  Guar := Enters p
  rely_refl _ w := .refl w
  rely_trans _ _ _ _ first second := first.trans second

/-- What one thread enters in the records keeps what another relies on. -/
theorem Enters.upholds {p : Pledge} {t u : Nat} {v w : World} (other : u ≠ t) (inv : Inv {} v)
    (enters : Enters p t v w) :
    Upholds u v w where
  base := enters.base.rely other inv
  rows id r row := by
    obtain ⟨r', row', rfl | ⟨caller, -, change⟩⟩ := enters.rows id r row
    · exact ⟨r', row', .refl r'⟩
    · exact ⟨r', row', change.toPersists⟩
  owed := enters.owed u other
  begun := enters.begun u other
  high := enters.high

/-- The rows and the records are the same in both worlds. -/
structure Level (v w : World) : Prop where
  grants : w.store.grants = v.store.grants
  audit : w.store.audit = v.store.audit
  locks : w.locks = v.locks
  owed : w.book.owed = v.book.owed
  begun : w.book.begun = v.book.begun
  told : w.book.told = v.book.told
  high : v.book.high ≤ w.book.high
  clock : v.clock ≤ v.book.high → w.clock ≤ w.book.high
  watch : ∀ t, (w.watch t).map (·.grant) = (v.watch t).map (·.grant)
  reads : ∀ read ∈ v.credsLog, read ∈ w.credsLog

/-- The helper roles are the same, too. -/
structure Calm (v w : World) : Prop extends Level v w where
  helpers : ∀ (id : GrantId) suffix, w.vault.roles (id.helper suffix) = v.vault.roles (id.helper suffix)

namespace Level
variable {p : Pledge} {v w : World}

theorem refl (w : World) : Level w w :=
  ⟨rfl, rfl, rfl, rfl, rfl, rfl, Nat.le_refl _, id, fun _ => rfl, fun _ member => member⟩

theorem trans {u : World} (first : Level u v) (second : Level v w) : Level u w where
  grants := second.grants.trans first.grants
  audit := second.audit.trans first.audit
  locks := second.locks.trans first.locks
  owed := second.owed.trans first.owed
  begun := second.begun.trans first.begun
  told := second.told.trans first.told
  high := first.high.trans second.high
  clock below := second.clock (first.clock below)
  watch t := (second.watch t).trans (first.watch t)
  reads read member := second.reads read (first.reads read member)

theorem row (level : Level v w) (id : GrantId) : w.row id = v.row id := by
  unfold World.row Store.getGrant
  rw [level.grants]

theorem held (level : Level v w) {t : Nat} {id : GrantId} {r : Grant} {caller : Caller} :
    w.Held t id r caller ↔ v.Held t id r caller := by
  unfold World.Held
  rw [level.row, level.locks]

theorem tended (level : Level v w) {id : GrantId} (tended : Tended id v) : Tended id w := by
  obtain ⟨t, r, caller, held, alive, inserted⟩ := tended
  exact ⟨t, r, caller, level.held.mpr held, alive, fun b begun => inserted b (by rwa [level.begun] at begun)⟩

theorem paid (level : Level v w) {d : Debt} : Paid d w ↔ Paid d v := by
  unfold Paid
  rw [level.audit, level.owed]

theorem delivered (level : Level v w) {i : Issued} (told : Delivered i v) : Delivered i w := by
  obtain ⟨read, member, role, password, r, row, rest⟩ := told
  exact ⟨read, level.reads read member, role, password, r, by rw [level.row, row], rest⟩

theorem issues (level : Level v w) (issues : Issues v) : Issues w where
  present t b begun inserted := by
    rw [level.row]
    exact issues.present t b (by rwa [level.begun] at begun) inserted
  sole t u b c first second := issues.sole t u b c (by rwa [level.begun] at first) (by rwa [level.begun] at second)
  past t b status begun inserted left other r found :=
    issues.past t b status (by rwa [level.begun] at begun) inserted left other r (by rwa [level.row] at found)

theorem ledger (level : Level v w) (books : Ledger p v) (base : Inv {} w)
    (helpers : p.tidy → ∀ id, ¬Helperless id w → Tended id w) : Ledger p w where
  base := base
  unique := by rw [level.grants]; exact books.unique
  rows id r found := books.rows id r (by rwa [level.row] at found)
  issued recorded id r found named := level.paid.mpr (books.issued recorded id r (by rwa [level.row] at found) named)
  ended recorded id r found past := level.paid.mpr (books.ended recorded id r (by rwa [level.row] at found) past)
  helpers := helpers
  smoothly id untroubled r found := by
    obtain ⟨first, second, late⟩ := books.smoothly id untroubled r (by rwa [level.row] at found)
    refine ⟨first, second, fun expired => ?_⟩
    obtain ⟨expires, at_expires, past⟩ := late expired
    exact ⟨expires, at_expires, past.trans_le level.high⟩
  told response member i body := level.delivered (books.told response (by rwa [level.told] at member) i body)
  issues := level.issues books.issues
  high := level.clock books.high

theorem enters (level : Level v w) {t : Nat} (base : Guar {} t v w)
    (aside : ∀ b, v.book.begun t = some b → b.inserted = false → Untouched b.grant v w) : Enters p t v w where
  base := base
  rows id r found := ⟨r, by rw [level.row, found], Or.inl rfl⟩
  inserted id absent r found := by
    rw [level.row, absent] at found
    cases found
  active id r r' found found' active := by
    rw [level.row, found] at found'
    cases found'
    exact Or.inl active
  owed u _ := by rw [level.owed]
  begun u _ := by rw [level.begun]
  high := level.high
  paid _ d paid := level.paid.mpr paid
  aside b begun out := ⟨level.row b.grant, aside b (by rwa [level.begun] at begun) out⟩

end Level

namespace Calm
variable {p : Pledge} {v w : World}

theorem refl (w : World) : Calm w w := ⟨Level.refl w, fun _ _ => rfl⟩

theorem trans {u : World} (first : Calm u v) (second : Calm v w) : Calm u w :=
  ⟨first.toLevel.trans second.toLevel, fun id suffix => (second.helpers id suffix).trans (first.helpers id suffix)⟩

theorem helperless (calm : Calm v w) {id : GrantId} : Helperless id w ↔ Helperless id v := by
  unfold Helperless
  simp only [calm.helpers]

theorem ledger (calm : Calm v w) (books : Ledger p v) (base : Inv {} w) : Ledger p w := by
  refine calm.toLevel.ledger books base fun tidy id some_left => ?_
  exact calm.tended (books.helpers tidy id fun none => some_left (calm.helperless.mpr none))

end Calm

/-- A call that leaves the rows, the records and the helper roles as they are. -/
def Op.calm : Op → Prop
  | .lockAcquire .. | .lockRelease _ | .insertGrant .. | .updateGrant .. | .addAudit _ | .respond _
  | .mark (.teardown ..) => False
  | .writeRole role .. | .deleteRole role => ∀ (id : GrantId) suffix, role ≠ id.helper suffix
  | _ => True

theorem calm_at (w : World) (time : Time) : Calm w (w.at_ time) :=
  { Calm.refl w with high := Nat.le_max_left _ _, clock := fun _ => Nat.le_max_right _ _ }

theorem calm_setRole (w : World) {name : String} (other : ∀ (id : GrantId) suffix, name ≠ id.helper suffix)
    (role : Option Role) : Calm w (w.setRole name role) :=
  { Calm.refl w with helpers := fun id suffix => Function.update_of_ne (other id suffix).symm _ _ }

theorem calm_statement {v w : World} {db : DbType} {text account : String} {count : Nat}
    (ran : v.statement db text account count = some w) : Calm v w := by
  rcases World.statement_cases ran with ⟨-, rfl⟩ | ⟨_, _, -, -, rfl⟩
  · exact .refl w
  · exact { Calm.refl v with }

theorem effect_calm {op : Op} (calm : op.calm) (w : World) (t : Nat) (c : Choice) : Calm w (w.effect t c op) := by
  cases op
  case sleep span => exact calm_at w _
  case mark m =>
    cases m with
    | teardown => exact calm.elim
    | raised =>
      refine { Calm.refl w with watch := fun u => ?_ }
      by_cases own : u = t
      · subst own
        simp only [World.effect, World.marked, Function.update_self, Option.map_map]
        rfl
      · simp [World.effect, World.marked, own]
    | lockedOut | deadline | leftBehind => exact { Calm.refl w with }
  case writeRole role db creation revocation ttl => exact calm_setRole w calm _
  case deleteRole role => exact calm_setRole w calm none
  case runStatement db text account =>
    rw [World.effect]
    cases ran : w.statement db text account c.count with
    | none => exact .refl w
    | some w' => exact calm_statement ran
  case credsClose o => exact { Calm.refl w with reads := fun _ member => List.mem_cons_of_mem _ member }
  case lockAcquire | lockRelease | insertGrant | updateGrant | addAudit | respond => exact calm.elim
  all_goals exact { Calm.refl w with }

theorem exec_calm {t : Nat} {op : Op} {c : Choice} {v w : World} {answer : Except Exc (Ans op)} (calm : op.calm)
    (executed : exec t op c v = some (answer, w)) : Calm v w := by
  rcases exec_effect executed with rfl | ⟨rfl, -⟩
  · exact .refl w
  · exact effect_calm calm v t c

theorem happen_calm {event : Event} {v w : World} (happened : event.happen v = some w) : Calm v w := by
  have foreign (tokens : List Token) (v : World) : Calm v (Event.addForeign tokens v) := by
    induction tokens generalizing v with
    | nil => exact .refl v
    | cons token tokens ih =>
      rw [Event.addForeign]
      split
      · have added : Calm v (v.addToken token) := { Calm.refl v with }
        exact added.trans (ih _)
      · exact ih v
  cases event <;> simp only [Event.happen, Option.some.injEq, Option.ite_none_right_eq_some] at happened
  case tick span => subst happened; exact calm_at v _
  case setClock time => subst happened; exact calm_at v time
  case login => obtain ⟨-, rfl⟩ := happened; exact { Calm.refl v with }
  case startQuery => obtain ⟨-, rfl⟩ := happened; exact { Calm.refl v with }
  case foreignTokens tokens => rw [← happened]; exact foreign tokens v
  case leaseText lease text count =>
    cases live : v.liveLease lease with
    | none => rw [live] at happened; cases happened
    | some l =>
      rw [live] at happened
      simp only [Option.ite_none_right_eq_some] at happened
      exact calm_statement happened.2
  all_goals subst happened; exact { Calm.refl v with }

end Vdba
