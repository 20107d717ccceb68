import Vdba.World

namespace Vdba

/-- What a group of results takes for granted: that revocations decide from rows that are not finished
(`fresh`), that the clock does not run backwards (`monotone`) and did not before (`dated`), the accounts whose
leases Vault does not end between a teardown's search and its lockout (`kept`), which grants nothing but their own calls
touches (`quiet`), that only one thread runs (`solo`), and the grants whose calls go well (`smooth`). -/
structure Terms where
  fresh : Prop := False
  monotone : Prop := False
  dated : Prop := False
  kept : String → Prop := fun _ => False
  quiet : GrantId → Prop := fun _ => False
  solo : Option Nat := none
  smooth : GrantId → Prop := fun _ => False

/-- The name is that of an account of the grant. -/
def GrantId.OwnsAccount (id : GrantId) (name : String) : Prop := (id.text ++ "_").toList <+: name.toList

def GrantId.OwnsLease (id : GrantId) (lease : String) : Prop :=
  ("database/creds/" ++ id.text).toList <+: lease.toList

namespace World

/-- The thread holds the lock of the grant's database for this grant. -/
def Holds (t : Nat) (id : GrantId) (w : World) : Prop :=
  ∃ r caller, w.row id = some r ∧ w.locks r.dbType = some ⟨t, id, caller⟩

/-- Nothing of the grant is left outside the store. -/
structure Clean (id : GrantId) (w : World) : Prop where
  accounts : ∀ db, ∀ name ∈ (w.dbs db).accounts, ¬id.OwnsAccount name
  leases : ∀ lease ∈ w.vault.leases, lease.role ≠ id.text
  tokens : ∀ token ∈ w.vault.tokens, token.label ≠ id.text
  role : w.vault.roles id.text = none

/-- The account cannot log in and has no session. -/
def Shut (name : String) (w : World) : Prop :=
  (w.dbs .postgres).sessions name = 0 ∧ ¬Event.canLogin w .postgres name

/-- The account is locked out, and while it is there its sessions are counted. -/
def Closing (name : String) (w : World) : Prop :=
  (w.dbs .postgres).login name = false ∧
    (name ∈ (w.dbs .postgres).accounts ∨ (w.dbs .postgres).sessions name = 0)

def Ready (name : String) (w : World) : Prop := Event.canLogin w .postgres name ∨ Closing name w

/-- The teardown of the grant has found the account, and has it to lock out. -/
def Sought (id : GrantId) (name : String) (w : World) : Prop := (id, name) ∈ w.listed ∧ Ready name w

end World

/-- The standing objects of the grant and its helpers are the same in both worlds. -/
structure Standing (id : GrantId) (v w : World) : Prop where
  accounts : ∀ db name, id.Owns name → (name ∈ (w.dbs db).accounts ↔ name ∈ (v.dbs db).accounts)
  login : ∀ db name, id.Owns name → (w.dbs db).login name = (v.dbs db).login name
  leases : ∀ lease : Lease, id.Owns lease.role → (lease ∈ w.vault.leases ↔ lease ∈ v.vault.leases)
  tokens : ∀ token : Token, id.Owns token.label → (token ∈ w.vault.tokens ↔ token ∈ v.vault.tokens)
  roles : ∀ name, id.Owns name → w.vault.roles name = v.vault.roles name

/-- Also what its accounts have running. -/
structure Untouched (id : GrantId) (v w : World) : Prop extends Standing id v w where
  sessions : ∀ db name, id.Owns name → (w.dbs db).sessions name = (v.dbs db).sessions name
  queries : ∀ db name, id.Owns name → (w.dbs db).queries name = (v.dbs db).queries name

/-- A token with that label is taken for one of the grant's: by its name, or by the spelling of its display name. -/
def GrantId.Claims (id : GrantId) (label : String) : Prop := id.Owns label ∨ dashed label = dashed id.text

/-- Whatever differs outside the store goes by a name of the grant. -/
structure Confined (id : GrantId) (v w : World) : Prop where
  accounts : ∀ db name, ¬id.Owns name → (name ∈ (w.dbs db).accounts ↔ name ∈ (v.dbs db).accounts)
  login : ∀ db name, ¬id.Owns name → (w.dbs db).login name = (v.dbs db).login name
  sessions : ∀ db name, ¬id.Owns name → (w.dbs db).sessions name = (v.dbs db).sessions name
  queries : ∀ db name, ¬id.Owns name → (w.dbs db).queries name = (v.dbs db).queries name
  leases : ∀ lease : Lease, ¬id.Owns lease.role → (lease ∈ w.vault.leases ↔ lease ∈ v.vault.leases)
  tokens : ∀ token : Token, ¬id.Claims token.label → (token ∈ w.vault.tokens ↔ token ∈ v.vault.tokens)
  roles : ∀ name, ¬id.Owns name → w.vault.roles name = v.vault.roles name

/-- What a grant under teardown may lose, through its own calls or on its own. -/
structure Lessened (id : GrantId) (v w : World) : Prop where
  accounts : ∀ db name, id.Owns name → name ∈ (w.dbs db).accounts → name ∈ (v.dbs db).accounts
  login : ∀ db name, id.Owns name → (w.dbs db).login name = true → (v.dbs db).login name = true
  closing : ∀ name, id.Owns name → World.Closing name v → World.Closing name w
  shut : ∀ name, id.Owns name → World.Shut name v → World.Shut name w
  leases : ∀ lease : Lease, lease.role = id.text → lease ∈ w.vault.leases → lease ∈ v.vault.leases
  tokens : ∀ token : Token, token.label = id.text → token ∈ w.vault.tokens → token ∈ v.vault.tokens
  role : v.vault.roles id.text = none → w.vault.roles id.text = none
  accessors : ∀ a label, v.vault.accessors a = some label → w.vault.accessors a = some label

/-- The same, with the accounts that were found kept, as time passes. -/
structure Aside (terms : Terms) (id : GrantId) (v w : World) : Prop extends Lessened id v w where
  sought : ∀ name, terms.kept name → id.Owns name → World.Sought id name v → World.Sought id name w
  clock : terms.monotone → v.clock ≤ w.clock

/-- What the others do to a grant whose lock a thread holds. -/
structure Shrunk (terms : Terms) (t : Nat) (id : GrantId) (v w : World) : Prop where
  lessened : Lessened id v w
  kept : ∀ name, terms.kept name → ∀ k, v.watch t = some k → k.grant = id → id.Owns name →
    World.Sought id name v → World.Sought id name w
  leases : ∀ lease : Lease, id.Owns lease.role → lease ∈ w.vault.leases → lease ∈ v.vault.leases
  tokens : ∀ token : Token, id.Owns token.label → token ∈ w.vault.tokens → token ∈ v.vault.tokens
  roles : ∀ name, id.Owns name → w.vault.roles name = v.vault.roles name
  lockedOut : ∀ name, (id, name) ∈ w.lockedOut → (id, name) ∈ v.lockedOut

structure Rely (terms : Terms) (t : Nat) (v w : World) : Prop where
  locks : ∀ db h, h.thread = t → (w.locks db = some h ↔ v.locks db = some h)
  watch : w.watch t = v.watch t
  deadline : w.deadline t = v.deadline t
  inflight : ∀ id, (t, id) ∈ w.inflight → (t, id) ∈ v.inflight
  row : ∀ id r, v.row id = some r → ∃ r', w.row id = some r' ∧ r'.dbType = r.dbType ∧ (v.Holds t id → r' = r)
  objects : ∀ id, v.Holds t id → Shrunk terms t id v w
  accessors : ∀ a label, v.vault.accessors a = some label → w.vault.accessors a = some label
  reads : ∀ read ∈ v.credsLog, read ∈ w.credsLog
  clock : terms.monotone → v.clock ≤ w.clock
  quiet : ∀ id, terms.quiet id → w.row id = v.row id ∧ Standing id v w

/-- What a thread may do to the rest of the world with one call. -/
structure Guar (terms : Terms) (t : Nat) (v w : World) : Prop where
  locks : ∀ db h, h.thread ≠ t → (w.locks db = some h ↔ v.locks db = some h)
  watch : ∀ u, u ≠ t → w.watch u = v.watch u
  deadline : ∀ u, u ≠ t → w.deadline u = v.deadline u
  inflight : ∀ u id, u ≠ t → (u, id) ∈ w.inflight → (u, id) ∈ v.inflight
  row : ∀ id r, v.row id = some r → ∃ r', w.row id = some r' ∧ r'.dbType = r.dbType ∧ (¬v.Holds t id → r' = r)
  insert : ∀ id, v.row id = none → w.row id = none ∨ ∃ db caller, v.locks db = some ⟨t, id, caller⟩
  fresh : terms.fresh → ∀ id r, v.row id = some r → r.status.terminal = true →
    ∀ r', w.row id = some r' → r'.status = r.status
  raised : ∀ k, v.watch t = some k → k.raised = true →
    ∀ r', w.row k.grant = some r' → r'.status.terminal = false
  objects : ∀ id, ¬v.Holds t id → Untouched id v w
  own : ∀ id, v.Holds t id → Confined id v w
  listed : ∀ id name, ¬v.Holds t id → (id, name) ∈ v.listed → (id, name) ∈ w.listed
  lockedOut : ∀ id name, ¬v.Holds t id → (id, name) ∈ w.lockedOut → (id, name) ∈ v.lockedOut
  accessors : ∀ a label, v.vault.accessors a = some label → w.vault.accessors a = some label
  reads : ∀ read ∈ v.credsLog, read ∈ w.credsLog
  clock : terms.monotone → v.clock ≤ w.clock

/-- The name of a one-shot role of the grant. -/
def GrantId.helper (id : GrantId) (suffix : Hex 2) : String := id.text ++ "_h" ++ suffix.text

/-- The leases the portal's roles give. -/
def ProperLease (lease : Lease) : Prop :=
  ∃ id : GrantId, id.Owns lease.account ∧
    ((∃ suffix, lease.role = id.helper suffix ∧ lease.revocation = ["SELECT 1"]) ∨
      lease.role = id.text ∧ lease.revocation = revocationOf lease.db)

/-- What the reconciler tears a grant down for. -/
def Due (terms : Terms) (r : Grant) (final : Status) (w : World) : Prop :=
  match r.status with
  | .issuing => final = .failed
  | .revoking => final = .revoked
  | .active => final = .expired ∧ ∃ expires, r.expiresAt = some expires ∧
      (terms.monotone → expires + seconds 15 < w.clock)
  | .revoked | .expired | .failed => False

structure Inv (terms : Terms) (w : World) : Prop where
  absent : ∀ id, w.row id = none → w.Clean id ∧ ∀ name, (id, name) ∉ w.lockedOut
  terminal : ∀ id r, w.row id = some r → r.status.terminal = true → w.Clean id
  recorded : ∀ id r a, w.row id = some r → truthy r.tokenAccessor = some a →
    ∀ token ∈ w.vault.tokens, token.label = id.text → token.accessor = a
  accessor : ∀ id r a, w.row id = some r → r.tokenAccessor = some a → w.vault.accessors a = some id.text
  leaseId : ∀ id r lease, w.row id = some r → r.leaseId = some lease → id.OwnsLease lease
  tokens : ∀ token ∈ w.vault.tokens, w.vault.accessors token.accessor = some token.label
  leases : ∀ lease ∈ w.vault.leases, ProperLease lease
  accounts : ∀ db, ∀ name ∈ (w.dbs db).accounts, isAccount name = true ∧
    ∀ (id : GrantId) r, id.OwnsAccount name → w.row id = some r → r.dbType = db
  holders : ∀ db h, w.locks db = some h → h.caller ≠ .issue → ∃ r, w.row h.grant = some r ∧ r.dbType = db
  single : ∀ db db' h h', w.locks db = some h → w.locks db' = some h' → h.thread = h'.thread → db = db'
  watching : ∀ t k, w.watch t = some k → ∃ r caller, w.row k.grant = some r ∧
    w.locks r.dbType = some ⟨t, k.grant, caller⟩ ∧ (k.raised = true → r.status.terminal = false) ∧
    (k.wrote = false → (terms.fresh → r.status.terminal = false) ∧ (caller = .reconcile → Due terms r k.final w))
  read : terms.dated → terms.monotone → ∀ id r, w.row id = some r → r.status = .active →
    ∃ read ∈ w.credsLog, read.role = id.text ∧
      ∃ expires, r.expiresAt = some expires ∧ read.time + seconds read.duration ≤ expires
  shut : ∀ id name, (id, name) ∈ w.lockedOut → id.Owns name ∧ (terms.kept name → w.Shut name)
  quiet : ∀ db h, w.locks db = some h → ¬terms.quiet h.grant
  solo : ∀ t, terms.solo = some t → ∀ db h, w.locks db = some h → h.thread = t

theorem World.Holds.unique {t u : Nat} {id : GrantId} {w : World} (left : w.Holds t id) (right : w.Holds u id) :
    t = u := by
  obtain ⟨r, caller, row, lock⟩ := left
  obtain ⟨r', caller', row', lock'⟩ := right
  rw [row] at row'
  cases row'
  rw [lock] at lock'
  cases lock'
  rfl

theorem World.Holds.same {t : Nat} {id : GrantId} {v w : World} (held : v.Holds t id) (row : w.row id = v.row id)
    (locks : w.locks = v.locks) : w.Holds t id := by
  obtain ⟨r, caller, found, lock⟩ := held
  exact ⟨r, caller, by rw [row, found], by rw [locks, lock]⟩

namespace Standing

theorem refl (id : GrantId) (w : World) : Standing id w w :=
  ⟨fun _ _ _ => Iff.rfl, fun _ _ _ => rfl, fun _ _ => Iff.rfl, fun _ _ => Iff.rfl, fun _ _ => rfl⟩

theorem trans {id : GrantId} {u v w : World} (first : Standing id u v) (second : Standing id v w) :
    Standing id u w where
  accounts db name owns := (second.accounts db name owns).trans (first.accounts db name owns)
  login db name owns := (second.login db name owns).trans (first.login db name owns)
  leases lease owns := (second.leases lease owns).trans (first.leases lease owns)
  tokens token owns := (second.tokens token owns).trans (first.tokens token owns)
  roles name owns := (second.roles name owns).trans (first.roles name owns)

end Standing

theorem Untouched.refl (id : GrantId) (w : World) : Untouched id w w :=
  ⟨Standing.refl id w, fun _ _ _ => rfl, fun _ _ _ => rfl⟩

theorem Untouched.of_objects {id : GrantId} {v w : World} (vault : w.vault = v.vault) (dbs : w.dbs = v.dbs) :
    Untouched id v w where
  accounts _ _ _ := by rw [dbs]
  login _ _ _ := by rw [dbs]
  leases _ _ := by rw [vault]
  tokens _ _ := by rw [vault]
  roles _ _ := by rw [vault]
  sessions _ _ _ := by rw [dbs]
  queries _ _ _ := by rw [dbs]

theorem Confined.of_objects {id : GrantId} {v w : World} (vault : w.vault = v.vault) (dbs : w.dbs = v.dbs) :
    Confined id v w where
  accounts _ _ _ := by rw [dbs]
  login _ _ _ := by rw [dbs]
  sessions _ _ _ := by rw [dbs]
  queries _ _ _ := by rw [dbs]
  leases _ _ := by rw [vault]
  tokens _ _ := by rw [vault]
  roles _ _ := by rw [vault]

theorem Confined.refl (id : GrantId) (w : World) : Confined id w w := .of_objects rfl rfl

namespace Lessened

theorem refl (id : GrantId) (w : World) : Lessened id w w :=
  ⟨fun _ _ _ member => member, fun _ _ _ can => can, fun _ _ held => held, fun _ _ held => held,
    fun _ _ member => member, fun _ _ member => member, fun none => none, fun _ _ known => known⟩

theorem trans {id : GrantId} {u v w : World} (first : Lessened id u v) (second : Lessened id v w) :
    Lessened id u w where
  accounts db name owns member := first.accounts db name owns (second.accounts db name owns member)
  login db name owns can := first.login db name owns (second.login db name owns can)
  closing name owns held := second.closing name owns (first.closing name owns held)
  shut name owns held := second.shut name owns (first.shut name owns held)
  leases lease same member := first.leases lease same (second.leases lease same member)
  tokens token same member := first.tokens token same (second.tokens token same member)
  role none := second.role (first.role none)
  accessors a label known := second.accessors a label (first.accessors a label known)

end Lessened

namespace Aside
variable {terms : Terms} {id : GrantId}

theorem refl (w : World) : Aside terms id w w := ⟨Lessened.refl id w, fun _ _ _ held => held, fun _ => Nat.le_refl _⟩

theorem trans {u v w : World} (first : Aside terms id u v) (second : Aside terms id v w) : Aside terms id u w :=
  ⟨first.toLessened.trans second.toLessened, fun name kept owns held =>
    second.sought name kept owns (first.sought name kept owns held), fun monotone =>
    (first.clock monotone).trans (second.clock monotone)⟩

end Aside

namespace Untouched
variable {id : GrantId} {v w : World}

theorem canLogin (same : Untouched id v w) {db : DbType} {name : String} (owns : id.Owns name) :
    Event.canLogin w db name = Event.canLogin v db name := by
  unfold Event.canLogin
  rw [same.login db name owns, decide_eq_decide.mpr (same.accounts db name owns)]

theorem closing (same : Untouched id v w) {name : String} (owns : id.Owns name) (held : v.Closing name) :
    w.Closing name := by
  unfold World.Closing at held ⊢
  rw [same.login _ name owns, same.sessions _ name owns, same.accounts _ name owns]
  exact held

theorem shut (same : Untouched id v w) {name : String} (owns : id.Owns name) (held : v.Shut name) : w.Shut name := by
  unfold World.Shut at held ⊢
  rw [same.canLogin owns, same.sessions _ name owns]
  exact held

theorem ready (same : Untouched id v w) {name : String} (owns : id.Owns name) (held : v.Ready name) :
    w.Ready name := by
  rcases held with can | closing
  · exact Or.inl (by rw [same.canLogin owns]; exact can)
  · exact Or.inr (same.closing owns closing)

theorem lessened (same : Untouched id v w)
    (accessors : ∀ a label, v.vault.accessors a = some label → w.vault.accessors a = some label) :
    Lessened id v w where
  accounts db name owns := (same.accounts db name owns).mp
  login db name owns can := by rwa [same.login db name owns] at can
  closing _ owns := same.closing owns
  shut _ owns := same.shut owns
  leases lease eq := (same.leases lease (by rw [eq]; exact id.owns_self)).mp
  tokens token eq := (same.tokens token (by rw [eq]; exact id.owns_self)).mp
  role none := by rw [same.roles _ id.owns_self]; exact none
  accessors := accessors

theorem shrunk (same : Untouched id v w) {terms : Terms} {t : Nat}
    (accessors : ∀ a label, v.vault.accessors a = some label → w.vault.accessors a = some label)
    (listed : ∀ name, (id, name) ∈ v.listed → (id, name) ∈ w.listed)
    (lockedOut : ∀ name, (id, name) ∈ w.lockedOut → (id, name) ∈ v.lockedOut) : Shrunk terms t id v w where
  lessened := same.lessened accessors
  kept name _ _ _ _ owns sought := ⟨listed name sought.1, same.ready owns sought.2⟩
  leases lease owns := (same.leases lease owns).mp
  tokens token owns := (same.tokens token owns).mp
  roles := same.roles
  lockedOut := lockedOut

end Untouched

namespace Rely
variable {terms : Terms} {t : Nat}

theorem refl (w : World) : Rely terms t w w where
  locks _ _ _ := Iff.rfl
  watch := rfl
  deadline := rfl
  inflight _ member := member
  row _ r found := ⟨r, found, rfl, fun _ => rfl⟩
  objects id _ := (Untouched.refl id w).shrunk (fun _ _ known => known) (fun _ member => member)
    fun _ member => member
  accessors _ _ known := known
  reads _ member := member
  clock _ := Nat.le_refl _
  quiet id _ := ⟨rfl, Standing.refl id w⟩

theorem holds {id : GrantId} {v w : World} (rely : Rely terms t v w) (held : v.Holds t id) : w.Holds t id := by
  obtain ⟨r, caller, row, lock⟩ := held
  obtain ⟨r', row', -, same⟩ := rely.row id r row
  rw [same ⟨r, caller, row, lock⟩] at row'
  exact ⟨r, caller, row', (rely.locks r.dbType ⟨t, id, caller⟩ rfl).mpr lock⟩

theorem trans {u v w : World} (first : Rely terms t u v) (second : Rely terms t v w) : Rely terms t u w where
  locks db h own := (second.locks db h own).trans (first.locks db h own)
  watch := second.watch.trans first.watch
  deadline := second.deadline.trans first.deadline
  inflight id member := first.inflight id (second.inflight id member)
  row id r found := by
    obtain ⟨r', found', type', same'⟩ := first.row id r found
    obtain ⟨r'', found'', type'', same''⟩ := second.row id r' found'
    refine ⟨r'', found'', type''.trans type', fun held => ?_⟩
    rw [same'' (first.holds held), same' held]
  objects id held := by
    have one := first.objects id held
    have two := second.objects id (first.holds held)
    refine ⟨one.lessened.trans two.lessened, fun name kept k watch grant owns sought => ?_,
      fun lease owns member => one.leases lease owns (two.leases lease owns member),
      fun token owns member => one.tokens token owns (two.tokens token owns member),
      fun name owns => (two.roles name owns).trans (one.roles name owns),
      fun name member => one.lockedOut name (two.lockedOut name member)⟩
    have watch' : v.watch t = some k := by rw [first.watch, watch]
    exact two.kept name kept k watch' grant owns (one.kept name kept k watch grant owns sought)
  accessors a label known := second.accessors a label (first.accessors a label known)
  reads read member := second.reads read (first.reads read member)
  clock monotone := (first.clock monotone).trans (second.clock monotone)
  quiet id quiet := by
    obtain ⟨row, standing⟩ := first.quiet id quiet
    obtain ⟨row', standing'⟩ := second.quiet id quiet
    exact ⟨row'.trans row, standing.trans standing'⟩

end Rely

/-- What one thread does keeps what another relies on. -/
theorem Guar.rely {terms : Terms} {t u : Nat} {v w : World} (other : u ≠ t) (inv : Inv terms v)
    (guar : Guar terms t v w) : Rely terms u v w where
  locks db h own := guar.locks db h (by rw [own]; exact other)
  watch := guar.watch u other
  deadline := guar.deadline u other
  inflight id member := guar.inflight u id other member
  row id r found := by
    obtain ⟨r', found', type', same⟩ := guar.row id r found
    exact ⟨r', found', type', fun held => same fun mine => other (held.unique mine)⟩
  objects id held := by
    have free : ¬v.Holds t id := fun mine => other (held.unique mine)
    exact (guar.objects id free).shrunk guar.accessors (fun name => guar.listed id name free) fun name =>
      guar.lockedOut id name free
  accessors := guar.accessors
  reads := guar.reads
  clock := guar.clock
  quiet id quiet := by
    have free : ¬v.Holds t id := by
      rintro ⟨r, caller, -, lock⟩
      exact inv.quiet _ _ lock quiet
    refine ⟨?_, (guar.objects id free).toStanding⟩
    cases found : v.row id with
    | none =>
      rcases guar.insert id found with absent | ⟨db, caller, lock⟩
      · exact absent
      · exact absurd quiet (inv.quiet _ _ lock)
    | some r =>
      obtain ⟨r', found', -, same⟩ := guar.row id r found
      rw [found', same free]

end Vdba
