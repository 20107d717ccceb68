import Vdba.Ownership

namespace Vdba

theorem Due.later {terms : Terms} {r : Grant} {final : Status} {v w : World} (due : Due terms r final v)
    (clock : terms.monotone → v.clock ≤ w.clock) : Due terms r final w := by
  unfold Due at due ⊢
  cases status : r.status <;> rw [status] at due
  case active =>
    obtain ⟨same, expires, at_expires, past⟩ := due
    exact ⟨same, expires, at_expires, fun monotone => (past monotone).trans_le (clock monotone)⟩
  all_goals exact due

/-- A change of objects only: rows, locks and records of what happened stay. -/
structure Frame (terms : Terms) (v w : World) : Prop where
  row : ∀ id, w.row id = v.row id
  locks : w.locks = v.locks
  inflight : w.inflight = v.inflight
  watch : w.watch = v.watch
  deadline : w.deadline = v.deadline
  listed : ∀ entry ∈ v.listed, entry ∈ w.listed
  lockedOut : w.lockedOut = v.lockedOut
  accessors : ∀ a label, v.vault.accessors a = some label → w.vault.accessors a = some label
  reads : ∀ read ∈ v.credsLog, read ∈ w.credsLog
  clock : terms.monotone → v.clock ≤ w.clock

/-- The grant's row is there and not finished. -/
def Alive (id : GrantId) (w : World) : Prop := ∃ r, w.row id = some r ∧ r.status.terminal = false

/-- New objects belong to grants that are not finished, and look as the portal's objects do. -/
structure Legal (terms : Terms) (v w : World) : Prop extends Frame terms v w where
  tokens : ∀ token ∈ w.vault.tokens, token ∈ v.vault.tokens ∨
    w.vault.accessors token.accessor = some token.label ∧ ∀ id : GrantId, token.label = id.text →
      ∃ r, v.row id = some r ∧ r.status.terminal = false ∧ r.tokenAccessor = none
  leases : ∀ lease ∈ w.vault.leases, lease ∈ v.vault.leases ∨
    ProperLease lease ∧ ∀ id : GrantId, lease.role = id.text → Alive id v
  accounts : ∀ db, ∀ name ∈ (w.dbs db).accounts, name ∈ (v.dbs db).accounts ∨
    isAccount name = true ∧ ∀ id : GrantId, id.OwnsAccount name →
      ∃ r, v.row id = some r ∧ r.status.terminal = false ∧ r.dbType = db
  roles : ∀ id : GrantId, v.vault.roles id.text = none → w.vault.roles id.text = none ∨ Alive id v
  shut : ∀ id name, terms.kept name → (id, name) ∈ v.lockedOut → v.Shut name → w.Shut name

namespace Frame
variable {terms : Terms} {t : Nat} {v w : World}

theorem refl (w : World) : Frame terms w w :=
  ⟨fun _ => rfl, rfl, rfl, rfl, rfl, fun _ member => member, rfl, fun _ _ known => known, fun _ member => member,
    fun _ => Nat.le_refl _⟩

theorem holds (frame : Frame terms v w) {id : GrantId} : w.Holds t id ↔ v.Holds t id :=
  ⟨fun held => held.same (frame.row id).symm frame.locks.symm, fun held => held.same (frame.row id) frame.locks⟩

theorem guar (frame : Frame terms v w) (inv : Inv terms v) (objects : ∀ id, ¬v.Holds t id → Untouched id v w)
    (own : ∀ id, v.Holds t id → Confined id v w) : Guar terms t v w where
  locks db h _ := by rw [frame.locks]
  watch _ _ := by rw [frame.watch]
  deadline _ _ := by rw [frame.deadline]
  inflight _ _ _ member := by rwa [frame.inflight] at member
  row id r found := ⟨r, by rw [frame.row, found], rfl, fun _ => rfl⟩
  insert id absent := Or.inl (by rw [frame.row, absent])
  fresh _ id r found _ r' found' := by
    rw [frame.row, found] at found'
    cases found'
    rfl
  raised k watch flag r' found' := by
    obtain ⟨r, caller, found, -, alive, -⟩ := inv.watching t k watch
    rw [frame.row, found] at found'
    cases found'
    exact alive flag
  objects := objects
  own := own
  listed _ _ _ member := frame.listed _ member
  lockedOut id name _ member := by rwa [frame.lockedOut] at member
  accessors := frame.accessors
  reads := frame.reads
  clock := frame.clock

end Frame

namespace Legal
variable {terms : Terms} {v w : World}

theorem clean (legal : Legal terms v w) {id : GrantId} (dead : ¬Alive id v) (clean : v.Clean id) : w.Clean id where
  accounts db name member owns := by
    rcases legal.accounts db name member with old | ⟨-, alive⟩
    · exact clean.accounts db name old owns
    · obtain ⟨r, found, status, -⟩ := alive id owns
      exact dead ⟨r, found, status⟩
  leases lease member same := by
    rcases legal.leases lease member with old | ⟨-, alive⟩
    · exact clean.leases lease old same
    · exact dead (alive id same)
  tokens token member same := by
    rcases legal.tokens token member with old | ⟨-, alive⟩
    · exact clean.tokens token old same
    · obtain ⟨r, found, status, -⟩ := alive id same
      exact dead ⟨r, found, status⟩
  role := (legal.roles id clean.role).resolve_right dead

theorem inv (legal : Legal terms v w) (inv : Inv terms v) : Inv terms w where
  absent id absent := by
    rw [legal.row] at absent
    obtain ⟨clean, none⟩ := inv.absent id absent
    refine ⟨legal.clean ?_ clean, by rw [legal.lockedOut]; exact none⟩
    rintro ⟨r, found, -⟩
    rw [absent] at found
    cases found
  terminal id r found status := by
    rw [legal.row] at found
    refine legal.clean ?_ (inv.terminal id r found status)
    rintro ⟨r', found', status'⟩
    rw [found] at found'
    cases found'
    rw [status] at status'
    cases status'
  recorded id r a found given token member same := by
    rw [legal.row] at found
    rcases legal.tokens token member with old | ⟨-, fresh⟩
    · exact inv.recorded id r a found given token old same
    · obtain ⟨r', found', -, unrecorded⟩ := fresh id same
      rw [found] at found'
      cases found'
      rw [unrecorded] at given
      cases given
  accessor id r a found given := by
    rw [legal.row] at found
    exact legal.accessors a _ (inv.accessor id r a found given)
  leaseId id r lease found := by
    rw [legal.row] at found
    exact inv.leaseId id r lease found
  tokens token member := by
    rcases legal.tokens token member with old | ⟨known, -⟩
    · exact legal.accessors _ _ (inv.tokens token old)
    · exact known
  leases lease member := by
    rcases legal.leases lease member with old | ⟨proper, -⟩
    · exact inv.leases lease old
    · exact proper
  accounts db name member := by
    rcases legal.accounts db name member with old | ⟨valid, place⟩
    · obtain ⟨valid, place⟩ := inv.accounts db name old
      exact ⟨valid, fun id r owns found => place id r owns (by rw [← legal.row, found])⟩
    · refine ⟨valid, fun id r owns found => ?_⟩
      obtain ⟨r', found', -, type⟩ := place id owns
      rw [legal.row, found'] at found
      cases found
      exact type
  holders db h lock caller := by
    rw [legal.locks] at lock
    rw [legal.row]
    exact inv.holders db h lock caller
  single := by
    rw [legal.locks]
    exact inv.single
  watching t k watch := by
    rw [legal.watch] at watch
    obtain ⟨r, caller, found, lock, alive, running⟩ := inv.watching t k watch
    refine ⟨r, caller, by rw [legal.row, found], by rw [legal.locks, lock], alive, fun wrote => ?_⟩
    obtain ⟨fresh, due⟩ := running wrote
    exact ⟨fresh, fun reconcile => (due reconcile).later legal.clock⟩
  read dated monotone id r found active := by
    rw [legal.row] at found
    obtain ⟨read, member, rest⟩ := inv.read dated monotone id r found active
    exact ⟨read, legal.reads read member, rest⟩
  shut id name member := by
    rw [legal.lockedOut] at member
    obtain ⟨owns, shut⟩ := inv.shut id name member
    exact ⟨owns, fun kept => legal.shut id name kept member (shut kept)⟩
  quiet := by
    rw [legal.locks]
    exact inv.quiet
  solo := by
    rw [legal.locks]
    exact inv.solo

end Legal

/-- Nothing outside the store changes. -/
structure Same (terms : Terms) (v w : World) : Prop extends Frame terms v w where
  vault : w.vault = v.vault
  dbs : w.dbs = v.dbs

namespace Same
variable {terms : Terms} {v w : World}

theorem untouched (same : Same terms v w) (id : GrantId) : Untouched id v w := .of_objects same.vault same.dbs

theorem confined (same : Same terms v w) (id : GrantId) : Confined id v w := .of_objects same.vault same.dbs

theorem legal (same : Same terms v w) : Legal terms v w where
  toFrame := same.toFrame
  tokens token member := Or.inl (by rwa [same.vault] at member)
  leases lease member := Or.inl (by rwa [same.vault] at member)
  accounts db name member := Or.inl (by rwa [same.dbs] at member)
  roles id none := Or.inl (by rw [same.vault, none])
  shut _ name _ _ shut := by
    unfold World.Shut Event.canLogin at shut ⊢
    rwa [same.dbs]

theorem guar (same : Same terms v w) (inv : Inv terms v) (t : Nat) : Guar terms t v w :=
  same.toFrame.guar inv (fun id _ => same.untouched id) fun id _ => same.confined id

theorem shrunk (same : Same terms v w) (t : Nat) (id : GrantId) : Shrunk terms t id v w :=
  (same.untouched id).shrunk same.accessors (fun _ => same.listed _) fun _ member => by rwa [same.lockedOut] at member

theorem rely (same : Same terms v w) (t : Nat) : Rely terms t v w where
  locks _ _ _ := by rw [same.locks]
  watch := by rw [same.watch]
  deadline := by rw [same.deadline]
  inflight _ member := by rwa [same.inflight] at member
  row id r found := ⟨r, by rw [same.row, found], rfl, fun _ => rfl⟩
  objects id _ := same.shrunk t id
  accessors := same.accessors
  reads := same.reads
  clock := same.clock
  quiet id _ := ⟨same.row id, (same.untouched id).toStanding⟩

end Same

theorem Same.refl {terms : Terms} (w : World) : Same terms w w :=
  ⟨Frame.refl w, rfl, rfl⟩

/-- A search changes only the record of what was found. -/
theorem World.searched_same {terms : Terms} (w : World) (t : Nat) (names : List String) :
    Same terms w (w.searched t names) :=
  { Same.refl w with listed := fun _ => List.mem_append_right _ }

end Vdba
