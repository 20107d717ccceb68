import Vdba.Objects

namespace Vdba

/-- The row of the grant, under the lock of its database. -/
def World.Held (t : Nat) (id : GrantId) (r : Grant) (caller : Caller) (w : World) : Prop :=
  w.row id = some r ∧ w.locks r.dbType = some ⟨t, id, caller⟩

/-- The thread holds no lock. -/
def World.Idle (t : Nat) (w : World) : Prop := ∀ db h, w.locks db = some h → h.thread ≠ t

namespace World
variable {terms : Terms} {t : Nat} {id : GrantId} {r : Grant} {caller : Caller} {v w : World}

theorem Held.holds (held : w.Held t id r caller) : w.Holds t id := ⟨r, caller, held.1, held.2⟩

theorem Held.rely (held : v.Held t id r caller) (rely : Rely terms t v w) : w.Held t id r caller := by
  obtain ⟨r', row, -, same⟩ := rely.row id r held.1
  rw [same held.holds] at row
  exact ⟨row, (rely.locks _ ⟨t, id, caller⟩ rfl).mpr held.2⟩

theorem Held.frame (held : v.Held t id r caller) (frame : Frame terms v w) : w.Held t id r caller :=
  ⟨by rw [frame.row, held.1], by rw [frame.locks, held.2]⟩

/-- A thread holds at most one grant. -/
theorem Held.only (held : w.Held t id r caller) (inv : Inv terms w) {other : GrantId} (holds : w.Holds t other) :
    other = id := by
  obtain ⟨r', caller', -, lock⟩ := holds
  have same := inv.single _ _ _ _ lock held.2 rfl
  rw [same, held.2] at lock
  cases lock
  rfl

theorem Held.watch (held : w.Held t id r caller) (inv : Inv terms w) {k : Watch} (watch : w.watch t = some k) :
    k.grant = id := by
  obtain ⟨r', caller', row, lock, -⟩ := inv.watching t k watch
  exact held.only inv ⟨r', caller', row, lock⟩

theorem Held.free (held : w.Held t id r caller) {other : GrantId} (free : ¬w.Holds t other) : other ≠ id := by
  rintro rfl
  exact free held.holds

theorem Idle.holds (idle : w.Idle t) : ¬w.Holds t id := by
  rintro ⟨r, caller, -, lock⟩
  exact idle _ _ lock rfl

theorem Idle.watch (idle : w.Idle t) (inv : Inv terms w) : w.watch t = none := by
  cases watch : w.watch t with
  | none => rfl
  | some k =>
    obtain ⟨r, caller, -, lock, -⟩ := inv.watching t k watch
    exact absurd rfl (idle _ _ lock)

theorem Idle.rely (idle : v.Idle t) (rely : Rely terms t v w) : w.Idle t := fun db h lock own =>
  idle db h ((rely.locks db h own).mp lock) own

def acquired (w : World) (t : Nat) (db : DbType) (id : GrantId) (caller : Caller) : World :=
  { w with locks := Function.update w.locks db (some ⟨t, id, caller⟩), book := w.book.begins t id caller }

theorem acquired_locks {db db' : DbType} {h : Holder} :
    (w.acquired t db id caller).locks db' = some h ↔
      (db' = db ∧ h = ⟨t, id, caller⟩) ∨ (db' ≠ db ∧ w.locks db' = some h) := by
  by_cases here : db' = db
  · subst here
    simp [acquired, eq_comm]
  · simp [acquired, here]

/-- Rows and objects stay; the locks and the marks have to fit them. -/
theorem inv_of_locks (inv : Inv terms v) (store : w.store = v.store) (vault : w.vault = v.vault)
    (dbs : w.dbs = v.dbs) (reads : w.credsLog = v.credsLog) (clock : w.clock = v.clock)
    (holders : ∀ db h, w.locks db = some h → h.caller ≠ .issue → ∃ r, v.row h.grant = some r ∧ r.dbType = db)
    (single : ∀ db db' h h', w.locks db = some h → w.locks db' = some h' → h.thread = h'.thread → db = db')
    (watching : ∀ t k, w.watch t = some k → ∃ r caller, v.row k.grant = some r ∧
      w.locks r.dbType = some ⟨t, k.grant, caller⟩ ∧ (k.raised = true → r.status.terminal = false) ∧
      (k.wrote = false → (terms.fresh → r.status.terminal = false) ∧ (caller = .reconcile → Due terms r k.final v)))
    (lockedOut : ∀ id name, (id, name) ∈ w.lockedOut → (id, name) ∈ v.lockedOut ∨
      v.row id ≠ none ∧ id.Owns name ∧ (terms.kept name → v.Shut name))
    (quiet : ∀ db h, w.locks db = some h → ¬terms.quiet h.grant)
    (solo : ∀ t, terms.solo = some t → ∀ db h, w.locks db = some h → h.thread = t) : Inv terms w := by
  have row_eq (id : GrantId) : w.row id = v.row id := by rw [row, store]; rfl
  have clean_eq (id : GrantId) (clean : v.Clean id) : w.Clean id :=
    ⟨by rw [dbs]; exact clean.accounts, by rw [vault]; exact clean.leases, by rw [vault]; exact clean.tokens,
      by rw [vault]; exact clean.role⟩
  have shut_eq (name : String) (shut : v.Shut name) : w.Shut name := by
    unfold Shut Event.canLogin at shut ⊢
    rwa [dbs]
  refine ⟨fun id absent => ?_, fun id r found status => ?_, fun id r a found => ?_, fun id r a found => ?_,
    fun id r l found => ?_, by rw [vault]; exact inv.tokens, by rw [vault]; exact inv.leases,
    fun db name member => ?_, fun db h lock other => ?_, single, fun u k watch => ?_,
    fun dated monotone id r found => ?_, fun id name member => ?_, quiet, solo⟩
  · rw [row_eq] at absent
    obtain ⟨clean, none⟩ := inv.absent id absent
    refine ⟨clean_eq id clean, fun name member => ?_⟩
    rcases lockedOut id name member with old | ⟨present, -⟩
    · exact none name old
    · exact present absent
  · rw [row_eq] at found
    exact clean_eq id (inv.terminal id r found status)
  · rw [row_eq] at found
    rw [vault]
    exact inv.recorded id r a found
  · rw [row_eq] at found
    rw [vault]
    exact inv.accessor id r a found
  · rw [row_eq] at found
    exact inv.leaseId id r l found
  · rw [dbs] at member
    obtain ⟨valid, place⟩ := inv.accounts db name member
    exact ⟨valid, fun id r owns found => place id r owns (by rw [← row_eq, found])⟩
  · rw [row_eq]
    exact holders db h lock other
  · obtain ⟨r, caller, found, lock, alive, running⟩ := watching u k watch
    refine ⟨r, caller, by rw [row_eq, found], lock, alive, fun wrote => ?_⟩
    obtain ⟨fresh, due⟩ := running wrote
    exact ⟨fresh, fun reconcile => (due reconcile).later fun _ => clock.ge⟩
  · rw [row_eq] at found
    rw [reads]
    exact inv.read dated monotone id r found
  · rcases lockedOut id name member with old | ⟨-, owns, shut⟩
    · obtain ⟨owns, shut⟩ := inv.shut id name old
      exact ⟨owns, fun kept => shut_eq name (shut kept)⟩
    · exact ⟨owns, fun kept => shut_eq name (shut kept)⟩

theorem acquire_inv (inv : Inv terms w) {db : DbType} (idle : w.Idle t) (free : w.locks db = none)
    (present : caller ≠ .issue → ∃ r, w.row id = some r ∧ r.dbType = db) (loud : ¬terms.quiet id)
    (solo : ∀ u, terms.solo = some u → t = u) : Inv terms (w.acquired t db id caller) := by
  refine inv_of_locks inv rfl rfl rfl rfl rfl (fun db' h lock other => ?_) (fun db₁ db₂ h₁ h₂ lock₁ lock₂ same => ?_)
    (fun u k watch => ?_) (fun _ _ member => Or.inl member) (fun db' h lock => ?_) (fun u only db' h lock => ?_)
  · rcases acquired_locks.mp lock with ⟨rfl, rfl⟩ | ⟨-, lock⟩
    · exact present other
    · exact inv.holders db' h lock other
  · rcases acquired_locks.mp lock₁ with ⟨rfl, rfl⟩ | ⟨-, held₁⟩ <;>
      rcases acquired_locks.mp lock₂ with ⟨rfl, rfl⟩ | ⟨-, held₂⟩
    · rfl
    · exact absurd same.symm (idle _ _ held₂)
    · exact absurd same (idle _ _ held₁)
    · exact inv.single _ _ _ _ held₁ held₂ same
  · obtain ⟨r, caller', row, lock, rest⟩ := inv.watching u k watch
    refine ⟨r, caller', row, acquired_locks.mpr (Or.inr ⟨?_, lock⟩), rest⟩
    rintro rfl
    rw [free] at lock
    cases lock
  · rcases acquired_locks.mp lock with ⟨rfl, rfl⟩ | ⟨-, lock⟩
    · exact loud
    · exact inv.quiet db' h lock
  · rcases acquired_locks.mp lock with ⟨rfl, rfl⟩ | ⟨-, lock⟩
    · exact solo u only
    · exact inv.solo u only db' h lock

/-- Rows and objects stay, and so do the locks and marks of the other threads. -/
theorem guar_of_locks (inv : Inv terms v) (store : w.store = v.store) (vault : w.vault = v.vault)
    (dbs : w.dbs = v.dbs) (locks : ∀ db h, h.thread ≠ t → (w.locks db = some h ↔ v.locks db = some h))
    (watch : ∀ u, u ≠ t → w.watch u = v.watch u) (deadline : ∀ u, u ≠ t → w.deadline u = v.deadline u)
    (inflight : ∀ u id, u ≠ t → (u, id) ∈ w.inflight → (u, id) ∈ v.inflight)
    (listed : ∀ id name, ¬v.Holds t id → (id, name) ∈ v.listed → (id, name) ∈ w.listed)
    (lockedOut : ∀ id name, ¬v.Holds t id → (id, name) ∈ w.lockedOut → (id, name) ∈ v.lockedOut)
    (reads : w.credsLog = v.credsLog) (clock : w.clock = v.clock) : Guar terms t v w where
  locks := locks
  watch := watch
  deadline := deadline
  inflight := inflight
  row id r found := ⟨r, by rw [row, store]; exact found, rfl, fun _ => rfl⟩
  insert id absent := Or.inl (by rw [row, store]; exact absent)
  fresh _ id r found _ r' found' := by
    rw [row, store] at found'
    rw [row, found'] at found
    cases found
    rfl
  raised k watch flag r' found' := by
    obtain ⟨r, caller, found, -, alive, -⟩ := inv.watching t k watch
    rw [row, store] at found'
    rw [row, found'] at found
    cases found
    exact alive flag
  objects _ _ := .of_objects vault dbs
  own _ _ := .of_objects vault dbs
  listed := listed
  lockedOut := lockedOut
  accessors _ _ known := by rw [vault]; exact known
  reads _ member := by rw [reads]; exact member
  clock _ := clock.ge

theorem acquire_guar (inv : Inv terms w) {db : DbType} (free : w.locks db = none) :
    Guar terms t w (w.acquired t db id caller) := by
  refine guar_of_locks inv rfl rfl rfl (fun db' h other => ?_) (fun _ _ => rfl) (fun _ _ => rfl)
    (fun _ _ _ member => member) (fun _ _ _ member => member) (fun _ _ _ member => member) rfl rfl
  rw [acquired_locks]
  constructor
  · rintro (⟨rfl, rfl⟩ | ⟨-, lock⟩)
    · exact absurd rfl other
    · exact lock
  · intro lock
    refine Or.inr ⟨?_, lock⟩
    rintro rfl
    rw [free] at lock
    cases lock

def released (w : World) (t : Nat) (db : DbType) : World :=
  { w with
    locks := Function.update w.locks db none
    watch := Function.update w.watch t none
    book := w.book.leaves t fun id => (w.row id).map (·.status) }

theorem released_locks {db db' : DbType} {h : Holder} :
    (w.released t db).locks db' = some h ↔ db' ≠ db ∧ w.locks db' = some h := by
  by_cases here : db' = db
  · subst here
    simp [released]
  · simp [released, here]

theorem release_inv (inv : Inv terms w) {db : DbType} (lock : w.locks db = some ⟨t, id, caller⟩) :
    Inv terms (w.released t db) := by
  refine inv_of_locks inv rfl rfl rfl rfl rfl (fun db' h held => inv.holders db' h (released_locks.mp held).2)
    (fun _ _ _ _ lock₁ lock₂ => inv.single _ _ _ _ (released_locks.mp lock₁).2 (released_locks.mp lock₂).2)
    (fun u k watch => ?_) (fun _ _ member => Or.inl member) (fun db' h held => inv.quiet db' h (released_locks.mp held).2)
    (fun u only db' h held => inv.solo u only db' h (released_locks.mp held).2)
  by_cases own : u = t
  · subst own
    simp [released] at watch
  · have watch' : w.watch u = some k := by simpa [released, own] using watch
    obtain ⟨r, caller', row, held, rest⟩ := inv.watching u k watch'
    refine ⟨r, caller', row, released_locks.mpr ⟨?_, held⟩, rest⟩
    rintro rfl
    rw [lock] at held
    cases held
    exact own rfl

theorem release_guar (inv : Inv terms w) {db : DbType} (lock : w.locks db = some ⟨t, id, caller⟩) :
    Guar terms t w (w.released t db) := by
  refine guar_of_locks inv rfl rfl rfl (fun db' h other => ?_) (fun u other => by simp [released, other])
    (fun _ _ => rfl) (fun _ _ _ member => member) (fun _ _ _ member => member) (fun _ _ _ member => member) rfl rfl
  rw [released_locks]
  refine ⟨fun held => held.2, fun held => ⟨?_, held⟩⟩
  rintro rfl
  rw [lock] at held
  cases held
  exact other rfl

theorem release_idle (inv : Inv terms w) {db : DbType} (lock : w.locks db = some ⟨t, id, caller⟩) :
    (w.released t db).Idle t := by
  intro db' h held own
  obtain ⟨differs, held⟩ := released_locks.mp held
  exact differs (inv.single _ _ _ _ held lock own)

/-- Marking a place changes only the records of the thread. -/
theorem mark_inv (inv : Inv terms w) {m : Mark} (watching : ∀ k, (w.marked t m).watch t = some k →
      ∃ r caller, w.row k.grant = some r ∧ w.locks r.dbType = some ⟨t, k.grant, caller⟩ ∧
        (k.raised = true → r.status.terminal = false) ∧
        (k.wrote = false → (terms.fresh → r.status.terminal = false) ∧
          (caller = .reconcile → Due terms r k.final w)))
    (lockedOut : ∀ id name, m = .lockedOut id name → w.row id ≠ none ∧ id.Owns name ∧ (terms.kept name → w.Shut name)) :
    Inv terms (w.marked t m) := by
  have watch_other (u : Nat) (other : u ≠ t) : (w.marked t m).watch u = w.watch u := by
    cases m <;> simp [marked, other]
  have locks : (w.marked t m).locks = w.locks := by cases m <;> rfl
  refine inv_of_locks inv ?_ ?_ ?_ ?_ ?_ ?_ ?_ (fun u k watch => ?_) (fun id name member => ?_) ?_ ?_
  any_goals cases m <;> rfl
  · rw [locks]; exact inv.holders
  · rw [locks]; exact inv.single
  · rw [locks]
    by_cases own : u = t
    · subst own
      exact watching k watch
    · exact inv.watching u k (by rwa [watch_other u own] at watch)
  · cases m with
    | lockedOut other account =>
      simp only [marked, List.mem_cons] at member
      rcases member with same | old
      · cases same
        exact Or.inr (lockedOut id name rfl)
      · exact Or.inl old
    | teardown => exact Or.inl member
    | raised => exact Or.inl member
    | deadline => exact Or.inl member
    | leftBehind => exact Or.inl member
  · rw [locks]; exact inv.quiet
  · rw [locks]; exact inv.solo

theorem mark_guar (inv : Inv terms w) {m : Mark} (owned : ∀ id final, m = .teardown id final → w.Holds t id)
    (own : ∀ id name, m = .lockedOut id name → w.Holds t id) : Guar terms t w (w.marked t m) := by
  refine guar_of_locks inv ?_ ?_ ?_ (fun db h _ => ?_) (fun u other => ?_) (fun u other => ?_)
    (fun u id _ => ?_) (fun id name free member => ?_) (fun id name free member => ?_) ?_ ?_
  any_goals cases m <;> first | rfl | exact Iff.rfl | exact fun member => member
  · cases m <;> simp [marked, other]
  · cases m <;> simp [marked, other]
  · cases m with
    | teardown other final =>
      refine List.mem_filter.mpr ⟨member, ?_⟩
      have differs : id ≠ other := by
        rintro rfl
        exact free (owned id final rfl)
      simpa using differs
    | lockedOut => exact member
    | raised => exact member
    | deadline => exact member
    | leftBehind => exact member
  · cases m with
    | lockedOut other account =>
      simp only [marked, List.mem_cons] at member
      refine member.resolve_left fun same => free ?_
      cases same
      exact own id name rfl
    | teardown => exact member
    | raised => exact member
    | deadline => exact member
    | leftBehind => exact member

/-- What a new row of the grant has to be. -/
structure RowFits (terms : Terms) (id : GrantId) (r : Grant) (v : World) : Prop where
  terminal : r.status.terminal = true → v.Clean id
  recorded : ∀ a, truthy r.tokenAccessor = some a → ∀ token ∈ v.vault.tokens, token.label = id.text → token.accessor = a
  accessor : ∀ a, r.tokenAccessor = some a → v.vault.accessors a = some id.text
  leaseId : ∀ lease, r.leaseId = some lease → id.OwnsLease lease
  read : terms.dated → terms.monotone → r.status = .active → ∃ read ∈ v.credsLog, read.role = id.text ∧
    ∃ expires, r.expiresAt = some expires ∧ read.time + seconds read.duration ≤ expires

/-- One row changes; the others, the locks and the objects stay. -/
theorem inv_of_row (inv : Inv terms v) (vault : w.vault = v.vault) (dbs : w.dbs = v.dbs) (locks : w.locks = v.locks)
    (lockedOut : w.lockedOut = v.lockedOut) (reads : w.credsLog = v.credsLog) (clock : w.clock = v.clock)
    (others : ∀ other, other ≠ id → w.row other = v.row other) (found : w.row id = some r)
    (type : ∀ old, v.row id = some old → r.dbType = old.dbType) (fits : RowFits terms id r v)
    (watching : ∀ t k, w.watch t = some k → if k.grant = id then
        (∃ caller, v.locks r.dbType = some ⟨t, id, caller⟩) ∧ (k.raised = true → r.status.terminal = false) ∧
          k.wrote = true
      else v.watch t = some k) : Inv terms w := by
  have clean_eq (other : GrantId) (clean : v.Clean other) : w.Clean other :=
    ⟨by rw [dbs]; exact clean.accounts, by rw [vault]; exact clean.leases, by rw [vault]; exact clean.tokens,
      by rw [vault]; exact clean.role⟩
  have rows (other : GrantId) (r' : Grant) (found' : w.row other = some r') :
      (other = id ∧ r' = r) ∨ (other ≠ id ∧ v.row other = some r') := by
    by_cases same : other = id
    · subst same
      rw [found] at found'
      cases found'
      exact Or.inl ⟨rfl, rfl⟩
    · exact Or.inr ⟨same, by rw [← others other same, found']⟩
  refine ⟨fun other absent => ?_, fun other r' found' status => ?_, fun other r' a found' => ?_,
    fun other r' a found' => ?_, fun other r' l found' => ?_, by rw [vault]; exact inv.tokens,
    by rw [vault]; exact inv.leases, fun db name member => ?_, fun db h lock caller => ?_,
    by rw [locks]; exact inv.single, fun t k watch => ?_, fun dated monotone other r' found' active => ?_,
    fun other name member => ?_, by rw [locks]; exact inv.quiet, by rw [locks]; exact inv.solo⟩
  · have differs : other ≠ id := by
      rintro rfl
      rw [found] at absent
      cases absent
    rw [others other differs] at absent
    obtain ⟨clean, none⟩ := inv.absent other absent
    exact ⟨clean_eq other clean, by rw [lockedOut]; exact none⟩
  · rcases rows other r' found' with ⟨rfl, rfl⟩ | ⟨-, old⟩
    · exact clean_eq other (fits.terminal status)
    · exact clean_eq other (inv.terminal other r' old status)
  · rw [vault]
    rcases rows other r' found' with ⟨rfl, rfl⟩ | ⟨-, old⟩
    · exact fits.recorded a
    · exact inv.recorded other r' a old
  · rw [vault]
    rcases rows other r' found' with ⟨rfl, rfl⟩ | ⟨-, old⟩
    · exact fits.accessor a
    · exact inv.accessor other r' a old
  · rcases rows other r' found' with ⟨rfl, rfl⟩ | ⟨-, old⟩
    · exact fits.leaseId l
    · exact inv.leaseId other r' l old
  · rw [dbs] at member
    obtain ⟨valid, place⟩ := inv.accounts db name member
    refine ⟨valid, fun other r' owns found' => ?_⟩
    rcases rows other r' found' with ⟨rfl, rfl⟩ | ⟨-, old⟩
    · cases at_old : v.row other with
      | none => exact absurd owns ((inv.absent other at_old).1.accounts db name member)
      | some old => rw [type old at_old, place other old owns at_old]
    · exact place other r' owns old
  · rw [locks] at lock
    obtain ⟨old, at_old, at_db⟩ := inv.holders db h lock caller
    by_cases same : h.grant = id
    · rw [same] at at_old ⊢
      exact ⟨r, found, by rw [type old at_old, at_db]⟩
    · exact ⟨old, by rw [others _ same, at_old], at_db⟩
  · have fit := watching t k watch
    by_cases same : k.grant = id
    · rw [if_pos same] at fit
      obtain ⟨⟨caller, lock⟩, alive, wrote⟩ := fit
      refine ⟨r, caller, by rw [same, found], by rw [locks, same, lock], alive, fun unwritten => ?_⟩
      rw [wrote] at unwritten
      cases unwritten
    · rw [if_neg same] at fit
      obtain ⟨old, caller, at_old, lock, alive, running⟩ := inv.watching t k fit
      refine ⟨old, caller, by rw [others _ same, at_old], by rw [locks, lock], alive, fun wrote => ?_⟩
      obtain ⟨fresh, due⟩ := running wrote
      exact ⟨fresh, fun reconcile => (due reconcile).later fun _ => clock.ge⟩
  · rw [reads]
    rcases rows other r' found' with ⟨rfl, rfl⟩ | ⟨-, old⟩
    · exact fits.read dated monotone active
    · exact inv.read dated monotone other r' old active
  · rw [lockedOut] at member
    obtain ⟨owns, shut⟩ := inv.shut other name member
    refine ⟨owns, fun kept => ?_⟩
    have shut := shut kept
    unfold Shut Event.canLogin at shut ⊢
    rwa [dbs]

theorem guar_of_row (vault : w.vault = v.vault) (dbs : w.dbs = v.dbs) (locks : w.locks = v.locks)
    (listed : w.listed = v.listed) (lockedOut : w.lockedOut = v.lockedOut) (reads : w.credsLog = v.credsLog)
    (clock : w.clock = v.clock)
    (others : ∀ other, other ≠ id → w.row other = v.row other) (found : w.row id = some r)
    (type : ∀ old, v.row id = some old → r.dbType = old.dbType)
    (own : v.Holds t id ∨ v.row id = none ∧ ∃ db caller, v.locks db = some ⟨t, id, caller⟩)
    (watch : ∀ u, u ≠ t → w.watch u = v.watch u) (deadline : w.deadline = v.deadline) (inflight : w.inflight = v.inflight)
    (fresh : terms.fresh → ∀ old, v.row id = some old → old.status.terminal = true → r.status = old.status)
    (raised : ∀ k, v.watch t = some k → k.raised = true → k.grant = id ∧ r.status.terminal = false) :
    Guar terms t v w where
  locks db h _ := by rw [locks]
  watch := watch
  deadline u _ := by rw [deadline]
  inflight _ _ _ member := by rwa [inflight] at member
  row other old at_old := by
    by_cases same : other = id
    · subst same
      refine ⟨r, found, type old at_old, fun free => ?_⟩
      rcases own with held | ⟨absent, -⟩
      · exact absurd held free
      · rw [absent] at at_old
        cases at_old
    · exact ⟨old, by rw [others other same, at_old], rfl, fun _ => rfl⟩
  insert other absent := by
    by_cases same : other = id
    · subst same
      rcases own with ⟨r', caller, row, lock⟩ | ⟨-, lock⟩
      · exact Or.inr ⟨_, caller, lock⟩
      · exact Or.inr lock
    · exact Or.inl (by rw [others other same, absent])
  fresh fresh' other old at_old status r' found' := by
    by_cases same : other = id
    · subst same
      rw [found] at found'
      cases found'
      exact fresh fresh' old at_old status
    · rw [others other same, at_old] at found'
      cases found'
      rfl
  raised k watch' flag r' found' := by
    obtain ⟨same, alive⟩ := raised k watch' flag
    rw [same, found] at found'
    cases found'
    exact alive
  objects _ _ := .of_objects vault dbs
  own _ _ := .of_objects vault dbs
  listed _ _ _ member := by rwa [listed]
  lockedOut other name _ member := by rwa [lockedOut] at member
  accessors _ _ known := by rw [vault]; exact known
  reads _ member := by rw [reads]; exact member
  clock _ := clock.ge

def audited (w : World) (t : Nat) (row : AuditRow) : World :=
  { w with store := w.store.addAudit row, book := w.book.pays t row }

/-- The row `insert_grant` makes. -/
def newRow (now : Time) (g : NewGrant) : Grant where
  id := g.id
  dbType := g.dbType
  scope := g.scope
  tables := g.tables
  commands := g.commands
  requestedFor := g.requestedFor
  issuedBy := g.issuedBy
  ttlSeconds := g.ttlSeconds
  status := .issuing
  createdAt := now
  expiresAt := none
  username := none
  leaseId := none
  tokenAccessor := none
  lastError := none
  updatedAt := now

def inserted (w : World) (t : Nat) (now : Time) (g : NewGrant) : World :=
  { w with store := w.store.insertGrant now g, book := w.book.inserts t }

theorem inserted_row {now : Time} {g : NewGrant} (absent : w.row g.id = none) :
    (w.inserted t now g).row g.id = some (newRow now g) := by
  unfold row inserted
  rw [Store.getGrant_insertGrant _ absent, if_pos rfl]
  rfl

theorem inserted_other {now : Time} {g : NewGrant} (absent : w.row g.id = none) {other : GrantId}
    (differs : other ≠ g.id) : (w.inserted t now g).row other = w.row other := by
  unfold row inserted
  rw [Store.getGrant_insertGrant _ absent, if_neg differs]

theorem newRow_fits (now : Time) (g : NewGrant) : RowFits terms g.id (newRow now g) w :=
  ⟨fun terminal => by simp [newRow, Status.terminal] at terminal, fun _ given => by simp [newRow, truthy] at given,
    fun _ given => by simp [newRow] at given, fun _ given => by simp [newRow] at given,
    fun _ _ active => by simp [newRow] at active⟩

/-- A new row: nothing of the grant exists yet. -/
theorem insert_inv (inv : Inv terms w) {now : Time} {g : NewGrant} (absent : w.row g.id = none) :
    Inv terms (w.inserted t now g) := by
  refine inv_of_row inv rfl rfl rfl rfl rfl rfl (fun _ => inserted_other absent) (inserted_row absent)
    (fun old at_old => ?_) (newRow_fits now g) (fun u k watch => ?_)
  · rw [absent] at at_old
    cases at_old
  · have watch : w.watch u = some k := watch
    obtain ⟨old, -, at_old, -⟩ := inv.watching u k watch
    have differs : k.grant ≠ g.id := by
      intro same
      rw [same, absent] at at_old
      cases at_old
    rw [if_neg differs]
    exact watch

theorem insert_guar {now : Time} {g : NewGrant} (absent : w.row g.id = none)
    (lock : ∃ db caller, w.locks db = some ⟨t, g.id, caller⟩) (unwatched : w.watch t = none) :
    Guar terms t w (w.inserted t now g) := by
  refine guar_of_row rfl rfl rfl rfl rfl rfl rfl (fun _ => inserted_other absent) (inserted_row absent)
    (fun old at_old => ?_) (Or.inr ⟨absent, lock⟩) (fun _ _ => rfl) rfl rfl (fun _ old at_old => ?_) (fun k watch => ?_)
  · rw [absent] at at_old
    cases at_old
  · rw [absent] at at_old
    cases at_old
  · rw [unwatched] at watch
    cases watch

def updated (w : World) (t : Nat) (now : Time) (id : GrantId) (fields : GrantFields) : World :=
  { w with store := w.store.updateGrant now id fields }.noteWrite t id fields

theorem updated_eq (w : World) (now : Time) (fields : GrantFields) :
    (w.updated t now id fields).vault = w.vault ∧ (w.updated t now id fields).dbs = w.dbs ∧
      (w.updated t now id fields).locks = w.locks ∧ (w.updated t now id fields).lockedOut = w.lockedOut ∧
      (w.updated t now id fields).credsLog = w.credsLog ∧ (w.updated t now id fields).clock = w.clock ∧
      (w.updated t now id fields).deadline = w.deadline ∧ (w.updated t now id fields).inflight = w.inflight ∧
      (w.updated t now id fields).store = w.store.updateGrant now id fields := by
  unfold updated noteWrite
  split <;> exact ⟨rfl, rfl, rfl, rfl, rfl, rfl, rfl, rfl, rfl⟩

theorem updated_listed (w : World) (now : Time) (fields : GrantFields) :
    (w.updated t now id fields).listed = w.listed := by
  unfold updated noteWrite
  split <;> rfl

theorem updated_watch_other (w : World) (now : Time) (fields : GrantFields) {u : Nat} (other : u ≠ t) :
    (w.updated t now id fields).watch u = w.watch u := by
  unfold updated noteWrite
  split
  · simp [other]
  · rfl

theorem updated_watch (w : World) (now : Time) (fields : GrantFields) {k : Watch}
    (watch : (w.updated t now id fields).watch t = some k) :
    ∃ old, w.watch t = some old ∧ old.grant = k.grant ∧ old.raised = k.raised ∧
      (fields.status.isSome = true → old.grant = id → k.wrote = true) := by
  unfold updated noteWrite at watch
  split at watch
  · simp only [Function.update_self, Option.map_eq_some_iff] at watch
    obtain ⟨old, at_old, rfl⟩ := watch
    refine ⟨old, at_old, ?_⟩
    split
    · exact ⟨rfl, rfl, fun _ _ => rfl⟩
    · rename_i differs
      exact ⟨rfl, rfl, fun _ same => absurd same differs⟩
  · rename_i unnamed
    exact ⟨k, watch, rfl, rfl, fun named => absurd named unnamed⟩

theorem updated_row (found : w.row id = some r) (now : Time) (fields : GrantFields) :
    (w.updated t now id fields).row id = some (r.set now fields) := by
  unfold row at found ⊢
  rw [(updated_eq w now fields).2.2.2.2.2.2.2.2, Store.getGrant_updateGrant, if_pos rfl, found]
  rfl

theorem updated_other (w : World) (now : Time) (fields : GrantFields) {other : GrantId} (differs : other ≠ id) :
    (w.updated t now id fields).row other = w.row other := by
  unfold row
  rw [(updated_eq w now fields).2.2.2.2.2.2.2.2, Store.getGrant_updateGrant, if_neg differs]

/-- A write of a held row that fits. -/
theorem update_inv (inv : Inv terms w) (held : w.Held t id r caller) {now : Time} {fields : GrantFields}
    (fits : RowFits terms id (r.set now fields) w) (named : fields.status.isSome = true ∨ w.watch t = none)
    (raised : ∀ k, w.watch t = some k → k.raised = true → (r.set now fields).status.terminal = false) :
    Inv terms (w.updated t now id fields) := by
  obtain ⟨vault, dbs, locks, lockedOut, reads, clock, -, -, -⟩ := @updated_eq t id w now fields
  refine inv_of_row inv vault dbs locks lockedOut reads clock (fun _ => updated_other w now fields)
    (updated_row held.1 now fields) (fun old at_old => ?_) fits (fun u k watch => ?_)
  · rw [held.1] at at_old
    cases at_old
    rfl
  · by_cases own : u = t
    · subst own
      obtain ⟨old, at_old, grant, lockout, wrote⟩ := updated_watch w now fields watch
      have same : old.grant = id := held.watch inv at_old
      rw [if_pos (grant ▸ same)]
      rcases named with named | none
      · exact ⟨⟨caller, held.2⟩, fun flag => raised old at_old (by rw [lockout, flag]), wrote named same⟩
      · rw [none] at at_old
        cases at_old
    · rw [updated_watch_other w now fields own] at watch
      have differs : k.grant ≠ id := by
        intro same
        obtain ⟨r', caller', row, lock, -⟩ := inv.watching u k watch
        have mine : w.Holds u k.grant := ⟨r', caller', row, lock⟩
        rw [same] at mine
        exact own (mine.unique held.holds)
      rw [if_neg differs]
      exact watch

theorem update_guar (inv : Inv terms w) (held : w.Held t id r caller) {now : Time} {fields : GrantFields}
    (fresh : terms.fresh → r.status.terminal = true → (r.set now fields).status = r.status)
    (raised : ∀ k, w.watch t = some k → k.raised = true → (r.set now fields).status.terminal = false) :
    Guar terms t w (w.updated t now id fields) := by
  obtain ⟨vault, dbs, locks, lockedOut, reads, clock, deadline, inflight, -⟩ := @updated_eq t id w now fields
  refine guar_of_row vault dbs locks (updated_listed w now fields) lockedOut reads clock (fun _ => updated_other w now fields)
    (updated_row held.1 now fields) (fun old at_old => ?_) (Or.inl held.holds)
    (fun _ other => updated_watch_other w now fields other) deadline inflight (fun fresh' old at_old => ?_)
    (fun k watch flag => ⟨held.watch inv watch, raised k watch flag⟩)
  · rw [held.1] at at_old
    cases at_old
    rfl
  · rw [held.1] at at_old
    cases at_old
    exact fresh fresh'

end World
end Vdba
