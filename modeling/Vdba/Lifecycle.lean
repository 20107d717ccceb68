import Vdba.LedgerRuns
import Vdba.Runs

namespace Vdba

/-- A transaction of the store that raises is rolled back. -/
def Transactional (s : System) : Move → Prop
  | .run t choice => ∀ op next, s.threads t = some (.call op next) → op.writes = true → ∀ exn, choice.fate ≠ .lost exn
  | .env _ | .spawn .. | .kill => True

/-- A revocation of the grant gets the lock. -/
def Op.revokes (g : GrantId) : Op → Bool
  | .lockAcquire _ id (.revoke ..) => id = g
  | _ => false

/-- The thread's teardown of the grant gives up. -/
def World.givesUp (w : World) (t : Nat) (g : GrantId) (op : Op) : Bool :=
  op = .mark .raised && (w.watch t).any (·.grant = g)

/-- The transactions of the store are atomic, no revocation of the grant gets the lock, and no teardown of it gives up. -/
def Untroubled (g : GrantId) (s : System) (label : Move) : Prop :=
  Transactional s label ∧ ∀ t choice, label = .run t choice → ∀ op next, s.threads t = some (.call op next) →
    op.revokes g = false ∧ s.world.givesUp t g op = false

section rows
variable {cfg : Config} {p : Pledge} {s s' : System} {w : World} {label : Move} {g : GrantId}

theorem Transactional.honoured (atomic : Transactional s label) : Honoured {} s label := by
  cases label with
  | run t choice =>
    exact fun op next at_t => ⟨atomic op next at_t, False.elim, False.elim, fun _ => False.elim, fun _ => False.elim,
      False.elim⟩
  | kill => exact ⟨False.elim, False.elim⟩
  | env => trivial
  | spawn => trivial

theorem Untroubled.honoured (untroubled : Untroubled g s label) : Honoured { untroubled := (· = g) } s label := by
  obtain ⟨atomic, calm⟩ := untroubled
  cases label with
  | run t choice =>
    intro op next at_t
    obtain ⟨unrevoked, unfailing⟩ := calm t choice rfl op next at_t
    refine ⟨atomic op next at_t, False.elim, False.elim, fun id same db actor read revokes => ?_,
      fun id same raised k watch grant => ?_, False.elim⟩
    · subst same revokes
      simp [Op.revokes] at unrevoked
    · subst same raised
      simp [World.givesUp, watch, grant] at unfailing
  | kill => exact ⟨False.elim, False.elim⟩
  | env => trivial
  | spawn => trivial

theorem Ledger.mem_iff (books : Ledger p w) {r : Grant} : r ∈ w.store.grants ↔ w.row r.id = some r := by
  refine ⟨fun member => ?_, fun found => List.mem_of_find?_eq_some found⟩
  cases found : w.row r.id with
  | none =>
    have absent := List.find?_eq_none.mp found r member
    simp at absent
  | some r₀ =>
    have same : r₀ = r :=
      List.inj_on_of_nodup_map books.unique (List.mem_of_find?_eq_some found) member (Store.getGrant_id found)
    rw [same]

/-- The rows before and after one move. -/
structure RowStep (label : Move) (v w : World) : Prop where
  rows : ∀ id r, v.row id = some r → ∃ r', w.row id = some r' ∧ (r' = r ∨ ∃ t choice caller, label = .run t choice ∧
    v.Held t id r caller ∧ Change caller r r')
  inserted : ∀ id, v.row id = none → ∀ r, w.row id = some r → ∃ now g, r = World.newRow now g

theorem RowStep.of_store {v : World} (same : w.store = v.store) : RowStep label v w := by
  have row (id : GrantId) : w.row id = v.row id := by
    unfold World.row
    rw [same]
  refine ⟨fun id r found => ⟨r, by rw [row, found], Or.inl rfl⟩, fun id absent r found => ?_⟩
  rw [row, absent] at found
  cases found

theorem RowStep.persists {v : World} (step : RowStep label v w) {id : GrantId} {r : Grant} (found : v.row id = some r) :
    ∃ r', w.row id = some r' ∧ Persists r r' := by
  obtain ⟨r', found', rfl | ⟨_, _, caller, -, -, change⟩⟩ := step.rows id r found
  · exact ⟨r', found', .refl r'⟩
  · exact ⟨r', found', change.toPersists⟩

theorem System.Run.row_step (run : System.Run cfg (Honoured p) s) (allowed : Honoured p s label)
    (moved : s.move cfg label = some s') : RowStep label s.world s'.world := by
  rcases System.move_world moved with same | ⟨t, choice, op, next, answer, rfl, -, -⟩ | ⟨event, -, happened⟩ | ⟨-, same⟩
  · exact .of_store (by rw [same])
  · rcases run.enters allowed moved with same | enters
    · exact .of_store (by rw [same])
    · refine ⟨fun id r found => ?_, enters.inserted⟩
      obtain ⟨r', found', same | ⟨caller, held, change⟩⟩ := enters.rows id r found
      · exact ⟨r', found', Or.inl same⟩
      · exact ⟨r', found', Or.inr ⟨t, choice, caller, rfl, held, change⟩⟩
  · exact .of_store (Event.happen_store happened)
  · exact .of_store (by rw [same, World.reset])

theorem System.Later.persists (run : System.Run cfg (Honoured p) s) (later : System.Later cfg (Honoured p) s s')
    {id : GrantId} {r : Grant} (found : s.world.row id = some r) : ∃ r', s'.world.row id = some r' ∧ Persists r r' := by
  induction later with
  | start => exact ⟨r, found, .refl r⟩
  | next before allowed moved ih =>
    obtain ⟨r', found', first⟩ := ih
    obtain ⟨r'', found'', second⟩ := ((run.later before).row_step allowed moved).persists found'
    exact ⟨r'', found'', first.trans second⟩

/-- What every row of the store is like, how one move changes its status, and what stays in it for ever. -/
theorem System.Run.rows_kept (run : System.Run cfg Transactional s) :
    (s.world.store.grants.map (·.id)).Nodup ∧ (∀ r ∈ s.world.store.grants, RowOk r) ∧
      (∀ label s', Transactional s label → s.move cfg label = some s' →
        (∀ r ∈ s.world.store.grants, ∃ r' ∈ s'.world.store.grants, Persists r r' ∧
          (r'.status = r.status ∨ ∃ t choice caller, label = .run t choice ∧ s.world.Held t r.id r caller ∧
            Moves caller r.id r.status r'.status)) ∧
        ∀ r' ∈ s'.world.store.grants, (∀ r ∈ s.world.store.grants, r.id ≠ r'.id) → r'.status = .issuing) ∧
      ∀ s', System.Later cfg Transactional s s' → ∀ r ∈ s.world.store.grants, ∃ r' ∈ s'.world.store.grants, Persists r r' := by
  have honoured : System.Run cfg (Honoured {}) s := System.Later.mono run fun _ _ => Transactional.honoured
  have books : Ledger {} s.world := honoured.recorded.inv
  refine ⟨books.unique, fun r member => books.rows r.id r (books.mem_iff.mp member), fun label s' allowed moved => ?_,
    fun s' later r member => ?_⟩
  · have step := honoured.row_step allowed.honoured moved
    have after : Ledger {} s'.world := (System.Run.recorded (.next honoured allowed.honoured moved)).inv
    refine ⟨fun r member => ?_, fun r' member fresh => ?_⟩
    · obtain ⟨r', found, outcome⟩ := step.rows r.id r (books.mem_iff.mp member)
      refine ⟨r', List.mem_of_find?_eq_some found, ?_⟩
      rcases outcome with rfl | ⟨t, choice, caller, same, held, change⟩
      · exact ⟨.refl r', Or.inl rfl⟩
      · exact ⟨change.toPersists, change.moves.imp_right fun moves => ⟨t, choice, caller, same, held, moves⟩⟩
    · have absent : s.world.row r'.id = none := by
        cases found : s.world.row r'.id with
        | none => rfl
        | some r => exact absurd (Store.getGrant_id found) (fresh r (List.mem_of_find?_eq_some found))
      obtain ⟨now, g, rfl⟩ := step.inserted r'.id absent r' (after.mem_iff.mp member)
      rfl
  · have later' : System.Later cfg (Honoured {}) s s' := later.mono fun _ _ => Transactional.honoured
    obtain ⟨r', found, persists⟩ := System.Later.persists honoured later' (books.mem_iff.mp member)
    exact ⟨r', List.mem_of_find?_eq_some found, persists⟩

/-- The test of `Transactional`, move by move. -/
def System.atomic (_ : System) : Move → Bool
  | .run _ ⟨.lost _, _, _, _, _, _, _, _, _⟩ => false
  | _ => true

theorem System.atomic_ok (s : System) (label : Move) (tested : s.atomic label = true) : Transactional s label := by
  cases label with
  | run t choice =>
    intro op next _ _ exn lost
    obtain ⟨fate, _, _, _, _, _, _, _, _⟩ := choice
    cases lost
    cases tested
  | env => trivial
  | spawn => trivial
  | kill => trivial

end rows

section statuses
variable {cfg : Config} {s s' : System} {label : Move} {g : GrantId} {r r' : Grant}

/-- The row of the grant is not active. -/
def Inactive (g : GrantId) (s : System) : Prop := ∀ r, s.world.row g = some r → r.status ≠ .active

theorem System.Run.calm (run : System.Run cfg (Untroubled g) s) :
    System.Run cfg (Honoured { untroubled := (· = g) }) s :=
  System.Later.mono run fun _ _ => Untroubled.honoured

theorem System.Run.smooth_row (run : System.Run cfg (Untroubled g) s) (found : s.world.row g = some r) :
    Smoothly r s.world.book.high := by
  have books : Ledger { untroubled := (· = g) } s.world := run.calm.recorded.inv
  exact books.smoothly g rfl r found

/-- The changes that are left where the grant is never in revocation. -/
theorem Moves.calm {caller : Caller} {old new : Status} (moves : Moves caller g old new) (other : new ≠ .revoking)
    (before : old ≠ .revoking) : old = .issuing ∧ (new = .active ∨ new = .failed) ∨ old = .active ∧ new = .expired := by
  cases moves
  case activate => exact Or.inl ⟨rfl, Or.inl rfl⟩
  case fail => exact Or.inl ⟨rfl, Or.inr rfl⟩
  case expire => exact Or.inr ⟨rfl, rfl⟩
  case finish => exact absurd rfl before
  all_goals exact absurd rfl other

theorem System.Run.status_step (run : System.Run cfg (Untroubled g) s) (allowed : Untroubled g s label)
    (moved : s.move cfg label = some s') (found : s.world.row g = some r) : ∃ r', s'.world.row g = some r' ∧
      (r'.status = r.status ∨ r.status = .issuing ∧ (r'.status = .active ∨ r'.status = .failed) ∨
        r.status = .active ∧ r'.status = .expired) := by
  have after : System.Run cfg (Untroubled g) s' := .next run allowed moved
  obtain ⟨r', found', rfl | ⟨t, choice, caller, -, -, change⟩⟩ :=
    (run.calm.row_step allowed.honoured moved).rows g r found
  · exact ⟨r', found', Or.inl rfl⟩
  · refine ⟨r', found', change.moves.imp_right fun moves => ?_⟩
    exact moves.calm (after.smooth_row found').1 (run.smooth_row found).1

/-- A grant that was active is active until it has expired. -/
theorem System.Later.active_or_expired (run : System.Run cfg (Untroubled g) s)
    (later : System.Later cfg (Untroubled g) s s') (found : s.world.row g = some r) (active : r.status = .active) :
    ∃ r', s'.world.row g = some r' ∧ (r'.status = .active ∨ r'.status = .expired) := by
  induction later with
  | start => exact ⟨r, found, Or.inl active⟩
  | next before allowed moved ih =>
    obtain ⟨r', found', status⟩ := ih
    obtain ⟨r'', found'', same | ⟨issuing, -⟩ | ⟨-, expired⟩⟩ := (run.later before).status_step allowed moved found'
    · exact ⟨r'', found'', by rw [same]; exact status⟩
    · rw [issuing] at status
      rcases status with status | status <;> cases status
    · exact ⟨r'', found'', Or.inr expired⟩

/-- A grant that was not active yet is still being issued, or has failed. -/
theorem System.Run.never_active (run : System.Run cfg (fun s label => Untroubled g s label ∧ Inactive g s) s)
    (found : s.world.row g = some r) : r.status = .issuing ∨ r.status = .active ∨ r.status = .failed := by
  induction run generalizing r with
  | start => cases found
  | @next s label s' before allowed moved ih =>
    have untroubled : System.Run cfg (Untroubled g) s := System.Later.mono before fun _ _ ok => ok.1
    cases row : s.world.row g with
    | none =>
      obtain ⟨now, new, rfl⟩ := (untroubled.calm.row_step allowed.1.honoured moved).inserted g row r found
      exact Or.inl rfl
    | some r₀ =>
      obtain ⟨r', found', same | ⟨-, status⟩ | ⟨active, -⟩⟩ := untroubled.status_step allowed.1 moved row
      · rw [found] at found'
        cases found'
        rw [same]
        exact ih row
      · rw [found] at found'
        cases found'
        exact Or.inr status
      · exact absurd active (allowed.2 r₀ row)

/-- Where nobody revokes the grant and no teardown of it gives up, its final status tells what happened: it is never
revoked; it has failed if it was never active; if it was active it has expired, and the clock has shown a time
past `expires_at` by more than 15 seconds. -/
theorem System.Run.status_tells (run : System.Run cfg (Untroubled g) s) (found : s.world.row g = some r) :
    r.status ≠ .revoked ∧
      (r.status.terminal = true → System.Run cfg (fun s label => Untroubled g s label ∧ Inactive g s) s →
        r.status = .failed) ∧
      (∀ s₀ r₀, System.Run cfg (Untroubled g) s₀ → System.Later cfg (Untroubled g) s₀ s → s₀.world.row g = some r₀ →
        r₀.status = .active → r.status ≠ .failed ∧ (r.status.terminal = true → r.status = .expired)) ∧
      (r.status = .expired → ∃ expires, r.expiresAt = some expires ∧ expires + seconds 15 < s.world.book.high) := by
  obtain ⟨-, unrevoked, late⟩ := run.smooth_row found
  refine ⟨unrevoked, fun terminal never => ?_, fun s₀ r₀ run₀ later found₀ active => ?_, late⟩
  · rcases never.never_active found with status | status | status
    · rw [status] at terminal
      cases terminal
    · rw [status] at terminal
      cases terminal
    · exact status
  · obtain ⟨r', found', status⟩ := System.Later.active_or_expired run₀ later found₀ active
    rw [found] at found'
    cases found'
    rcases status with status | status
    · rw [status]
      exact ⟨nofun, nofun⟩
    · rw [status]
      exact ⟨nofun, fun _ => rfl⟩

/-- The test of `Untroubled`, move by move. -/
def System.untroubled (g : GrantId) (s : System) (label : Move) : Bool :=
  s.atomic label && match label with
  | .run t _ =>
    match s.threads t with
    | some (.call op _) => !op.revokes g && !s.world.givesUp t g op
    | _ => true
  | _ => true

theorem System.untroubled_ok (s : System) (label : Move) (tested : s.untroubled g label = true) :
    Untroubled g s label := by
  simp only [untroubled, Bool.and_eq_true] at tested
  refine ⟨s.atomic_ok label tested.1, fun t choice same op next at_t => ?_⟩
  subst same
  simpa only [at_t, Bool.and_eq_true, Bool.not_eq_true'] using tested.2

/-- A grant whose time has run out, and that the reconciler has finished. -/
def expiredState : System :=
  System.play someConfig (System.untroubled someId) ([Scene.starts 0 (.issue clickhouseRequest "admin" "1"), .goes 0 27,
    .happens (.tick (seconds 100)), .starts 1 .reconcile, .goes 1 60].flatMap Scene.moves) System.start

set_option maxRecDepth 100000 in
theorem expiredState_row : (expiredState.world.row someId).map (·.status) = some .expired := by decide

theorem expiredState_tells : ∃ r expires, expiredState.world.row someId = some r ∧ r.expiresAt = some expires ∧
    expires + seconds 15 < expiredState.world.book.high := by
  obtain ⟨r, row, status⟩ := Option.map_eq_some_iff.mp expiredState_row
  have run : System.Run someConfig (Untroubled someId) expiredState := System.Later.play System.untroubled_ok _ .start
  obtain ⟨expires, at_expires, past⟩ := (run.status_tells row).2.2.2 status
  exact ⟨r, expires, row, at_expires, past⟩

/-- Nobody calls `revoke` for the grant. -/
def Unrevoked (g : GrantId) (s : System) (label : Move) : Prop :=
  Transactional s label ∧ ∀ t actor requestId, label ≠ .spawn t (.revoke g actor requestId)

def System.unrevoked (s : System) (label : Move) : Bool :=
  s.atomic label && match label with
  | .spawn _ (.revoke ..) => false
  | _ => true

theorem System.unrevoked_ok (s : System) (label : Move) (tested : s.unrevoked label = true) : Unrevoked g s label := by
  simp only [unrevoked, Bool.and_eq_true] at tested
  refine ⟨s.atomic_ok label tested.1, fun t actor requestId same => ?_⟩
  subst same
  cases tested.2

/-- Vault fails while the role of the grant is written, and again in the teardown; the reconciler finishes the work. -/
def misnamedState : System :=
  System.play someConfig System.unrevoked ([Scene.starts 0 (.issue clickhouseRequest "admin" "1"), .goes 0 10,
    .fails 0 ⟨.vaultDown, ""⟩, .goes 0 5, .fails 0 ⟨.vaultDown, ""⟩, .goes 0 10, .starts 1 .reconcile,
    .goes 1 60].flatMap Scene.moves) System.start

set_option maxRecDepth 100000 in
theorem misnamedState_row : (misnamedState.world.row someId).map (·.status) = some .revoked := by decide

theorem revoked_without_revoke : ¬∀ s : System, System.Run someConfig (Unrevoked someId) s →
    ∀ r, s.world.row someId = some r → r.status ≠ .revoked := by
  intro never
  obtain ⟨r, row, status⟩ := Option.map_eq_some_iff.mp misnamedState_row
  have run : System.Run someConfig (Unrevoked someId) misnamedState := System.Later.play System.unrevoked_ok _ .start
  exact never _ run r row status

end statuses
end Vdba
