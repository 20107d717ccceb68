import Vdba.Interaction.Path
import Vdba.Staff

namespace Vdba
open Interaction (Exchange Prog)
open Interaction.Prog (All)

section absorbing
variable {cfg : Config} {s s' : System}

/-- A revocation that gets the database lock finds a row that is not finished. -/
def readInTime : Terms := { fresh := True }

theorem System.move_status {label : Move} {id : GrantId} {r : Grant} (run : System.Run cfg (MoveOk readInTime) s)
    (allowed : MoveOk readInTime s label) (moved : s.move cfg label = some s') (row : s.world.row id = some r)
    (terminal : r.status.terminal = true) : ∃ r', s'.world.row id = some r' ∧ r'.status = r.status := by
  have silent (id : GrantId) : ¬readInTime.quiet id := fun quiet => quiet
  have kept (same : s'.world.store = s.world.store) : ∃ r', s'.world.row id = some r' ∧ r'.status = r.status := by
    refine ⟨r, ?_, rfl⟩
    unfold World.row at row ⊢
    rw [same, row]
  rcases System.move_world moved with same | ⟨t, choice, op, next, answer, rfl, -, -⟩ | ⟨event, -, happened⟩ | ⟨-, same⟩
  · exact kept (by rw [same])
  · rcases run.guar silent allowed moved with same | guar
    · exact kept (by rw [same])
    · obtain ⟨r', row', -, -⟩ := guar.row id r row
      exact ⟨r', row', guar.fresh trivial id r row terminal r' row'⟩
  · exact kept (Event.happen_store happened)
  · exact kept (by rw [same, World.reset])

theorem System.Later.status (run : System.Run cfg (MoveOk readInTime) s)
    (later : System.Later cfg (MoveOk readInTime) s s') {id : GrantId} {r : Grant} (row : s.world.row id = some r)
    (terminal : r.status.terminal = true) : ∃ r', s'.world.row id = some r' ∧ r'.status = r.status := by
  induction later with
  | start => exact ⟨r, row, rfl⟩
  | next before allowed moved ih =>
    obtain ⟨r', row', same⟩ := ih
    obtain ⟨r'', row'', same'⟩ := System.move_status (run.later before) allowed moved row' (by rw [same, terminal])
    exact ⟨r'', row'', same'.trans same⟩

/-- Where no revocation works from a row that was finished in the meantime, a finished grant stays as it is: no call
changes its status, no teardown of it is about to write one, and revoking it returns the row. -/
theorem System.Run.terminal_absorbing (run : System.Run cfg (MoveOk readInTime) s)
    (later : System.Later cfg (MoveOk readInTime) s s') {id : GrantId} {r : Grant} (row : s.world.row id = some r)
    (terminal : r.status.terminal = true) :
    ∃ r', s'.world.row id = some r' ∧ r'.status = r.status ∧
      (∀ t k, s'.world.watch t = some k → k.grant = id → k.wrote = true) ∧
      ∀ actor requestId, revokeRow id actor requestId (some r') = .ret (public_ r') := by
  have silent (id : GrantId) : ¬readInTime.quiet id := fun quiet => quiet
  obtain ⟨r', row', same⟩ := later.status run row terminal
  refine ⟨r', row', same, fun t k watch grant => ?_, fun actor requestId => ?_⟩
  · obtain ⟨r'', caller, row'', -, -, early⟩ := ((run.later later).sound silent).inv.watching t k watch
    rw [grant, row'] at row''
    cases row''
    by_contra unwritten
    have alive := (early (Bool.not_eq_true _ ▸ unwritten)).1 trivial
    rw [same, terminal] at alive
    cases alive
  · rw [revokeRow, same, terminal]
    rfl

/-- The test of `readInTime`, move by move. -/
def System.inTime (s : System) : Move → Bool
  | .env _ => false
  | .run t _ =>
    match s.threads t with
    | some (.call (.lockAcquire db id (.revoke ..)) _) =>
      (s.world.locks db).isSome || (s.world.row id).all fun r => !r.status.terminal
    | _ => true
  | .spawn .. | .kill => true

theorem System.inTime_ok (s : System) (label : Move) (tested : s.inTime label = true) : MoveOk readInTime s label := by
  cases label with
  | env event => cases tested
  | spawn => trivial
  | kill => trivial
  | run t choice =>
    intro op next at_t
    refine ⟨fun _ db id actor read same free r row => ?_, nofun, fun _ smooth => smooth.elim⟩
    subst same
    simp only [inTime, at_t, free, row, Option.isSome_none, Option.all_some, Bool.false_or, Bool.not_eq_true'] at tested
    exact tested

/-- An issue that died after its row was inserted, and a revocation that cleaned up behind it. -/
def abandonedScript : List Scene :=
  [.starts 0 (.issue clickhouseRequest "admin" "1"), .goes 0 9, .dies, .starts 1 (.revoke someId "admin" "2"), .goes 1 1]

def finishedState : System :=
  System.play someConfig System.inTime ((abandonedScript ++ [Scene.goes 1 34]).flatMap Scene.moves) System.start

set_option maxRecDepth 100000 in
theorem finishedState_row : (finishedState.world.row someId).map (·.status) = some .revoked := by decide

/-- A second revocation and a pass of the reconciler have come after it. -/
def revisitedState : System :=
  System.play someConfig System.inTime ([Scene.starts 2 (.revoke someId "admin" "3"), .goes 2 1, .starts 3 .reconcile,
    .goes 3 13].flatMap Scene.moves) finishedState

theorem finishedState_absorbing : ∃ r', revisitedState.world.row someId = some r' ∧ r'.status = .revoked ∧
    (∀ t k, revisitedState.world.watch t = some k → k.grant = someId → k.wrote = true) ∧
    ∀ actor requestId, revokeRow someId actor requestId (some r') = .ret (public_ r') := by
  obtain ⟨r, row, status⟩ := Option.map_eq_some_iff.mp finishedState_row
  have run : System.Run someConfig (MoveOk readInTime) finishedState :=
    System.Later.play System.inTime_ok _ .start
  have later : System.Later someConfig (MoveOk readInTime) finishedState revisitedState :=
    System.Later.play System.inTime_ok _ .start
  obtain ⟨r', row', same, rest⟩ := run.terminal_absorbing later row (by rw [status]; rfl)
  exact ⟨r', row', same.trans status, rest⟩

/-- Both revocations have read the row before the first of them finished. -/
def overtakenState : System :=
  System.start.staged someConfig (abandonedScript ++ [.starts 2 (.revoke someId "admin" "3"), .goes 2 1, .goes 1 34])

def revivedState : System := overtakenState.staged someConfig [.goes 2 4]

set_option maxRecDepth 100000 in
theorem overtakenState_revived : (overtakenState.world.row someId).map (·.status) = some .revoked ∧
    (revivedState.world.row someId).map (·.status) = some .revoking := by decide

theorem terminal_not_absorbing : ¬∀ s s' : System, System.Run someConfig (fun _ _ => True) s →
    System.Later someConfig (fun _ _ => True) s s' → ∀ id r, s.world.row id = some r → r.status.terminal = true →
      ∃ r', s'.world.row id = some r' ∧ r'.status = r.status := by
  intro absorbing
  obtain ⟨r, row, status⟩ := Option.map_eq_some_iff.mp overtakenState_revived.1
  have run : System.Run someConfig (fun _ _ => True) overtakenState :=
    System.Later.staged (fun _ _ _ => trivial) _ .start
  have later : System.Later someConfig (fun _ _ => True) overtakenState revivedState :=
    System.Later.staged (fun _ _ _ => trivial) _ .start
  obtain ⟨r', row', same⟩ := absorbing _ _ run later someId r row (by rw [status]; rfl)
  obtain ⟨r'', row'', status'⟩ := Option.map_eq_some_iff.mp overtakenState_revived.2
  rw [row'] at row''
  cases row''
  rw [same, status] at status'
  cases status'

end absorbing

section reconciler
variable {cfg : Config} {s s' : System}

/-- The clock does not run backwards. -/
def orderly : Terms := { monotone := True, dated := True }

theorem orderly_loose : orderly.Loose := ⟨id, rfl, fun _ => id, fun _ => id⟩

theorem orderly_silent (id : GrantId) : ¬orderly.quiet id := orderly_loose.loud id

/-- What `reconcile_one` may tear a row down for, at the moment `w`. -/
def Warranted (r : Grant) (final : Status) (w : World) : Prop :=
  r.status = .issuing ∧ final = .failed ∨ r.status = .revoking ∧ final = .revoked ∨
    r.status = .active ∧ final = .expired ∧ ∃ expires, r.expiresAt = some expires ∧ expires + seconds 15 < w.clock ∧
      ∃ read ∈ w.credsLog, read.role = r.id.text ∧ read.time + seconds (read.duration + 15) < w.clock

theorem seconds_add (m n : Nat) : seconds (m + n) = seconds m + seconds n :=
  Nat.add_mul m n 1000000

theorem Due.warranted {w : World} {id : GrantId} {r : Grant} {final : Status} (due : Due orderly r final w)
    (inv : Inv orderly w) (row : w.row id = some r) : Warranted r final w := by
  unfold Due at due
  cases status : r.status <;> rw [status] at due
  case issuing => exact Or.inl ⟨status, due⟩
  case revoking => exact Or.inr (Or.inl ⟨status, due⟩)
  case active =>
    obtain ⟨expired, expires, at_expires, past⟩ := due
    obtain ⟨read, member, role, expires', at_expires', lasts⟩ := inv.read trivial trivial id r row status
    rw [at_expires] at at_expires'
    cases at_expires'
    have late := past trivial
    have same : r.id = id := Store.getGrant_id row
    refine Or.inr (Or.inr ⟨status, expired, expires, at_expires, late, read, member, by rw [same]; exact role, ?_⟩)
    rw [seconds_add, ← Nat.add_assoc]
    exact (Nat.add_le_add_right lasts _).trans_lt late
  all_goals exact due.elim

/-- No thread but the one that holds the lock of a grant changes its row or its objects. -/
theorem System.Run.locked_alone (run : System.Run cfg (MoveOk orderly) s) {t u : Nat} {id : GrantId} {choice : Choice}
    (held : s.world.Holds t id) (other : u ≠ t) (moved : s.move cfg (.run u choice) = some s') :
    s'.world.row id = s.world.row id ∧ Untouched id s.world s'.world := by
  have free : ¬s.world.Holds u id := fun mine => other (mine.unique held)
  rcases run.guar orderly_silent (.of_run orderly_loose s u choice) moved with same | guar
  · rw [same]
    exact ⟨rfl, Untouched.refl id s.world⟩
  · obtain ⟨r, caller, row, -⟩ := held
    obtain ⟨r', row', -, same⟩ := guar.row id r row
    exact ⟨by rw [row', same free, row], guar.objects id free⟩

/-- The call does not take a lock. -/
def Op.lockless : Op → Prop
  | .lockAcquire .. => False
  | _ => True

theorem lockless_section {db : DbType} (id : GrantId) :
    ((reconcileLocked id).finally_ (end_ db id)).All Op.lockless := by
  refine All.finally_ ((inside_reconcileLocked id).mono fun op inside => ?_) ?_
  · cases op
    case lockAcquire => exact inside.elim
    all_goals trivial
  · exact All.bind (All.perform trivial) fun _ => All.perform trivial

theorem getGrant_same {t : Nat} {id : GrantId} {choice : Choice} {v w : World} {answer : Except Exc (Option Grant)}
    (executed : exec t (.getGrant id) choice v = some (answer, w)) : w = v := by
  have executed : settle choice anyExc v v (v.row id) = some (answer, w) := executed
  rcases settle_cases executed with ⟨-, same, -⟩ | ⟨exn, -, -, ⟨same, -⟩ | same, -⟩
  all_goals exact same

/-- A lock that is not had in time leaves no trace. -/
theorem lockAcquire_same {t : Nat} {db : DbType} {id : GrantId} {caller : Caller} {choice : Choice} {v w : World}
    (executed : exec t (.lockAcquire db id caller) choice v = some (.ok false, w)) : w = v := by
  simp only [exec] at executed
  split at executed
  · cases executed
  · simp only [Option.ite_none_right_eq_some, Option.some.injEq, Prod.mk.injEq] at executed
    exact executed.2.2.symm

/-- `_begin` asks for the lock, and puts the grant in flight if it gets it. -/
theorem begin_runs {db : DbType} {id : GrantId} {caller : Caller} {trace : List (Exchange calls Exc)}
    {outcome : Except Exc Unit} (runs : (begin_ db id caller).Runs trace outcome) :
    (trace = [⟨.lockAcquire db id caller, .ok false⟩] ∧
      outcome = .error ⟨.busy, "another " ++ db.value ++ " operation is taking too long"⟩) ∨
    (∃ exn, trace = [⟨.lockAcquire db id caller, .error exn⟩] ∧ outcome = .error exn) ∨
    trace = [⟨.lockAcquire db id caller, .ok true⟩, ⟨.inflightAdd id, outcome⟩] := by
  rcases Prog.Runs.of_bind runs with ⟨exn, asked, failed⟩ | ⟨acquired, first, rest, rfl, asked, after⟩
  · exact Or.inr (Or.inl ⟨exn, Prog.Runs.of_perform asked, failed⟩)
  · rw [Prog.Runs.of_perform asked]
    change Bool at acquired
    cases acquired with
    | false =>
      obtain ⟨rfl, rfl⟩ := Prog.Runs.of_raise after
      exact Or.inl ⟨rfl, rfl⟩
    | true =>
      have added : (ask (.inflightAdd id)).Runs rest outcome := after
      rw [Prog.Runs.of_perform added]
      exact Or.inr (Or.inr rfl)

/-- A reconciler that waits in vain for the lock has read a row, and no more. -/
theorem reconcileOne_busy {id : GrantId} {trace : List (Exchange calls Exc)} {outcome : Except Exc Unit} {db : DbType}
    {other : GrantId} {caller : Caller} (runs : (reconcileOne id).Runs trace outcome)
    (waited : ⟨.lockAcquire db other caller, .ok false⟩ ∈ trace) :
    ∃ g, trace = [⟨.getGrant id, .ok (some g)⟩, ⟨.lockAcquire g.dbType id .reconcile, .ok false⟩] ∧
      outcome = .error ⟨.busy, "another " ++ g.dbType.value ++ " operation is taking too long"⟩ := by
  rcases Prog.Runs.of_bind runs with ⟨exn, read, -⟩ | ⟨row, first, rest, rfl, read, after⟩
  · rw [Prog.Runs.of_perform read] at waited
    cases List.mem_singleton.mp waited
  rw [Prog.Runs.of_perform read] at waited ⊢
  rcases List.mem_append.mp waited with same | later
  · cases List.mem_singleton.mp same
  cases row with
  | none =>
    obtain ⟨rfl, -⟩ := Prog.Runs.of_ret after
    cases later
  | some g =>
    rcases Prog.Runs.of_bind after with ⟨exn, entered, rfl⟩ | ⟨⟨⟩, entering, work, rfl, entered, worked⟩
    · rcases begin_runs entered with ⟨rfl, same⟩ | ⟨exn, rfl, -⟩ | rfl
      · exact ⟨g, rfl, same⟩
      · cases List.mem_singleton.mp later
      · rcases List.mem_cons.mp later with same | flown
        · cases same
        · cases List.mem_singleton.mp flown
    · rcases begin_runs entered with ⟨-, same⟩ | ⟨exn, -, same⟩ | rfl
      · cases same
      · cases same
      · rcases List.mem_append.mp later with asked | inside
        · rcases List.mem_cons.mp asked with same | flown
          · cases same
          · cases List.mem_singleton.mp flown
        · have unasked : Op.lockless (.lockAcquire db other caller) := (lockless_section id).of_path worked _ inside
          exact unasked.elim

/-- A teardown of the reconciler that has not written its status yet: its thread has the lock of the grant, the row is
due for the teardown at every moment, no other call is at work on the grant, and none changes it. The one call that can
hold another lock under the same id is an issue for the other database that has drawn the id again. A reconciler that
waits in vain for the lock changes nothing. -/
theorem System.Staffed.reconciler_safe {staff : Nat → Option Entry} (staffed : System.Staffed cfg (MoveOk orderly) staff s) :
    (∀ t k, staff t = some .reconcile → s.world.watch t = some k → k.wrote = false →
      ∃ r, s.world.row k.grant = some r ∧ s.world.locks r.dbType = some ⟨t, k.grant, .reconcile⟩ ∧
        Warranted r k.final s.world ∧
        (∀ db h, s.world.locks db = some h → h.grant = k.grant → h.thread ≠ t →
          db ≠ r.dbType ∧ ∃ req actor requestId, staff h.thread = some (.issue req actor requestId)) ∧
        ∀ u choice s', u ≠ t → s.move cfg (.run u choice) = some s' →
          s'.world.row k.grant = some r ∧ Untouched k.grant s.world s'.world) ∧
      ∀ id trace outcome db other caller, (reconcileOne id).Runs trace outcome →
        ⟨.lockAcquire db other caller, .ok false⟩ ∈ trace →
          (∃ g, trace = [⟨.getGrant id, .ok (some g)⟩, ⟨.lockAcquire g.dbType id .reconcile, .ok false⟩] ∧
            outcome = .error ⟨.busy, "another " ++ g.dbType.value ++ " operation is taking too long"⟩) ∧
          ∀ x ∈ trace, ∀ t choice v w, exec t x.1 choice v = some (x.2, w) → w = v := by
  have run : System.Run cfg (MoveOk orderly) s := staffed.forget
  refine ⟨fun t k reconciles watch unwritten => ?_, fun id trace outcome db other caller runs waited => ?_⟩
  · have inv := (run.sound orderly_silent).inv
    obtain ⟨r, caller, row, lock, -, early⟩ := inv.watching t k watch
    obtain ⟨entry, at_work, calls⟩ := staffed.caller lock
    rw [reconciles] at at_work
    cases at_work
    have same : caller = .reconcile := calls
    subst same
    have due : Due orderly r k.final s.world := (early unwritten).2 rfl
    refine ⟨r, row, lock, due.warranted inv row, fun db h holds grant other => ?_, fun u choice s' differs moved => ?_⟩
    · have apart : db ≠ r.dbType := by
        rintro rfl
        rw [lock] at holds
        cases holds
        exact other rfl
      refine ⟨apart, ?_⟩
      have issues : h.caller = .issue := by
        by_contra issues
        obtain ⟨r', row', type⟩ := inv.holders db h holds issues
        rw [grant, row] at row'
        cases row'
        exact apart type.symm
      obtain ⟨entry, at_h, calls⟩ := staffed.caller holds
      rw [issues] at calls
      obtain ⟨req, actor, requestId, rfl⟩ := Entry.issue_of_calls calls
      exact ⟨req, actor, requestId, at_h⟩
    · have held : s.world.Holds t k.grant := ⟨r, .reconcile, row, lock⟩
      obtain ⟨kept, untouched⟩ := run.locked_alone held differs moved
      exact ⟨kept.trans row, untouched⟩
  · obtain ⟨g, rfl, raised⟩ := reconcileOne_busy runs waited
    refine ⟨⟨g, rfl, raised⟩, fun x member t choice v w executed => ?_⟩
    rcases List.mem_cons.mp member with rfl | member
    · exact getGrant_same executed
    · rw [List.mem_singleton] at member
      subst member
      exact lockAcquire_same executed

theorem orderly_inside (s : System) (move : Move) (inside : s.inside move = true) : MoveOk orderly s move := by
  refine .of_events orderly_loose fun event same => ?_
  subst same
  cases inside

def reconcilingScript : List Scene :=
  [.starts 0 (.issue clickhouseRequest "admin" "1"), .goes 0 9, .dies, .starts 1 .reconcile, .goes 1 9]

/-- The reconciler has begun to tear down a grant whose issue died. -/
def reconcilingState : System := System.start.staged someConfig reconcilingScript

theorem reconcilingState_run : System.Run someConfig (MoveOk orderly) reconcilingState :=
  System.Later.staged orderly_inside _ .start

set_option maxRecDepth 100000 in
theorem reconcilingState_watch : reconcilingState.world.watch 1 = some ⟨someId, .failed, false, false⟩ ∧
    reconcilingState.world.locks .clickhouse = some ⟨1, someId, .reconcile⟩ := by decide

/-- The one thread that has a lock as the reconciler is the reconciler. -/
theorem System.Staffed.reconciles {ok : System → Move → Prop} {staff : Nat → Option Entry}
    (staffed : System.Staffed cfg ok staff s) {t : Nat} {db : DbType} {id : GrantId}
    (lock : s.world.locks db = some ⟨t, id, .reconcile⟩) : staff t = some .reconcile := by
  obtain ⟨entry, at_t, calls⟩ := staffed.caller lock
  rw [Entry.reconcile_of_calls calls] at at_t
  exact at_t

theorem reconcilingState_safe : ∃ staff : Nat → Option Entry, staff 1 = some .reconcile ∧
    ∃ r, reconcilingState.world.row someId = some r ∧
      reconcilingState.world.locks r.dbType = some ⟨1, someId, .reconcile⟩ ∧ Warranted r .failed reconcilingState.world ∧
      (∀ db h, reconcilingState.world.locks db = some h → h.grant = someId → h.thread ≠ 1 →
        db ≠ r.dbType ∧ ∃ req actor requestId, staff h.thread = some (.issue req actor requestId)) ∧
      ∀ u choice s', u ≠ 1 → reconcilingState.move someConfig (.run u choice) = some s' →
        s'.world.row someId = some r ∧ Untouched someId reconcilingState.world s'.world := by
  obtain ⟨staff, staffed⟩ := reconcilingState_run.staffed
  have staffed : System.Staffed someConfig (MoveOk orderly) staff reconcilingState := staffed
  have reconciles := staffed.reconciles reconcilingState_watch.2
  exact ⟨staff, reconciles, staffed.reconciler_safe.1 1 _ reconciles reconcilingState_watch.1 rfl⟩

/-- An issue for the other database draws the id of the grant under teardown, and waits for nobody. -/
def collidingState : System :=
  System.start.staged someConfig (reconcilingScript ++ [.starts 2 (.issue postgresRequest "admin" "4"), .goes 2 7])

set_option maxRecDepth 100000 in
theorem collidingState_locks : collidingState.world.watch 1 = some ⟨someId, .failed, false, false⟩ ∧
    collidingState.world.locks .clickhouse = some ⟨1, someId, .reconcile⟩ ∧
    collidingState.world.locks .postgres = some ⟨2, someId, .issue⟩ := by decide

theorem reconciler_not_alone : ¬∀ (staff : Nat → Option Entry) (s : System),
    System.Staffed someConfig (MoveOk orderly) staff s → ∀ t k, staff t = some .reconcile → s.world.watch t = some k →
      k.wrote = false → ∀ db h, s.world.locks db = some h → h.grant = k.grant → h.thread = t := by
  intro alone
  have run : System.Run someConfig (MoveOk orderly) collidingState := System.Later.staged orderly_inside _ .start
  obtain ⟨staff, staffed⟩ := Interaction.Pool.Reach.staffed run
  have staffed : System.Staffed someConfig (MoveOk orderly) staff collidingState := staffed
  obtain ⟨watch, own, theirs⟩ := collidingState_locks
  have same := alone staff _ staffed 1 _ (staffed.reconciles own) watch rfl .postgres _ theirs rfl
  cases same

end reconciler
end Vdba
