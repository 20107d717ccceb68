import Vdba.Admission
import Vdba.Runs

namespace Vdba
open Interaction (Protocol Pool)
open Interaction.Prog (All Follows)

/-- The calls made for one grant while the lock of its database is held. -/
def Op.inside (id : GrantId) : Op → Prop
  | .insertGrant _ g => g.id = id
  | .updateGrant _ other _ => other = id
  | .getGrant _ | .addAudit _ => True
  | op => op.work

/-- The calls that have to do neither with locks nor with the rows' contents. -/
def Op.outside : Op → Prop
  | .lockAcquire .. | .lockRelease _ | .inflightAdd _ | .inflightDiscard _ | .insertGrant .. | .updateGrant .. => False
  | _ => True

section calls
variable {α : Type}

theorem inside_of_work {p : Portal α} (id : GrantId) (all : p.All Op.work) : p.All (Op.inside id) := by
  refine all.mono fun op work => ?_
  cases op
  case insertGrant | updateGrant => exact work.elim
  case getGrant | addAudit => trivial
  all_goals exact work

theorem inside_ask {id : GrantId} (op : Op) (inside : op.inside id) : (ask op).All (Op.inside id) := All.perform inside

theorem inside_updateGrant (id : GrantId) (fields : GrantFields) : (updateGrant id fields).All (Op.inside id) :=
  All.bind (inside_ask _ trivial) fun _ => inside_ask _ rfl

theorem inside_audit (id : GrantId) (requestId : Option String) (other : Option GrantId)
    (actor action result detail : String) : (audit requestId other actor action result detail).All (Op.inside id) :=
  All.bind (inside_ask _ trivial) fun _ => inside_ask _ trivial

theorem inside_teardown (id : GrantId) (final : Status) (requestId : Option String) (actor : String)
    (raiseErrors : Bool) : (teardown id final requestId actor raiseErrors).All (Op.inside id) := by
  refine All.bind (inside_ask _ trivial) fun _ => All.bind (inside_ask _ trivial) fun (row : Option Grant) => ?_
  cases row with
  | none => trivial
  | some g =>
    refine (inside_of_work id (work_teardownSteps g id)).attempt.bind fun outcome => ?_
    cases outcome with
    | ok _ => exact All.bind (inside_updateGrant id _) fun _ => inside_audit id _ _ _ _ _ _
    | error exn =>
      refine All.bind (inside_ask _ trivial) fun _ => All.bind (inside_updateGrant id _) fun _ => ?_
      refine All.bind (inside_audit id _ _ _ _ _ _) fun _ => ?_
      split <;> trivial

theorem inside_issueSteps (req : GrantRequest) (id : GrantId) (creation revocation : List String) :
    (issueSteps req id creation revocation).All (Op.inside id) := by
  refine All.bind (inside_of_work id (work_writeRole _ _ _ _ _)) fun _ => ?_
  refine All.bind (inside_of_work id (work_of_basic (basic_createGrantToken _ _))) fun answer =>
    All.bind (inside_updateGrant id _) fun _ => ?_
  refine All.bind (inside_of_work id (work_of_basic (basic_readCredentials _ _))) fun creds =>
    All.bind (inside_ask _ trivial) fun _ => ?_
  exact All.bind (inside_updateGrant id _) fun _ => trivial

theorem inside_issueLocked (req : GrantRequest) (actor requestId : String) (id : GrantId)
    (creation revocation : List String) :
    (issueLocked req actor requestId id creation revocation).All (Op.inside id) := by
  refine All.bind (All.bind (inside_ask _ trivial) fun _ => inside_ask _ rfl) fun _ => ?_
  refine All.bind (All.onError (inside_issueSteps _ _ _ _) fun _ => ?_) fun _ => ?_
  · exact All.bind (inside_audit id _ _ _ _ _ _) fun _ => All.bind (inside_teardown _ _ _ _ _) fun _ => trivial
  · exact All.bind (inside_audit id _ _ _ _ _ _) fun _ => trivial

theorem inside_revokeLocked (id : GrantId) (actor requestId : String) :
    (revokeLocked id actor requestId).All (Op.inside id) :=
  All.bind (inside_updateGrant id _) fun _ => All.bind (inside_audit id _ _ _ _ _ _) fun _ => inside_teardown _ _ _ _ _

theorem inside_reconcileLocked (id : GrantId) : (reconcileLocked id).All (Op.inside id) := by
  refine All.bind (inside_ask _ trivial) fun (fresh : Option Grant) => ?_
  cases fresh with
  | none => trivial
  | some g =>
    refine All.bind (inside_ask _ trivial) fun now => ?_
    split
    · trivial
    · exact inside_teardown _ _ _ _ _

theorem outside_ask (op : Op) (outside : op.outside) : (ask op).All Op.outside := All.perform outside

theorem outside_of_basic {p : Portal α} (all : p.All Op.basic) : p.All Op.outside := by
  refine all.mono fun op basic => ?_
  cases op
  case lockAcquire | lockRelease | inflightAdd | inflightDiscard | insertGrant | updateGrant => exact basic.elim
  all_goals trivial

theorem outside_audit (requestId : Option String) (id : Option GrantId) (actor action result detail : String) :
    (audit requestId id actor action result detail).All Op.outside :=
  All.bind (outside_ask _ trivial) fun _ => outside_ask _ trivial

theorem outside_reportOrphans : reportOrphans.All Op.outside := by
  refine All.bind (outside_ask _ trivial) fun rows => All.cond trivial (All.forEach fun db _ => ?_)
  have scanned : (leftoverUsers db).All Op.basic := All.bind (basic_connect db) fun _ => basic_ask _ trivial
  refine (outside_of_basic scanned).attempt.bind fun outcome => ?_
  cases outcome with
  | error exn => trivial
  | ok names =>
    refine All.forEach fun name _ => All.cond trivial (All.bind (outside_ask _ trivial) fun (seen : Bool) => ?_)
    exact All.cond trivial (outside_audit _ _ _ _ _ _)

end calls

/-- Where a thread stands with the locks. It is `lost` where the list of grants in flight or a lock would have raised. -/
inductive Place
  | outside
  | entering (db : DbType) (id : GrantId)
  | inside (db : DbType) (id : GrantId)
  | leaving (db : DbType) (id : GrantId)
  | lost

namespace Place

def acquires : Place → DbType → GrantId → Except Exc Bool → Place
  | outside, db, id, .ok true => entering db id
  | q, _, _, _ => q

def passes : Place → Except Exc Unit → Place
  | entering db id, .ok () => inside db id
  | inside db id, .ok () => leaving db id
  | leaving _ _, .ok () => outside
  | _, _ => lost

def after (q : Place) : (op : Op) → Except Exc (Ans op) → Place
  | .lockAcquire db id _, answer => q.acquires db id answer
  | .inflightAdd _, answer | .inflightDiscard _, answer | .lockRelease _, answer => q.passes answer
  | _, _ => q

/-- The call has its place. -/
def allows : Place → Op → Prop
  | lost, _ => True
  | outside, .lockAcquire .. => True
  | outside, op => op.outside
  | entering _ id, op => op = .inflightAdd id
  | inside _ id, op => op = .inflightDiscard id ∨ op.inside id
  | leaving db _, op => op = .lockRelease db

def Over (q : Place) : Prop := q = outside ∨ q = lost

end Place

/-- One lock at a time, held for one grant: it is taken by a thread that has none, then the grant is in flight, then its
row may be written, and everything is undone in the opposite order. -/
def lockKeeping : Protocol calls Exc Place where
  allows := Place.allows
  after := Place.after

def Bracketed {α : Type} (p : Portal α) : Prop := p.Follows lockKeeping (fun _ => Place.Over) .outside

section follows
variable {α β : Type} {db : DbType} {id : GrantId}

namespace Bracketed

theorem of_lost (p : Portal α) : p.Follows lockKeeping (fun _ => Place.Over) .lost := by
  refine (Follows.of_all (all_calls p) fun op _ => ⟨trivial, fun answer => ?_⟩).mono fun _ _ same => Or.inr same
  cases op <;> rfl

theorem of_all {p : Portal α} (all : p.All Op.outside) : Bracketed p := by
  refine (Follows.of_all all fun op outside => ?_).mono fun _ _ same => Or.inl same
  cases op
  case lockAcquire | lockRelease | inflightAdd | inflightDiscard | insertGrant | updateGrant => exact outside.elim
  all_goals exact ⟨trivial, fun _ => rfl⟩

theorem ret (value : α) : Bracketed (.ret value) := Or.inl rfl

theorem raise (exn : Exc) : Bracketed (.raise exn : Portal α) := Or.inl rfl

theorem bind {p : Portal α} {f : α → Portal β} (first : Bracketed p) (rest : ∀ value, Bracketed (f value)) :
    Bracketed (p.bind f) := by
  refine Follows.bind (first.mono fun outcome r past => ?_)
  cases outcome with
  | error exn => exact past
  | ok value =>
    rcases past with rfl | rfl
    · exact rest value
    · exact of_lost _

theorem onError {p : Portal α} {handler : Exc → Portal α} (first : Bracketed p)
    (handled : ∀ exn, Bracketed (handler exn)) : Bracketed (p.onError handler) := by
  refine Follows.onError (first.mono fun outcome r past => ?_)
  cases outcome with
  | ok value => exact past
  | error exn =>
    rcases past with rfl | rfl
    · exact handled exn
    · exact of_lost _

theorem forEach {xs : List α} {f : α → Portal Unit} (round : ∀ x, Bracketed (f x)) :
    Bracketed (Interaction.Prog.forEach xs f) := by
  induction xs with
  | nil => exact ret ()
  | cons x xs ih => exact (round x).bind fun _ => ih

/-- What is done for a grant between `_begin` and `_end`. -/
theorem locked {p : Portal α} (caller : Caller) (all : p.All (Op.inside id)) :
    Bracketed ((begin_ db id caller).bind fun _ => p.finally_ (end_ db id)) := by
  have within : p.Follows lockKeeping (fun _ r => r = .inside db id) (.inside db id) := by
    refine Follows.of_all all fun op inside => ⟨Or.inr inside, ?_⟩
    cases op
    case lockAcquire | lockRelease | inflightAdd | inflightDiscard => exact inside.elim
    all_goals exact fun _ => rfl
  have ended : p.finally_ (end_ db id) |>.Follows lockKeeping (fun _ => Place.Over) (.inside db id) := by
    refine Follows.finally_ (within.mono fun outcome r same => ?_)
    subst same
    refine Follows.bind (Follows.perform (Or.inl rfl) fun answer => ?_)
    cases answer with
    | error exn => exact Or.inr rfl
    | ok _ =>
      refine Follows.perform rfl fun answer => ?_
      cases answer with
      | error exn => exact Or.inr rfl
      | ok _ => exact Or.inl rfl
  refine Follows.bind (Follows.bind (Follows.perform trivial fun answer => ?_))
  cases answer with
  | error exn => exact Or.inl rfl
  | ok acquired =>
    cases acquired with
    | false => exact Or.inl rfl
    | true =>
      refine Follows.perform rfl fun answer => ?_
      cases answer with
      | error exn => exact Or.inr rfl
      | ok _ => exact ended

theorem ask (op : Op) (outside : op.outside) : Bracketed (ask op) := of_all (outside_ask op outside)

theorem publicGrant (id : GrantId) : Bracketed (publicGrant id) := by
  refine (ask (.getGrant id) trivial).bind fun (row : Option Grant) => ?_
  cases row with
  | none => exact raise _
  | some g => exact ret _

theorem issue (cfg : Config) (req : GrantRequest) (actor requestId : String) :
    Bracketed (issue cfg req actor requestId) := by
  refine (of_all (All.ofExcept _)).bind fun _ => (of_all (outside_of_basic (basic_catalog _))).bind fun cat => ?_
  refine (of_all (All.ofExcept _)).bind fun statements => Bracketed.bind ?_ fun creation => ?_
  · unfold mutateStatements
    split
    · refine (ask .bogusArmed trivial).bind fun (armed : Bool) => ?_
      cases armed <;> exact ret _
    · exact ret _
  · refine ((ask (.tokenHex 5) trivial).bind fun _ => ret _).bind fun id => ?_
    have steps := (@locked _ req.dbType id _ .issue (inside_issueLocked req actor requestId id creation statements.2)).bind
      fun creds => (publicGrant id).bind fun g => ret (Issued.mk g creds.password)
    rw [Interaction.Prog.bind_assoc] at steps
    exact steps

theorem revoke (id : GrantId) (actor requestId : String) : Bracketed (revoke id actor requestId) := by
  refine (ask (.getGrant id) trivial).bind fun (row : Option Grant) => ?_
  cases row with
  | none => exact raise _
  | some g =>
    dsimp only [revokeRow]
    split
    · exact ret _
    · have steps := (@locked _ g.dbType id _ (.revoke actor g) (inside_revokeLocked id actor requestId)).bind
        fun _ => publicGrant id
      rw [Interaction.Prog.bind_assoc] at steps
      exact steps

theorem reconcileOne (id : GrantId) : Bracketed (reconcileOne id) := by
  refine (ask (.getGrant id) trivial).bind fun (row : Option Grant) => ?_
  cases row with
  | none => exact ret _
  | some g => exact locked .reconcile (inside_reconcileLocked id)

theorem reconcileRow (now : Time) (g : Grant) : Bracketed (reconcileRow now g) := by
  refine (ask (.inflightHas g.id) trivial).bind fun (busy : Bool) => ?_
  cases busy with
  | true => exact ret _
  | false =>
    cases due : finalFor g now with
    | none =>
      simp only [Bool.false_eq_true, if_false]
      exact ret _
    | some final =>
      simp only [Bool.false_eq_true, if_false]
      exact (reconcileOne g.id).onError fun _ => ret _

theorem reconcileOnce : Bracketed reconcileOnce := by
  refine (ask .now trivial).bind fun now => (ask (.listByStatus _) trivial).bind fun rows => ?_
  refine (forEach fun (g : Grant) => reconcileRow now g).bind fun _ => ?_
  refine ((ask .now trivial).bind fun time => ask (.purgeSessions time) trivial).bind fun (purged : List Session) => ?_
  refine (forEach fun (session : Session) => (ask (.revokeSelf _) trivial).onError fun _ => ret _).bind fun _ => ?_
  exact of_all outside_reportOrphans

theorem entry (cfg : Config) (entry : Entry) : Bracketed (entry.code cfg) := by
  cases entry with
  | issue req actor requestId => exact (issue cfg req actor requestId).bind fun _ => ask (.respond _) trivial
  | revoke id actor requestId => exact (revoke id actor requestId).bind fun _ => ret _
  | reconcile => exact reconcileOnce

end Bracketed
end follows

/-- The thread has the lock of the database, for the grant. -/
def World.Locked (w : World) (t : Nat) (db : DbType) (id : GrantId) : Prop := ∃ caller, w.locks db = some ⟨t, id, caller⟩

/-- What the thread has in flight is the grant it has a lock for. -/
def World.Flies (w : World) (t : Nat) (id : Option GrantId) : Prop := ∀ other, (t, other) ∈ w.inflight → id = some other

/-- What a place means in the world. -/
def Place.Agrees (t : Nat) (w : World) : Place → Prop
  | outside => (∀ db h, w.locks db = some h → h.thread ≠ t) ∧ w.Flies t none
  | entering db id | leaving db id => w.Locked t db id ∧ w.Flies t none
  | inside db id => w.Locked t db id ∧ w.Flies t (some id)
  | lost => False

section tracks
variable {cfg : Config} {ok : System → Move → Prop} {s s' : System} {t u : Nat} {op : Op} {c : Choice} {v w : World}
  {q : Place} {db : DbType} {id : GrantId}

theorem World.Flies.less {other : Option GrantId} (flies : v.Flies t other)
    (less : ∀ id, (t, id) ∈ w.inflight → (t, id) ∈ v.inflight) : w.Flies t other :=
  fun id member => flies id (less id member)

/-- The locks of a thread stay, and no grant is put in flight under its name. -/
theorem Place.Agrees.same (agrees : q.Agrees t v) (locks : ∀ db h, h.thread = t → (w.locks db = some h ↔ v.locks db = some h))
    (less : ∀ id, (t, id) ∈ w.inflight → (t, id) ∈ v.inflight) : q.Agrees t w := by
  have locked {db : DbType} {id : GrantId} (locked : v.Locked t db id) : w.Locked t db id := by
    obtain ⟨caller, lock⟩ := locked
    exact ⟨caller, (locks db _ rfl).mpr lock⟩
  cases q with
  | outside =>
    refine ⟨fun db h lock same => ?_, agrees.2.less less⟩
    exact agrees.1 db h ((locks db h same).mp lock) same
  | entering db id | leaving db id | inside db id => exact ⟨locked agrees.1, agrees.2.less less⟩
  | lost => exact agrees

/-- A call that takes and returns no lock and puts no grant in flight. -/
def Op.unbarred : Op → Prop
  | .lockAcquire .. | .lockRelease _ | .inflightAdd _ | .inflightDiscard _ => False
  | _ => True

theorem effect_unbarred (unbarred : op.unbarred) (w : World) (t : Nat) (c : Choice) :
    (w.effect t c op).locks = w.locks ∧ (w.effect t c op).inflight = w.inflight := by
  cases op
  case lockAcquire | lockRelease | inflightAdd | inflightDiscard => exact unbarred.elim
  case mark m => cases m <;> exact ⟨rfl, rfl⟩
  case updateGrant now id fields =>
    have same := @World.updated_eq t id w now fields
    exact ⟨same.2.2.1, same.2.2.2.2.2.2.2.1⟩
  case runStatement db text account =>
    rw [World.effect]
    cases ran : w.statement db text account c.count with
    | none => exact ⟨rfl, rfl⟩
    | some w' =>
      have frame : Frame {} w w' := World.statement_frame ran
      exact ⟨frame.locks, frame.inflight⟩
  all_goals exact ⟨rfl, rfl⟩

/-- A call moves the thread in its protocol and in the world alike. -/
theorem Place.Agrees.own {answer : Except Exc (Ans op)} (inv : Inv {} v) (agrees : q.Agrees t v) (allowed : q.allows op)
    (executed : exec t op c v = some (answer, w)) : (q.after op answer).Agrees t w := by
  by_cases unbarred : op.unbarred
  · have still : q.after op answer = q := by
      cases op
      case lockAcquire | lockRelease | inflightAdd | inflightDiscard => exact unbarred.elim
      all_goals rfl
    rw [still]
    rcases exec_effect executed with rfl | ⟨rfl, -⟩
    · exact agrees
    · obtain ⟨locks, inflight⟩ := effect_unbarred unbarred v t c
      exact agrees.same (fun db h _ => by rw [locks]) fun id member => by rwa [inflight] at member
  · cases q with
    | outside =>
      obtain ⟨free, flies⟩ := agrees
      cases op
      case lockAcquire db id caller =>
        simp only [exec] at executed
        split at executed
        · cases executed
          exact ⟨⟨caller, Function.update_self ..⟩, flies⟩
        · split at executed <;> cases executed
          exact ⟨free, flies⟩
      case lockRelease | inflightAdd | inflightDiscard => exact allowed.elim
      all_goals exact absurd trivial unbarred
    | entering db id =>
      obtain ⟨locked, flies⟩ := agrees
      have same : op = .inflightAdd id := allowed
      subst same
      cases executed
      refine ⟨locked, fun entry member => ?_⟩
      rcases List.mem_cons.mp member with new | old
      · cases new
        rfl
      · cases flies entry old
    | inside db id =>
      obtain ⟨locked, flies⟩ := agrees
      rcases allowed with rfl | inside
      · cases executed
        refine ⟨locked, fun entry member => ?_⟩
        obtain ⟨old, differs⟩ := List.mem_filter.mp member
        cases flies entry old
        simp at differs
      · cases op
        case lockAcquire | lockRelease | inflightAdd | inflightDiscard => exact inside.elim
        all_goals exact absurd trivial unbarred
    | leaving db id =>
      obtain ⟨⟨caller, lock⟩, flies⟩ := agrees
      have same : op = .lockRelease db := allowed
      subst same
      cases executed
      refine ⟨fun db' h lock' same => ?_, flies⟩
      obtain ⟨differs, lock'⟩ := World.released_locks.mp lock'
      exact differs (inv.single _ _ _ _ lock' lock same)
    | lost => exact agrees.elim

/-- The threads of a run keep to the protocol, and the others leave their locks alone. -/
theorem lockKeeping_heeds (cfg : Config) : Protocol.Heeds (fun _ => lockKeeping) machine (fun _ => Entry.code cfg)
    (fun s label => ok s label ∧ System.Run cfg ok s) (fun t q w => q.Agrees t w) .outside Place.Over where
  own allowed _ agrees keeps executed := agrees.own allowed.2.inv keeps executed
  others {s s' t u choice q} other allowed moved agrees := by
    rcases allowed.2.any.guar Terms.silent (.of_run Terms.none_loose s t choice) moved with same | guar
    · rw [same]
      exact agrees
    · have rely := guar.rely other allowed.2.inv
      exact agrees.same rely.locks rely.inflight
  env {s event w t q} allowed happened agrees := by
    have rely := (Event.env allowed.2.inv (EventOk.any event s.world) happened).2 t
    exact agrees.same rely.locks rely.inflight
  reset t v := ⟨fun db h lock => (by cases lock), fun id member => (by cases member)⟩
  entry t entry := Bracketed.entry cfg entry

theorem System.Run.placed (run : System.Run cfg ok s) :
    Protocol.Kept (fun _ => lockKeeping) (fun t q w => Place.Agrees t w q) .outside Place.Over s := by
  refine (lockKeeping_heeds cfg).kept ⟨fun t _ => ⟨fun db h lock => ?_, fun id member => ?_⟩, fun t p at_t => ?_⟩ run.along
  · cases lock
  · cases member
  · cases at_t

/-- Where the locks of a thread are with a call it is about to make. -/
def World.Guards (w : World) (t : Nat) : Op → Prop
  | .lockAcquire .. | .inflightHas _ => ∀ db h, w.locks db = some h → h.thread ≠ t
  | .lockRelease db => ∃ id, w.Locked t db id
  | .inflightAdd id | .inflightDiscard id | .updateGrant _ id _ => ∃ db, w.Locked t db id
  | .insertGrant _ g => ∃ db, w.Locked t db g.id
  | _ => True

theorem Place.Agrees.guards (agrees : q.Agrees t w) (allowed : q.allows op) : w.Guards t op := by
  cases q with
  | outside =>
    cases op
    case lockAcquire | inflightHas => exact agrees.1
    case lockRelease | inflightAdd | inflightDiscard | insertGrant | updateGrant => exact allowed.elim
    all_goals trivial
  | entering db id =>
    have same : op = .inflightAdd id := allowed
    subst same
    exact ⟨db, agrees.1⟩
  | inside db id =>
    rcases allowed with rfl | inside
    · exact ⟨db, agrees.1⟩
    · cases op
      case updateGrant now other fields =>
        have same : other = id := inside
        exact ⟨db, same ▸ agrees.1⟩
      case insertGrant now g =>
        have same : g.id = id := inside
        exact ⟨db, same ▸ agrees.1⟩
      case lockAcquire | inflightHas | lockRelease | inflightAdd | inflightDiscard => exact inside.elim
      all_goals trivial
  | leaving db id =>
    have same : op = .lockRelease db := allowed
    subst same
    exact ⟨id, agrees.1⟩
  | lost => exact agrees.elim

theorem Place.Agrees.flying (agrees : q.Agrees t w) (member : (t, id) ∈ w.inflight) : ∃ db, w.Locked t db id := by
  cases q with
  | outside | entering db other | leaving db other => cases agrees.2 id member
  | inside db other =>
    cases agrees.2 id member
    exact ⟨db, agrees.1⟩
  | lost => exact agrees.elim

/-- The thread has ended, or was not started. -/
def System.Ended (s : System) (t : Nat) : Prop := ∀ p, s.threads t = some p → p = .ret () ∨ ∃ exn, p = .raise exn

theorem System.Run.ended_free (run : System.Run cfg ok s) (ended : s.Ended t) {h : Holder}
    (lock : s.world.locks db = some h) : h.thread ≠ t := by
  cases at_t : s.threads t with
  | none => exact (run.placed.idle t at_t).1 db h lock
  | some p =>
    obtain ⟨q, follows, agrees⟩ := run.placed.threads t p at_t
    have past : q.Over := by
      rcases ended p at_t with rfl | ⟨exn, rfl⟩
      · exact follows
      · exact follows
    rcases past with rfl | rfl
    · exact agrees.1 db h lock
    · exact agrees.elim

theorem System.Run.guards (run : System.Run cfg ok s) {next : Except Exc (Ans op) → Portal Unit}
    (at_t : s.threads t = some (.call op next)) : s.world.Guards t op := by
  obtain ⟨q, ⟨allowed, -⟩, agrees⟩ := run.placed.threads t _ at_t
  exact agrees.guards allowed

/-- A thread that is about to take a lock has none, one that is about to return a lock has it, rows are written and
grants are in flight under the lock, and a thread that has ended has no lock. -/
theorem System.Run.lock_discipline (run : System.Run cfg ok s) :
    (∀ t op next, s.threads t = some (.call op next) → s.world.Guards t op) ∧
    (∀ t id, (t, id) ∈ s.world.inflight → ∃ db, s.world.Locked t db id) ∧
    ∀ t, s.Ended t → ∀ db h, s.world.locks db = some h → h.thread ≠ t := by
  refine ⟨fun t op next at_t => run.guards at_t, fun t id member => ?_, fun t ended db h lock => run.ended_free ended lock⟩
  cases at_t : s.threads t with
  | none => exact (run.placed.idle t at_t).flying member
  | some p =>
    obtain ⟨q, -, agrees⟩ := run.placed.threads t p at_t
    exact agrees.flying member

/-- Every call but the wait for a lock can return at once. -/
theorem exec_returns (t : Nat) (op : Op) (w : World)
    (unlocked : ∀ db id caller, op = .lockAcquire db id caller → w.locks db = none) :
    ∃ choice result, choice.flag = false ∧ exec t op choice w = some result := by
  let exn : Exc := ⟨.vaultUnavailable, ""⟩
  have refused {α : Type} {honest : World → Exc → Bool} (fair : honest w exn = true) :
      refuse (α := α) { fate := .fail exn } honest w = some (.error exn, w) := if_pos fair
  have possibly {α : Type} {possible : Bool} {honest : World → Exc → Bool} {v : World} {answer : α}
      (fair : honest w exn = true) :
      settleIf possible { fate := .fail exn } honest w v answer = some (.error exn, w) := by
    cases possible with
    | true => exact if_pos fair
    | false => exact refused fair
  cases op
  case tokenHex n =>
    have fits : (List.replicate (2 * n) '0').length = 2 * n ∧
        ∀ d ∈ List.replicate (2 * n) '0', d ∈ "0123456789abcdef".toList :=
      ⟨List.length_replicate, fun d member => by rw [List.eq_of_mem_replicate member]; decide⟩
    exact ⟨{ chars := List.replicate (2 * n) '0' }, _, rfl, dif_pos fits⟩
  case setOrder xs => exact ⟨{ names := xs }, _, rfl, if_pos (List.isPerm_iff.mpr (List.Perm.refl xs))⟩
  case lockAcquire db id caller =>
    refine ⟨{}, (.ok true, w.acquired t db id caller), rfl, ?_⟩
    simp only [exec, unlocked db id caller rfl]
    rfl
  case slotAcquire kind =>
    simp only [exec]
    split
    · exact ⟨{}, _, rfl, rfl⟩
    · exact ⟨{}, _, rfl, rfl⟩
  case now | sleep | tokenUrlsafe | bogusArmed | mark | lockRelease | inflightAdd | inflightDiscard | inflightHas
    | slotRelease | respond => exact ⟨{}, _, rfl, rfl⟩
  all_goals refine ⟨{ fate := .fail exn }, (.error exn, w), rfl, ?_⟩
  case insertGrant | createToken | credsClose | accountsWithPrefix => exact possibly rfl
  case lookupAccessor | leaseFind | runStatement =>
    simp only [exec]
    split
    · rfl
    · rfl
  case listAccessors | listLeases => exact possibly rfl
  case credsOpen =>
    simp only [exec]
    split
    · exact possibly rfl
    · rfl
  all_goals rfl

/-- The thread can go on at once. -/
def System.GoesOn (cfg : Config) (s : System) (t : Nat) : Prop :=
  ∃ choice s', choice.flag = false ∧ s.move cfg (.run t choice) = some s'

/-- The thread waits for a lock that the other thread has. -/
def System.WaitsFor (s : System) (t u : Nat) : Prop :=
  ∃ db id caller next h, s.threads t = some (.call (.lockAcquire db id caller) next) ∧
    s.world.locks db = some h ∧ h.thread = u

theorem System.goesOn_or_waits (alive : ¬s.Ended t) : s.GoesOn cfg t ∨ ∃ u, s.WaitsFor t u := by
  cases at_t : s.threads t with
  | none => exact absurd (fun p at_p => (by rw [at_t] at at_p; cases at_p)) alive
  | some p =>
    cases p with
    | ret value => exact absurd (fun p at_p => (by rw [at_t] at at_p; cases at_p; exact Or.inl rfl)) alive
    | raise exn => exact absurd (fun p at_p => (by rw [at_t] at at_p; cases at_p; exact Or.inr ⟨exn, rfl⟩)) alive
    | iter body next =>
      refine Or.inl ⟨{}, ⟨s.world, s.setThread t (body.bind (.again body next))⟩, rfl, ?_⟩
      rw [System.move, Pool.step, at_t]
      rfl
    | call op next =>
      by_cases unlocked : ∀ db id caller, op = .lockAcquire db id caller → s.world.locks db = none
      · obtain ⟨choice, ⟨answer, w⟩, calm, executed⟩ := exec_returns t op s.world unlocked
        have advanced : Interaction.Prog.advance machine t choice (.call op next) s.world = some (next answer, w) := by
          rw [Interaction.Prog.advance]
          exact congrArg (Option.map _) executed
        refine Or.inl ⟨choice, ⟨w, s.setThread t (next answer)⟩, calm, ?_⟩
        rw [System.move, Pool.step, at_t]
        simp only [advanced, Option.map_some]
      · simp only [not_forall] at unlocked
        obtain ⟨db, id, caller, rfl, held⟩ := unlocked
        obtain ⟨h, lock⟩ := Option.ne_none_iff_exists'.mp held
        exact Or.inr ⟨h.thread, db, id, caller, next, h, at_t, lock, rfl⟩

/-- A thread that has not ended can go on, or it waits for a lock of a thread that can go on: the calls of the portal
never block one another for good. -/
theorem System.Run.deadlock_free (run : System.Run cfg ok s) (alive : ¬s.Ended t) :
    s.GoesOn cfg t ∨ ∃ u, s.WaitsFor t u ∧ s.GoesOn cfg u := by
  rcases @System.goesOn_or_waits cfg s t alive with goes | ⟨u, waits⟩
  · exact Or.inl goes
  · refine Or.inr ⟨u, waits, (System.goesOn_or_waits ?_).resolve_right ?_⟩
    all_goals obtain ⟨db, id, caller, next, h, at_t, lock, rfl⟩ := waits
    · exact fun ended => run.ended_free ended lock rfl
    · rintro ⟨u, db', id', caller', next', h', at_h, -⟩
      exact run.guards at_h db h lock rfl

end tracks

set_option maxRecDepth 100000 in
theorem tearingState_flying : (1, someId) ∈ tearingState.world.inflight := by decide

theorem tearingState_locked : ∃ db, tearingState.world.Locked 1 db someId :=
  tearingState_run.lock_discipline.2.1 1 someId tearingState_flying

/-- Another revocation of the grant whose account is being dropped. -/
def waitingState : System := tearingState.staged someConfig [.starts 2 (.revoke someId "admin" "3"), .goes 2 30]

theorem waitingState_run : System.Run someConfig (fun _ _ => True) waitingState :=
  System.Later.staged (fun _ _ _ => trivial) _ tearingState_run

/-- The thread is about to take a lock. -/
def System.acquiring (s : System) (t : Nat) : Bool :=
  match s.threads t with
  | some (.call (.lockAcquire ..) _) => true
  | _ => false

set_option maxRecDepth 100000 in
theorem waitingState_acquiring : waitingState.acquiring 2 = true := by decide

theorem waitingState_goes : waitingState.GoesOn someConfig 2 ∨
    ∃ u, waitingState.WaitsFor 2 u ∧ waitingState.GoesOn someConfig u := by
  refine waitingState_run.deadlock_free fun ended => ?_
  have acquiring := waitingState_acquiring
  unfold System.acquiring at acquiring
  cases at_2 : waitingState.threads 2 with
  | none => rw [at_2] at acquiring; cases acquiring
  | some p =>
    rw [at_2] at acquiring
    rcases ended p at_2 with rfl | ⟨exn, rfl⟩
    · cases acquiring
    · cases acquiring

end Vdba
