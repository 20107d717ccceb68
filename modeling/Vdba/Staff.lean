import Vdba.Exclusion
import Vdba.Interaction.Staff

namespace Vdba
open Interaction (Pool)
open Interaction.Prog (All)

/-- As what a program takes locks. -/
def Entry.Calls : Entry → Caller → Prop
  | .issue .., caller => caller = .issue
  | .revoke _ actor _, caller => ∃ read, caller = .revoke actor read
  | .reconcile, caller => caller = .reconcile

/-- If the call takes a lock, it does so as the program may. -/
def Entry.Takes (entry : Entry) : Op → Prop
  | .lockAcquire _ _ caller => entry.Calls caller
  | _ => True

theorem Entry.issue_of_calls {entry : Entry} (calls : entry.Calls .issue) :
    ∃ req actor requestId, entry = .issue req actor requestId := by
  cases entry with
  | issue req actor requestId => exact ⟨req, actor, requestId, rfl⟩
  | revoke id actor requestId =>
    obtain ⟨read, same⟩ := calls
    cases same
  | reconcile => cases calls

theorem Entry.reconcile_of_calls {entry : Entry} (calls : entry.Calls .reconcile) : entry = .reconcile := by
  cases entry with
  | issue req actor requestId => cases calls
  | revoke id actor requestId =>
    obtain ⟨read, same⟩ := calls
    cases same
  | reconcile => rfl

section programs
variable {entry : Entry} {α : Type} {p : Portal α} {db : DbType} {id : GrantId}

theorem takes_of_inside (all : p.All (Op.inside id)) : p.All entry.Takes := by
  refine all.mono fun op inside => ?_
  cases op
  case lockAcquire => exact inside.elim
  all_goals trivial

theorem takes_of_outside (all : p.All Op.outside) : p.All entry.Takes := by
  refine all.mono fun op outside => ?_
  cases op
  case lockAcquire => exact outside.elim
  all_goals trivial

theorem takes_ask (op : Op) (takes : entry.Takes op) : (ask op).All entry.Takes := All.perform takes

theorem takes_begin {caller : Caller} (calls : entry.Calls caller) : (begin_ db id caller).All entry.Takes :=
  All.bind (takes_ask _ calls) fun (_ : Bool) => All.cond (takes_ask _ trivial) trivial

theorem takes_section (all : p.All (Op.inside id)) : (p.finally_ (end_ db id)).All entry.Takes :=
  All.finally_ (takes_of_inside all) (All.bind (takes_ask _ trivial) fun _ => takes_ask _ trivial)

theorem takes_publicGrant (id : GrantId) : (publicGrant id).All entry.Takes := by
  refine All.bind (takes_ask _ trivial) fun (row : Option Grant) => ?_
  cases row <;> trivial

theorem takes_issue (cfg : Config) (req : GrantRequest) (actor requestId : String) (calls : entry.Calls .issue) :
    (issue cfg req actor requestId).All entry.Takes := by
  refine All.bind (All.ofExcept _) fun _ => All.bind (takes_of_outside (outside_of_basic (basic_catalog _))) fun cat => ?_
  refine All.bind (All.ofExcept _) fun statements => All.bind ?_ fun creation => ?_
  · unfold mutateStatements
    split
    · exact All.bind (takes_ask _ trivial) fun (armed : Bool) => All.cond trivial trivial
    · trivial
  · refine All.bind (All.bind (takes_ask _ trivial) fun _ => trivial) fun id => All.bind (takes_begin calls) fun _ => ?_
    exact All.bind (takes_section (inside_issueLocked _ _ _ _ _ _)) fun creds =>
      All.bind (takes_publicGrant id) fun _ => trivial

theorem takes_revoke (id : GrantId) (actor requestId : String) (calls : ∀ read, entry.Calls (.revoke actor read)) :
    (revoke id actor requestId).All entry.Takes := by
  refine All.bind (takes_ask _ trivial) fun (row : Option Grant) => ?_
  cases row with
  | none => trivial
  | some g =>
    rw [revokeRow]
    split
    · trivial
    · exact All.bind (takes_begin (calls g)) fun _ =>
        All.bind (takes_section (inside_revokeLocked _ _ _)) fun _ => takes_publicGrant id

theorem takes_reconcileOne (id : GrantId) (calls : entry.Calls .reconcile) : (reconcileOne id).All entry.Takes := by
  refine All.bind (takes_ask _ trivial) fun (row : Option Grant) => ?_
  cases row with
  | none => trivial
  | some g => exact All.bind (takes_begin calls) fun _ => takes_section (inside_reconcileLocked id)

theorem takes_reconcileOnce (calls : entry.Calls .reconcile) : reconcileOnce.All entry.Takes := by
  refine All.bind (takes_ask _ trivial) fun now => All.bind (takes_ask _ trivial) fun (rows : List Grant) => ?_
  refine All.bind (All.forEach fun g _ => All.bind (takes_ask _ trivial) fun (busy : Bool) => All.cond trivial ?_) fun _ => ?_
  · split
    · trivial
    · exact All.onError (takes_reconcileOne g.id calls) fun _ => trivial
  · refine All.bind (All.bind (takes_ask _ trivial) fun _ => takes_ask _ trivial) fun (purged : List Session) => ?_
    refine All.bind (All.forEach fun session _ => All.onError (takes_ask _ trivial) fun _ => trivial) fun _ => ?_
    exact takes_of_outside outside_reportOrphans

/-- Every program takes its locks as what it is. -/
theorem Entry.takes (cfg : Config) (entry : Entry) : (entry.code cfg).All entry.Takes := by
  cases entry with
  | issue req actor requestId => exact All.bind (takes_issue cfg req actor requestId rfl) fun _ => takes_ask _ trivial
  | revoke id actor requestId => exact All.bind (takes_revoke id actor requestId fun read => ⟨read, rfl⟩) fun _ => trivial
  | reconcile => exact takes_reconcileOnce rfl

end programs

/-- The runs, with the programs that their threads were started with. -/
abbrev System.Staffed (cfg : Config) (ok : System → Move → Prop) : (Nat → Option Entry) → System → Prop :=
  Pool.Staffed machine (fun _ => Entry.code cfg) ok World.initial

section holders
variable {cfg : Config} {ok : System → Move → Prop} {staff : Nat → Option Entry} {s : System}

/-- A lock that is held after a call was held before it, or the call has taken it. -/
theorem exec_locks {t : Nat} {op : Op} {c : Choice} {v w : World} {answer : Except Exc (Ans op)} {db : DbType}
    {h : Holder} (executed : exec t op c v = some (answer, w)) (lock : w.locks db = some h) :
    v.locks db = some h ∨ ∃ caller, op = .lockAcquire db h.grant caller ∧ h = ⟨t, h.grant, caller⟩ := by
  by_cases unbarred : op.unbarred
  · rcases exec_effect executed with rfl | ⟨rfl, -⟩
    · exact Or.inl lock
    · rw [(effect_unbarred unbarred v t c).1] at lock
      exact Or.inl lock
  · cases op
    case lockAcquire db' id caller =>
      simp only [exec] at executed
      split at executed
      · cases executed
        rcases World.acquired_locks.mp lock with ⟨rfl, rfl⟩ | ⟨-, old⟩
        · exact Or.inr ⟨caller, rfl, rfl⟩
        · exact Or.inl old
      · split at executed <;> cases executed
        exact Or.inl lock
    case lockRelease db' =>
      cases executed
      exact Or.inl (World.released_locks.mp lock).2
    case inflightAdd | inflightDiscard =>
      cases executed
      exact Or.inl lock
    all_goals exact absurd trivial unbarred

/-- Who holds a lock is at work on a program that takes it so. -/
theorem System.Staffed.caller (staffed : System.Staffed cfg ok staff s) {db : DbType} {h : Holder}
    (lock : s.world.locks db = some h) : ∃ entry, staff h.thread = some entry ∧ entry.Calls h.caller := by
  induction staffed with
  | start => cases lock
  | @next staff s label s' before _ moved ih =>
    have at_work (t : Nat) := before.all (fun _ entry => Entry.takes cfg entry) t
    rcases System.move_world moved with same | ⟨t, choice, op, next, answer, rfl, at_t, executed⟩ |
      ⟨event, rfl, happened⟩ | ⟨-, same⟩
    · have old : s.world.locks db = some h := by rw [← same, lock]
      obtain ⟨entry, named, calls⟩ := ih old
      refine ⟨entry, ?_, calls⟩
      cases label with
      | run | env => exact named
      | kill =>
        cases moved
        cases lock
      | spawn u name =>
        have differs : h.thread ≠ u := by
          rintro rfl
          rcases at_work h.thread with ⟨-, unnamed⟩ | ⟨_, p, at_u, -⟩
          · rw [named] at unnamed
            cases unnamed
          · simp only [Pool.step, at_u] at moved
            cases moved
        rw [Interaction.Label.staffs, Function.update_of_ne differs]
        exact named
    · rcases exec_locks executed lock with old | ⟨caller, rfl, own⟩
      · exact ih old
      · rcases at_work t with ⟨absent, -⟩ | ⟨entry, p, at_t', named, all⟩
        · rw [absent] at at_t
          cases at_t
        · rw [at_t] at at_t'
          cases at_t'
          rw [own]
          exact ⟨entry, named, all.1⟩
    · rw [(happen_calm happened).locks] at lock
      exact ih lock
    · rw [same] at lock
      cases lock

end holders
end Vdba
