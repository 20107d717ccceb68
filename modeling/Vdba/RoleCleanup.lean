import Vdba.AccountNames
import Vdba.Interaction.Path

namespace Vdba.Maintenance
open Interaction (Iface Prog Exchange weight weight_zero)
open Interaction.Prog (Path Runs Costs)

/-- The steps of the maintenance functions. -/
inductive Op
  | roleExists (name : String)
  | setLockTimeout
  | alterNologin (name : String)
  | alterValidUntil (name time : String)
  | terminate (name : String)
  | clearSnapshot
  | countBackends (name : String)
  | sleep
  | dropOwned (name : String)
  | dropRole (name : String)
  deriving DecidableEq

def Ans : Op → Type
  | .roleExists _ => Bool
  | .countBackends _ => Nat
  | _ => Unit

abbrev steps : Iface := ⟨Op, Ans⟩

/-- A PL/pgSQL function; its exceptions are known by their messages. -/
abbrev Function := Prog steps String

abbrev ask (op : Op) : Function (Ans op) := @Prog.perform steps String op

abbrev Trace := List (Exchange steps String)

instance (name : String) : Decidable (roleGuard.Found name.toList) := decidable_of_iff _ roleGuard_iff.symm

def refusing (name : String) : String := "refusing to touch role " ++ name

def lockoutRole (name : String) : Function Unit :=
  if ¬roleGuard.Found name.toList then .raise (refusing name)
  else do
    let exists_ : Bool ← ask (.roleExists name)
    if exists_ then do
      ask (.alterNologin name)
      ask (.alterValidUntil name "1970-01-01 00:00:00+00")
    else return ()

/-- The loop of `cleanup_role`, with what `tries` is at its start. -/
def terminateBackends (name : String) (tries : Nat) : Function Unit := do
  ask (.terminate name)
  ask .clearSnapshot
  let n : Nat ← ask (.countBackends name)
  if n = 0 then return ()
  else if tries + 1 > 50 then
    .raise ("backends of " ++ name ++ " still alive after " ++ toString (tries + 1) ++ " attempts")
  else do
    ask .sleep
    terminateBackends name (tries + 1)
termination_by 51 - tries

def cleanupRole (name : String) : Function Unit :=
  if ¬roleGuard.Found name.toList then .raise (refusing name)
  else do
    let exists_ : Bool ← ask (.roleExists name)
    if ¬exists_ then return ()
    else do
      ask .setLockTimeout
      lockoutRole name
      terminateBackends name 0
      ask (.dropOwned name)
      ask (.dropRole name)

/-- A role with what it owns or has been granted, in this database and in others. -/
structure Role where
  login : Bool
  validUntil : String
  privileges : List String
  elsewhere : List String
  deriving DecidableEq

structure Backend where
  pid : Nat
  user : String
  deriving DecidableEq

/-- The catalog as the transaction sees it, the sessions, and what the transaction has read of them. -/
structure State where
  roles : String → Option Role
  backends : List Backend
  snapshot : Option (List Backend)

namespace State

def setRole (s : State) (name : String) (role : Option Role) : State :=
  { s with roles := fun other => if other = name then role else s.roles other }

/-- `pg_stat_activity`, which a transaction reads once until it clears its snapshot. -/
def activity (s : State) : List Backend := s.snapshot.getD s.backends

def looked (s : State) : State := { s with snapshot := some s.activity }

@[simp] theorem setRole_self (s : State) (name : String) (role : Option Role) :
    (s.setRole name role).roles name = role :=
  if_pos rfl

def privileges (s : State) (name : String) : List String :=
  match s.roles name with
  | some role => role.privileges ++ role.elsewhere
  | none => []

end State

/-- The statements that can fail: those that wait for locks, need rights or meet dependencies. -/
def Op.fallible : Op → Bool
  | .alterNologin _ | .alterValidUntil .. | .terminate _ | .dropOwned _ | .dropRole _ => true
  | _ => false

/-- What a step answers and does. A signal may or may not end a backend. -/
inductive Serves : (op : Op) → State → Except String (Ans op) → State → Prop
  | roleExists {s name} : Serves (.roleExists name) s (.ok (s.roles name).isSome) s
  | setLockTimeout {s} : Serves .setLockTimeout s (.ok ()) s
  | alterNologin {s name role} : s.roles name = some role →
      Serves (.alterNologin name) s (.ok ()) (s.setRole name (some { role with login := false }))
  | alterValidUntil {s name time role} : s.roles name = some role →
      Serves (.alterValidUntil name time) s (.ok ()) (s.setRole name (some { role with validUntil := time }))
  | terminate {s name left} : left ⊆ s.backends → (∀ b ∈ s.backends, b ∉ left → b ∈ s.activity ∧ b.user = name) →
      Serves (.terminate name) s (.ok ()) { s.looked with backends := left }
  | clearSnapshot {s} : Serves .clearSnapshot s (.ok ()) { s with snapshot := none }
  | countBackends {s name} :
      Serves (.countBackends name) s (.ok (s.activity.filter (·.user = name)).length) s.looked
  | sleep {s} : Serves .sleep s (.ok ()) s
  | dropOwned {s name role} : s.roles name = some role →
      Serves (.dropOwned name) s (.ok ()) (s.setRole name (some { role with privileges := [] }))
  | dropRole {s name role} : s.roles name = some role → role.privileges = [] → role.elsewhere = [] →
      Serves (.dropRole name) s (.ok ()) (s.setRole name none)
  | dropMissing {s name} : s.roles name = none → Serves (.dropRole name) s (.ok ()) s
  | fails {op s exn} : op.fallible = true → Serves op s (.error exn) s

/-- Between two steps sessions end and new ones start. -/
structure Around (s s' : State) : Prop where
  roles : s'.roles = s.roles
  snapshot : s'.snapshot = s.snapshot

inductive Happens : State → Trace → State → Prop
  | done {s s'} : Around s s' → Happens s [] s'
  | next {s before after s' op answer trace} : Around s before → Serves op before answer after →
      Happens after trace s' → Happens s (⟨op, answer⟩ :: trace) s'

/-- A call in a transaction of its own, which an exception rolls back. -/
def Called (name : String) (s : State) (trace : Trace) (outcome : Except String Unit) (s' : State) : Prop :=
  (cleanupRole name).Runs trace outcome ∧ ∃ inside, Happens { s with snapshot := none } trace inside ∧
    s' = match outcome with
      | .ok () => inside
      | .error _ => { inside with roles := s.roles }

def Op.pass : Op → Nat
  | .terminate _ => 1
  | _ => 0

/-- The passes of the loop that have begun. -/
def passes (trace : Trace) : Nat := weight Op.pass trace

section costs
variable {name : String} (cost : Op → Nat)

/-- The price of a round of the loop. -/
def roundCost (name : String) : Nat :=
  cost (.terminate name) + (cost .clearSnapshot + (cost (.countBackends name) + cost .sleep))

/-- The price of what stands outside the loop. -/
def frameCost (name : String) : Nat :=
  2 * cost (.roleExists name) + cost .setLockTimeout + cost (.alterNologin name) +
    cost (.alterValidUntil name "1970-01-01 00:00:00+00") + cost (.dropOwned name) + cost (.dropRole name)

theorem lockoutRole_costs : (lockoutRole name).Costs cost (cost (.roleExists name) + (cost (.alterNologin name) +
    cost (.alterValidUntil name "1970-01-01 00:00:00+00"))) := by
  unfold lockoutRole
  split
  · exact .raise _
  · refine (Costs.perform _).bind fun exists_ => ?_
    cases exists_ with
    | true => exact (Costs.perform _).bind fun _ => .perform _
    | false => exact .ret _

theorem terminateBackends_costs (rest tries : Nat) (left : rest + tries = 50) :
    (terminateBackends name tries).Costs cost ((rest + 1) * roundCost cost name) := by
  have round (tries more : Nat) (next : 50 < tries + 1 ∨
      (terminateBackends name (tries + 1)).Costs cost (more * roundCost cost name)) :
      (terminateBackends name tries).Costs cost (roundCost cost name + more * roundCost cost name) := by
    rw [terminateBackends]
    unfold roundCost
    rw [Nat.add_assoc, Nat.add_assoc, Nat.add_assoc]
    refine (Costs.perform _).bind fun _ => (Costs.perform _).bind fun _ => (Costs.perform _).bind fun n => ?_
    split
    · exact .ret _
    · split
      · exact .raise _
      · refine (Costs.perform _).bind fun _ => ?_
        exact next.resolve_left (by assumption)
  induction rest generalizing tries with
  | zero => exact (round tries 0 (Or.inl (by omega))).mono (by omega)
  | succ rest ih =>
    have later := ih (tries + 1) (by omega)
    exact (round tries (rest + 1) (Or.inr later)).mono (by rw [Nat.succ_mul (rest + 1)]; omega)

/-- The loop makes at most 51 rounds. -/
theorem cleanupRole_costs : (cleanupRole name).Costs cost (frameCost cost name + 51 * roundCost cost name) := by
  unfold cleanupRole
  split
  · exact .raise _
  · refine ((Costs.perform _).bind fun exists_ => ?_).mono (?_ : cost (.roleExists name) + (cost .setLockTimeout +
      (cost (.roleExists name) + (cost (.alterNologin name) +
        cost (.alterValidUntil name "1970-01-01 00:00:00+00")) + ((50 + 1) * roundCost cost name +
          (cost (.dropOwned name) + cost (.dropRole name))))) ≤ _)
    · cases exists_ with
      | false => exact .ret _
      | true =>
        exact (Costs.perform _).bind fun _ => (lockoutRole_costs cost).bind fun _ =>
          (terminateBackends_costs cost 50 0 rfl).bind fun _ => (Costs.perform _).bind fun _ => .perform _
    · unfold frameCost
      omega

end costs

section steps
variable {s s' : State} {op : Op} {trace front back : Trace} {name : String}

/-- The role a step changes in the catalog. -/
def Op.writes : Op → Option String
  | .alterNologin name | .alterValidUntil name _ | .dropOwned name | .dropRole name => some name
  | _ => none

theorem Serves.other {answer : Except String (Ans op)} (served : Serves op s answer s') {other : String}
    (apart : op.writes ≠ some other) : s'.roles other = s.roles other := by
  have kept {role : Option Role} {name : String} (differ : some name ≠ some other) :
      (s.setRole name role).roles other = s.roles other := by
    unfold State.setRole
    exact if_neg fun same => differ (congrArg some same.symm)
  cases served with
  | alterNologin | alterValidUntil | dropOwned | dropRole => exact kept apart
  | roleExists | setLockTimeout | terminate | clearSnapshot | countBackends | sleep | dropMissing | fails => rfl

theorem Happens.split (happens : Happens s (front ++ back) s') : ∃ m, Happens s front m ∧ Happens m back s' := by
  induction front generalizing s with
  | nil => exact ⟨s, .done ⟨rfl, rfl⟩, happens⟩
  | cons exchange front ih =>
    cases happens with
    | next around served rest =>
      obtain ⟨m, first, last⟩ := ih rest
      exact ⟨m, .next around served first, last⟩

/-- One step, with what happens around it. -/
theorem Happens.single {answer : Except String (Ans op)} (happens : Happens s [⟨op, answer⟩] s') :
    ∃ before after, Around s before ∧ Serves op before answer after ∧ Around after s' := by
  cases happens with
  | next around served rest =>
    cases rest with
    | done later => exact ⟨_, _, around, served, later⟩

theorem Happens.other (happens : Happens s trace s') {other : String} (apart : ∀ x ∈ trace, x.1.writes ≠ some other) :
    s'.roles other = s.roles other := by
  induction happens with
  | done around => rw [around.roles]
  | next around served _ ih =>
    rw [ih fun x member => apart x (List.mem_cons_of_mem _ member), served.other (apart _ List.mem_cons_self),
      around.roles]

end steps

section runs
variable {s s' : State} {trace : Trace} {name : String}

/-- The price of changing roles: nothing for `name` where it is given. -/
def writeCost (spared : Option String) (op : Op) : Nat := if op.writes = none ∨ op.writes = spared then 0 else 1

theorem writeCost_zero {spared : Option String} {op : Op} :
    writeCost spared op = 0 ↔ op.writes = none ∨ op.writes = spared := by
  unfold writeCost
  split <;> simp [*]

/-- The loop ends with a count of zero right after a signal. -/
theorem terminateBackends_runs (tries : Nat) (run : (terminateBackends name tries).Runs trace (.ok ())) :
    ∃ front, trace = front ++ [⟨.clearSnapshot, .ok ()⟩, ⟨.countBackends name, .ok (0 : Nat)⟩] := by
  induction tries using terminateBackends.induct generalizing trace with
  | case1 tries ih =>
    rw [terminateBackends] at run
    rcases Runs.of_bind run with ⟨_, -, same⟩ | ⟨_, signal, later, rfl, signalled, afterSignal⟩
    · cases same
    rcases Runs.of_bind afterSignal with ⟨_, -, same⟩ | ⟨_, clear, later, rfl, cleared, afterClear⟩
    · cases same
    rcases Runs.of_bind afterClear with ⟨_, -, same⟩ | ⟨n, count, later, rfl, counted, afterCount⟩
    · cases same
    obtain rfl := Runs.of_perform cleared
    obtain rfl := Runs.of_perform counted
    change Nat at n
    split at afterCount
    · rename_i none
      subst none
      obtain ⟨rfl, -⟩ := Runs.of_ret afterCount
      exact ⟨signal, rfl⟩
    · split at afterCount
      · cases (Runs.of_raise afterCount).2
      · rcases Runs.of_bind afterCount with ⟨_, -, same⟩ | ⟨_, pause, later, rfl, paused, again⟩
        · cases same
        obtain ⟨front, rfl⟩ := ih (by assumption) again
        refine ⟨signal ++ [⟨.clearSnapshot, .ok ()⟩] ++ [⟨.countBackends name, .ok n⟩] ++ pause ++ front, ?_⟩
        simp only [List.append_assoc]
        rfl

/-- A call changes no role but the one it is about. -/
theorem cleanupRole_writes {outcome : Except String Unit} (run : (cleanupRole name).Runs trace outcome) :
    ∀ x ∈ trace, x.1.writes = none ∨ x.1.writes = some name := by
  intro x member
  have free := cleanupRole_costs (writeCost (some name)) trace _ run
  have none : frameCost (writeCost (some name)) name + 51 * roundCost (writeCost (some name)) name = 0 := by
    simp [frameCost, roundCost, writeCost, Op.writes]
  rw [none] at free
  exact writeCost_zero.mp (weight_zero free x member)

/-- What a call that returns has done. -/
theorem cleanupRole_returns (run : (cleanupRole name).Runs trace (.ok ())) :
    trace = [⟨.roleExists name, .ok false⟩] ∨
    ∃ front, trace = front ++ ([⟨.clearSnapshot, .ok ()⟩] ++ ([⟨.countBackends name, .ok (0 : Nat)⟩] ++
      ([⟨.dropOwned name, .ok ()⟩] ++ [⟨.dropRole name, .ok ()⟩]))) := by
  unfold cleanupRole at run
  split at run
  · cases (Runs.of_raise run).2
  rcases Runs.of_bind run with ⟨_, -, same⟩ | ⟨exists_, first, later, rfl, asked, afterLook⟩
  · cases same
  obtain rfl := Runs.of_perform asked
  cases exists_ with
  | false =>
    obtain ⟨rfl, -⟩ := Runs.of_ret afterLook
    exact Or.inl rfl
  | true =>
    rcases Runs.of_bind afterLook with ⟨_, -, same⟩ | ⟨_, limit, later, rfl, -, afterLimit⟩
    · cases same
    rcases Runs.of_bind afterLimit with ⟨_, -, same⟩ | ⟨_, lock, later, rfl, -, afterLock⟩
    · cases same
    rcases Runs.of_bind afterLock with ⟨_, -, same⟩ | ⟨_, loop, later, rfl, looped, afterLoop⟩
    · cases same
    rcases Runs.of_bind afterLoop with ⟨_, -, same⟩ | ⟨_, owned, last, rfl, ownedDropped, afterOwned⟩
    · cases same
    obtain ⟨front, rfl⟩ := terminateBackends_runs 0 looped
    obtain rfl := Runs.of_perform ownedDropped
    obtain rfl := Runs.of_perform afterOwned
    refine Or.inr ⟨[⟨.roleExists name, .ok true⟩] ++ (limit ++ (lock ++ front)), ?_⟩
    simp only [List.append_assoc]
    rfl

end runs

/-- The sessions were read after the last signal, and none was of the role. -/
def SeenNone (name : String) (s : State) (trace : Trace) : Prop :=
  ∃ front back before counted, trace = front ++ ⟨.countBackends name, .ok (0 : Nat)⟩ :: back ∧
    (∀ x ∈ back, x.1.pass = 0) ∧ Happens s front before ∧ Around before counted ∧
    ∀ b ∈ counted.backends, b.user ≠ name

section calls
variable {name : String} {s s' : State} {trace : Trace}

theorem roleExists_read {b : Bool} (happens : Happens s [⟨.roleExists name, .ok b⟩] s') :
    b = (s.roles name).isSome ∧ s'.roles = s.roles := by
  obtain ⟨before, after, around, served, later⟩ := happens.single
  generalize said : (.ok b : Except String (Ans (.roleExists name))) = answer at served
  cases served with
  | roleExists =>
    cases said
    exact ⟨by rw [around.roles], by rw [later.roles, around.roles]⟩
  | fails fallible => cases fallible

theorem dropRole_gone (happens : Happens s [⟨.dropRole name, .ok ()⟩] s') : s'.roles name = none := by
  obtain ⟨before, after, around, served, later⟩ := happens.single
  generalize said : (.ok () : Except String (Ans (.dropRole name))) = answer at served
  rw [later.roles]
  cases served with
  | dropRole => exact if_pos rfl
  | dropMissing gone => exact gone
  | fails => cases said

theorem clearSnapshot_clears (happens : Happens s [⟨.clearSnapshot, .ok ()⟩] s') : s'.snapshot = none := by
  obtain ⟨before, after, around, served, later⟩ := happens.single
  generalize said : (.ok () : Except String (Ans .clearSnapshot)) = answer at served
  rw [later.snapshot]
  cases served with
  | clearSnapshot => rfl
  | fails => cases said

/-- A count after the snapshot was cleared is of the sessions there are. -/
theorem count_real {n : Nat} (cleared : s.snapshot = none) (happens : Happens s [⟨.countBackends name, .ok n⟩] s') :
    ∃ counted, Around s counted ∧ n = (counted.backends.filter (·.user = name)).length := by
  obtain ⟨before, after, around, served, later⟩ := happens.single
  generalize said : (.ok n : Except String (Ans (.countBackends name))) = answer at served
  cases served with
  | countBackends =>
    cases said
    refine ⟨before, around, ?_⟩
    unfold State.activity
    rw [around.snapshot, cleared]
    rfl
  | fails => cases said

theorem cleanupRole_bounded {q : Function Unit} (path : (cleanupRole name).Path trace q) :
    passes trace ≤ 51 ∧ trace.length ≤ 211 := by
  have signals := cleanupRole_costs Op.pass trace q path
  have all := cleanupRole_costs (fun _ => 1) trace q path
  have length : weight (fun _ => 1) trace = trace.length := by simp [weight]
  rw [length] at all
  simp only [frameCost, roundCost, Op.pass] at signals all
  exact ⟨signals, all⟩

theorem cleanupRole_refuses {outcome : Except String Unit}
    (foreign : ¬∃ (id : GrantId) (suffix : List Char), isSuffix suffix = true ∧
      name = id.text ++ "_" ++ String.ofList suffix)
    (run : (cleanupRole name).Runs trace outcome) : trace = [] ∧ outcome = .error (refusing name) := by
  have unguarded : ¬roleGuard.Found name.toList := by
    rw [roleGuard_iff, isAccount_parts]
    exact foreign
  unfold cleanupRole at run
  rw [if_pos unguarded] at run
  exact Runs.of_raise run

/-- The trace of a call that returns, seen from the sessions. -/
theorem seenNone_of_returns {front : Trace}
    (happens : Happens s (front ++ ([⟨.clearSnapshot, .ok ()⟩] ++ ([⟨.countBackends name, .ok (0 : Nat)⟩] ++
      ([⟨.dropOwned name, .ok ()⟩] ++ [⟨.dropRole name, .ok ()⟩])))) s') :
    SeenNone name s (front ++ ([⟨.clearSnapshot, .ok ()⟩] ++ ([⟨.countBackends name, .ok (0 : Nat)⟩] ++
      ([⟨.dropOwned name, .ok ()⟩] ++ [⟨.dropRole name, .ok ()⟩])))) ∧ s'.roles name = none := by
  rw [← List.append_assoc front] at happens ⊢
  obtain ⟨cleared, before, rest⟩ := happens.split
  obtain ⟨_, _, clear⟩ := before.split
  obtain ⟨counted, count, dropped⟩ := rest.split
  obtain ⟨_, _, drop⟩ := dropped.split
  obtain ⟨there, around, zero⟩ := count_real (clearSnapshot_clears clear) count
  have nobody : ∀ b ∈ there.backends, b.user ≠ name := by
    intro b member
    have empty := List.filter_eq_nil_iff.mp (List.length_eq_zero_iff.mp zero.symm) b member
    simpa using empty
  have quiet : ∀ x ∈ ([⟨.dropOwned name, .ok ()⟩] ++ [⟨.dropRole name, .ok ()⟩] : Trace), x.1.pass = 0 := by
    intro x member
    simp only [List.cons_append, List.nil_append, List.mem_cons, List.not_mem_nil, or_false] at member
    rcases member with rfl | rfl <;> rfl
  exact ⟨⟨_, _, cleared, there, rfl, quiet, before, around, nobody⟩, dropRole_gone drop⟩

theorem called_returns (called : Called name s trace (.ok ()) s') :
    s'.roles name = none ∧ (s.roles name = none ∨ SeenNone name { s with snapshot := none } trace) ∧
      ∀ other ≠ name, s'.roles other = s.roles other := by
  obtain ⟨run, inside, happens, rfl⟩ := called
  have others (other : String) (apart : other ≠ name) : s'.roles other = s.roles other := by
    refine happens.other fun x member => ?_
    rcases cleanupRole_writes run x member with quiet | about
    · rw [quiet]
      exact (Option.some_ne_none other).symm
    · rw [about]
      exact fun same => apart (Option.some.inj same).symm
  rcases cleanupRole_returns run with rfl | ⟨front, rfl⟩
  · obtain ⟨absent, same⟩ := roleExists_read happens
    have gone : s.roles name = none := Option.isSome_eq_false_iff.mp absent.symm |> Option.isNone_iff_eq_none.mp
    refine ⟨?_, Or.inl gone, others⟩
    rw [same]
    exact gone
  · obtain ⟨seen, gone⟩ := seenNone_of_returns happens
    exact ⟨gone, Or.inr seen, others⟩

/-- There is nothing left to do for a role that is gone. -/
theorem called_again {outcome : Except String Unit} (gone : s.roles name = none)
    (guarded : roleGuard.Found name.toList) (called : Called name s trace outcome s') :
    outcome = .ok () ∧ trace = [⟨.roleExists name, .ok false⟩] ∧ s'.roles = s.roles := by
  obtain ⟨run, inside, happens, rfl⟩ := called
  unfold cleanupRole at run
  rw [if_neg (not_not_intro guarded)] at run
  rcases Runs.of_bind run with ⟨exn, failed, rfl⟩ | ⟨exists_, first, later, rfl, asked, afterLook⟩
  · obtain rfl := Runs.of_perform failed
    obtain ⟨before, after, around, served, -⟩ := happens.single
    cases served with
    | fails fallible => cases fallible
  · obtain rfl := Runs.of_perform asked
    obtain ⟨middle, look, rest⟩ := happens.split
    obtain ⟨said, same⟩ := roleExists_read look
    change Bool at exists_
    have absent : exists_ = false := by
      rw [said, gone]
      rfl
    subst absent
    obtain ⟨rfl, rfl⟩ := Runs.of_ret afterLook
    cases rest with
    | done around => exact ⟨rfl, rfl, by rw [around.roles, same]⟩

/-- The maintenance function that revokes a role ends after at most 51 passes of its loop, touches nothing but a
role with a name of the portal's, leaves no such role behind and no session that could have used it, does all of it or
nothing, and has nothing left to do the second time. -/
theorem cleanupRole_correct (name : String) :
    (∀ trace q, (cleanupRole name).Path trace q → passes trace ≤ 51 ∧ trace.length ≤ 211) ∧
    ((¬∃ (id : GrantId) (suffix : List Char), isSuffix suffix = true ∧ name = id.text ++ "_" ++ String.ofList suffix) →
      ∀ s trace outcome s', Called name s trace outcome s' → trace = [] ∧ outcome = .error (refusing name)) ∧
    (∀ s trace s', Called name s trace (.ok ()) s' → s'.roles name = none ∧ s'.privileges name = [] ∧
      (s.roles name = none ∨ SeenNone name { s with snapshot := none } trace) ∧
      ∀ other ≠ name, s'.roles other = s.roles other) ∧
    (∀ s trace exn s', Called name s trace (.error exn) s' → s'.roles = s.roles) ∧
    ∀ s trace s' u trace' outcome u', Called name s trace (.ok ()) s' → Around s' u → Called name u trace' outcome u' →
      outcome = .ok () ∧ trace' = [⟨.roleExists name, .ok false⟩] ∧ u'.roles = u.roles := by
  refine ⟨fun trace q path => cleanupRole_bounded path,
    fun foreign s trace outcome s' called => cleanupRole_refuses foreign called.1,
    fun s trace s' called => ?_, fun s trace exn s' called => ?_,
    fun s trace s' u trace' outcome u' called around again => ?_⟩
  · obtain ⟨gone, seen, others⟩ := called_returns called
    refine ⟨gone, ?_, seen, others⟩
    unfold State.privileges
    rw [gone]
  · obtain ⟨-, inside, -, rfl⟩ := called
    rfl
  · have guarded : roleGuard.Found name.toList := by
      by_contra unguarded
      have run := called.1
      unfold cleanupRole at run
      rw [if_pos unguarded] at run
      cases (Runs.of_raise run).2
    exact called_again (by rw [around.roles]; exact (called_returns called).1) guarded again

end calls

section cleaned

def account : String := "vdba_0123456789_abc123"

def held : Role := ⟨true, "2030-01-01 00:00:00+00", ["orders"], []⟩

/-- A role that can read a table and has a session. -/
def inUse : State :=
  { roles := fun name => if name = account then some held else none, backends := [⟨7, account⟩, ⟨8, "postgres"⟩],
    snapshot := none }

def cleaned : State :=
  { roles := fun _ => none, backends := [⟨8, "postgres"⟩], snapshot := some [⟨8, "postgres"⟩] }

def cleaning : Trace :=
  [⟨.roleExists account, .ok true⟩, ⟨.setLockTimeout, .ok ()⟩, ⟨.roleExists account, .ok true⟩,
    ⟨.alterNologin account, .ok ()⟩, ⟨.alterValidUntil account "1970-01-01 00:00:00+00", .ok ()⟩,
    ⟨.terminate account, .ok ()⟩, ⟨.clearSnapshot, .ok ()⟩, ⟨.countBackends account, .ok (0 : Nat)⟩,
    ⟨.dropOwned account, .ok ()⟩, ⟨.dropRole account, .ok ()⟩]

theorem account_guarded : roleGuard.Found account.toList := by
  rw [roleGuard_iff]
  decide

theorem cleaning_runs : (cleanupRole account).Runs cleaning (.ok ()) := by
  unfold Runs cleanupRole lockoutRole terminateBackends cleaning
  simp only [account_guarded, not_true, if_false]
  repeat' first | exact .here | refine .call ?_

theorem serves_found {s : State} {name : String} {role : Role} (row : s.roles name = some role) :
    Serves (.roleExists name) s (.ok true) s := by
  have look : Serves (.roleExists name) s (.ok (s.roles name).isSome) s := .roleExists
  rw [row] at look
  exact look

theorem cleaning_called : Called account inUse cleaning (.ok ()) cleaned := by
  have still (s : State) : Around s s := ⟨rfl, rfl⟩
  refine ⟨cleaning_runs, cleaned, ?_, rfl⟩
  have here : inUse.roles account = some held := by simp [inUse]
  let locked : Role := ⟨false, "1970-01-01 00:00:00+00", ["orders"], []⟩
  refine .next (still _) (serves_found here) (.next (still _) .setLockTimeout (.next (still _) (serves_found here) ?_))
  refine .next (still _) (.alterNologin here) (.next (still _) (.alterValidUntil (State.setRole_self _ _ _)) ?_)
  refine .next (still _) (@Serves.terminate _ account [⟨8, "postgres"⟩] (by decide) (by decide)) ?_
  refine .next (still _) .clearSnapshot (.next (still _) .countBackends ?_)
  refine .next (still _) (@Serves.dropOwned _ account locked (by simp [State.setRole, State.looked, locked, held])) ?_
  refine .next (still _) (.dropRole (State.setRole_self _ _ _) rfl rfl) (.done ⟨?_, rfl⟩)
  funext other
  by_cases same : other = account
  · subst same
    simp [cleaned]
  · simp [cleaned, State.setRole, State.looked, inUse, same]

theorem account_cleaned : cleaned.roles account = none ∧ cleaned.privileges account = [] ∧
    (inUse.roles account = none ∨ SeenNone account { inUse with snapshot := none } cleaning) ∧
    ∀ other ≠ account, cleaned.roles other = inUse.roles other :=
  (cleanupRole_correct account).2.2.1 inUse cleaning cleaned cleaning_called

end cleaned

end Vdba.Maintenance
