import Vdba.Interaction.Protocol
import Vdba.GrantCalls
import Vdba.LedgerRuns
import Vdba.Main
import Vdba.Scenario

namespace Vdba
open Interaction (Protocol Pool)
open Interaction.Prog (All Follows)

/-- A call to Vault or to a database. -/
def Op.backend : Op → Bool
  | .client | .relogin | .writeRole .. | .deleteRole _ | .createToken .. | .listAccessors | .lookupAccessor _
  | .listLeases _ | .leaseFind _ | .leaseRemove _ | .revokeAccessor _ | .rotateRoot _ | .introspectCredentials _
  | .readUser _ | .credsOpen .. | .runStatement .. | .credsClose _ | .userpassLogin .. | .lookupSelf _ | .revokeSelf _
  | .connect .. | .pgTables | .pgSequences | .chTables | .accountsWithPrefix .. | .pgBackends _ => true
  | _ => false

/-- A call that takes or returns no slot. -/
def Op.unslotted : Op → Prop
  | .slotAcquire _ | .slotRelease _ => False
  | _ => True

/-- Where a request stands: it has no slot, it has one, or it has ended a session without one. -/
inductive Seat
  | free
  | holds (kind : Kind)
  | stray
  deriving DecidableEq

/-- Where a request stands after a call. -/
def Seat.after (q : Seat) : (op : Op) → Except Exc (Ans op) → Seat
  | .slotAcquire kind, answer =>
    let granted : Except Exc Bool := answer
    match q, granted with
    | .free, .ok true => .holds kind
    | q, _ => q
  | .slotRelease _, _ => if q = .stray then .stray else .free
  | .deleteSession _, _ => if q = .free then .stray else q
  | _, _ => q

/-- A request takes slots of the given kinds, one at a time, and calls Vault and the databases with a slot only, as long
as it does not end a session without one. -/
def admission (mine : Kind → Bool) : Protocol calls Exc Seat where
  allows q
    | .slotAcquire kind => q = .stray ∨ q = .free ∧ mine kind = true
    | .slotRelease kind => q = .stray ∨ q = .holds kind
    | op => q = .free → op.backend = false
  after := Seat.after

/-- A thread that is not a request takes no slots. -/
def unadmitted : Protocol calls Exc Seat where
  allows _ op := op.unslotted
  after q _ _ := q

/-- What the threads of the process are for. -/
inductive Duty
  | serves (req : Request)
  | reconciles

def Duty.code (site : Site) : Duty → Portal Unit
  | .serves req => handle site req
  | .reconciles => reconcileOnce

/-- The slots a request may take. -/
def Route.mayTake : Route → Kind → Bool
  | .healthz, _ | .loginForm _, _ => false
  | .login, kind => kind = .auth
  | .logout, kind | .apiSession, kind | .apiListGrants, kind | .settingsPage _, kind => kind = .session
  | .index, kind | .createGrantForm, kind | .apiCreateGrant _, kind | .apiListTables _, kind
  | .rotateConnection _, kind => kind = .session || kind = .issue
  | .revokeGrant .., kind => kind = .session || kind = .revoke

def Duty.protocol : Duty → Protocol calls Exc Seat
  | .serves req => admission req.route.mayTake
  | .reconciles => unadmitted

section follows
variable {mine : Kind → Bool} {α β : Type} {site : Site} {req : Request} {s : Session} {q : Seat}

/-- A request that is over has no slot, unless it has ended a session without one. -/
def Seat.Over (q : Seat) : Prop := q = .free ∨ q = .stray

/-- Code of a request that starts and ends without a slot. -/
def Orderly (mine : Kind → Bool) (p : Portal α) : Prop := p.Follows (admission mine) (fun _ => Seat.Over) .free

/-- A call that a request makes without a slot. -/
def Op.free : Op → Prop
  | .slotAcquire _ | .slotRelease _ | .deleteSession _ => False
  | op => op.backend = false

theorem all_calls (p : Portal α) : p.All fun _ => True := by
  induction p with
  | ret => trivial
  | raise => trivial
  | call op next ih => exact ⟨trivial, ih⟩
  | iter body next ihBody ih => exact ⟨ihBody, ih⟩

theorem stray_follows (p : Portal α) : p.Follows (admission mine) (fun _ => Seat.Over) .stray := by
  refine (Follows.of_all (all_calls p) fun op _ => ?_).mono fun _ _ same => Or.inr same
  cases op <;> exact ⟨by simp [admission], fun _ => rfl⟩

theorem holds_follows {kind : Kind} {p : Portal α} (all : p.All Op.unslotted) :
    p.Follows (admission mine) (fun _ r => r = .holds kind) (.holds kind) := by
  refine Follows.of_all all fun op unslotted => ?_
  cases op
  case slotAcquire | slotRelease => exact unslotted.elim
  all_goals exact ⟨by simp [admission], fun _ => rfl⟩

namespace Orderly

theorem of_all {p : Portal α} (all : p.All Op.free) : Orderly mine p := by
  refine (Follows.of_all all fun op free => ?_).mono fun _ _ same => Or.inl same
  cases op
  case slotAcquire | slotRelease | deleteSession => exact free.elim
  all_goals exact ⟨fun _ => free, fun _ => rfl⟩

theorem ret (value : α) : Orderly mine (.ret value) := Or.inl rfl

theorem raise (exn : Exc) : Orderly mine (.raise exn : Portal α) := Or.inl rfl

theorem ask (op : Op) (free : op.free) : Orderly mine (ask op) := of_all (All.perform free)

theorem lift (outcome : Except Exc α) : Orderly mine (lift outcome) := of_all (All.ofExcept outcome)

theorem bind {p : Portal α} {f : α → Portal β} (first : Orderly mine p) (rest : ∀ value, Orderly mine (f value)) :
    Orderly mine (p.bind f) := by
  refine Follows.bind (first.mono fun outcome r settled => ?_)
  cases outcome with
  | error exn => exact settled
  | ok value =>
    rcases settled with rfl | rfl
    · exact rest value
    · exact stray_follows _

theorem attempt {p : Portal α} (orderly : Orderly mine p) : Orderly mine p.attempt := Follows.attempt orderly

theorem onError {p : Portal α} {handler : Exc → Portal α} (orderly : Orderly mine p)
    (handled : ∀ exn, Orderly mine (handler exn)) : Orderly mine (p.onError handler) := by
  refine orderly.attempt.bind fun outcome => ?_
  cases outcome with
  | ok value => exact ret value
  | error exn => exact handled exn

/-- What runs in a slot. -/
theorem inSlot {kind : Kind} {p : Portal α} (allowed : mine kind = true) (all : p.All Op.unslotted) :
    Orderly mine (admit_ kind p) := by
  refine Follows.bind (Follows.perform (Or.inr ⟨rfl, allowed⟩) fun answer => ?_)
  cases answer with
  | error exn => exact Or.inl rfl
  | ok granted =>
    cases granted with
    | false => exact Or.inl rfl
    | true =>
      refine Follows.finally_ ((holds_follows all).mono fun outcome r same => ?_)
      subst same
      refine Follows.perform (Or.inr rfl) fun answer => ?_
      cases answer with
      | ok _ => exact Or.inl rfl
      | error exn => exact Or.inl rfl

/-- What ends a session without a slot. -/
theorem ending (sid : Digest) (f : Unit → Portal α) : Orderly mine ((Vdba.ask (.deleteSession sid)).bind f) := by
  refine Follows.bind (Follows.perform (fun _ => rfl) fun answer => ?_)
  cases answer with
  | ok _ => exact stray_follows _
  | error exn => exact Or.inr rfl

end Orderly

theorem unslotted_of_basic {p : Portal α} (all : p.All Op.basic) : p.All Op.unslotted := by
  refine all.mono fun op basic => ?_
  cases op
  case slotAcquire | slotRelease => exact basic.elim
  all_goals trivial

theorem unslotted_of_grants {p : Portal α} (all : p.All Op.ofGrants) : p.All Op.unslotted := by
  refine all.mono fun op ofGrants => ?_
  cases op
  case slotAcquire | slotRelease => exact ofGrants.elim
  all_goals trivial

theorem unslotted_ask (op : Op) (unslotted : op.unslotted) : (ask op).All Op.unslotted := All.perform unslotted

theorem unslotted_audit (requestId : Option String) (id : Option GrantId) (actor action result detail : String) :
    (audit requestId id actor action result detail).All Op.unslotted := unslotted_of_grants (grants_audit _ _ _ _ _ _)

theorem unslotted_revokeToken (token : Secret) : (revokeTokenQuietly token).All Op.unslotted :=
  All.onError (unslotted_ask _ trivial) fun _ => trivial

theorem unslotted_loginPage (msg : String) (status : Nat) (username : String) :
    (loginPage req msg status username).All Op.unslotted :=
  All.bind (unslotted_audit _ _ _ _ _ _) fun _ => All.bind (unslotted_ask _ trivial) fun _ => trivial

theorem unslotted_admitAdmin (username : String) (token : Secret) (policies : List String) :
    (admitAdmin req username token policies).All Op.unslotted := by
  unfold admitAdmin
  split
  · exact All.bind (unslotted_revokeToken _) fun _ => All.bind (unslotted_loginPage _ _ _) fun _ => trivial
  · refine All.bind (forGiven_all fun old => All.bind (unslotted_ask _ trivial) fun (prev : Option Session) => ?_) fun _ => ?_
    · refine All.bind (unslotted_ask _ trivial) fun _ => ?_
      cases prev with
      | none => trivial
      | some s => exact unslotted_revokeToken _
    · refine All.bind (All.bind (unslotted_ask _ trivial) fun sid => All.bind (unslotted_ask _ trivial) fun csrf => ?_)
        fun sid => All.bind (unslotted_audit _ _ _ _ _ _) fun _ => trivial
      exact All.bind (unslotted_ask _ trivial) fun now => All.bind (unslotted_ask _ trivial) fun _ => trivial

theorem unslotted_loginAdmitted (username password : String) :
    (loginAdmitted req username password).All Op.unslotted := by
  unfold loginAdmitted
  split
  · exact All.bind (unslotted_loginPage _ _ _) fun _ => trivial
  · have logs : (userpassLogin username password).All Op.unslotted := by
      refine All.onError (unslotted_ask _ trivial) fun exn => ?_
      split
      · trivial
      · split <;> trivial
    refine All.bind (All.onError (All.bind logs fun _ => trivial) fun exn => ?_) fun logged => ?_
    · split <;> trivial
    · cases logged with
      | none => exact All.bind (unslotted_loginPage _ _ _) fun _ => trivial
      | some answer => exact unslotted_admitAdmin _ _ _

theorem unslotted_rights (s : Session) :
    (do let current ← userPolicies s.username
        let alive ← tokenPolicies s.vaultToken
        return (current, alive) : Portal (Option (List String) × Option (List String))).All Op.unslotted := by
  refine All.bind ?_ fun current => All.bind (All.onError (All.bind (unslotted_ask _ trivial) fun _ => trivial)
    fun exn => ?_) fun alive => trivial
  · refine All.cond (All.onError (call_all trivial trivial (unslotted_ask _ trivial)) fun exn => ?_) trivial
    split <;> trivial
  · split
    · trivial
    · split <;> trivial

theorem unslotted_rotateAdmitted (db : DbType) : (rotateAdmitted req s db).All Op.unslotted := by
  refine All.bind (All.onError (call_all trivial trivial (unslotted_ask _ trivial)) fun exn => ?_) fun _ =>
    unslotted_audit _ _ _ _ _ _
  split
  · trivial
  · exact All.bind (unslotted_audit _ _ _ _ _ _) fun _ => trivial

namespace Orderly

theorem audit (requestId : Option String) (id : Option GrantId) (actor action result detail : String) :
    Orderly mine (audit requestId id actor action result detail) :=
  (ask .now rfl).bind fun now => ask (.addAudit ⟨now, requestId, id, actor, action, result, detail⟩) rfl

theorem unlessBusy {p : Portal α} (orderly : Orderly mine p) :
    Orderly mine (p.onError fun exn => if exn.cls = .busy then .raise (httpException 503 exn.text) else .raise exn) := by
  refine orderly.onError fun exn => ?_
  split <;> exact raise _

theorem checkSession (session : mine .session = true) (sid : String) (now : Time) :
    Orderly mine (checkSession site sid s now) := by
  have touched (checked : Bool) : Orderly mine (touchSession sid checked) :=
    (ask .now rfl).bind fun now => ask (.touchSession now ⟨sid⟩ checked) rfl
  have ended {β : Type} (f : Unit → Portal β) : Orderly mine ((endSession sid s).bind f) := by
    have split : (endSession sid s).bind f =
        (Vdba.ask (.deleteSession ⟨sid⟩)).bind fun _ => (revokeTokenQuietly s.vaultToken).bind f :=
      Interaction.Prog.bind_assoc _ _ _
    rw [split]
    exact ending _ _
  unfold Vdba.checkSession
  split
  · exact ended _
  · split
    · refine ((inSlot session (unslotted_rights s)).unlessBusy.bind fun _ => ret _).bind fun rights => ?_
      split
      · exact (touched true).bind fun _ => ret _
      · exact ended _
    · exact (touched false).bind fun _ => ret _

theorem requireAdmin (session : mine .session = true) : Orderly mine (requireAdmin site req) := by
  have current : Orderly mine (currentSession site req) := by
    unfold currentSession
    split
    · exact ret _
    · rename_i sid _
      refine (ask (.getSession ⟨sid⟩) rfl).bind fun (row : Option Session) => ?_
      cases row with
      | none => exact ret _
      | some s => exact (ask .now rfl).bind fun now => checkSession session _ now
  refine current.bind fun (found : Option Session) => ?_
  cases found with
  | none => exact raise _
  | some s =>
    dsimp only
    split
    · exact ret _
    · refine (lift _).bind fun _ => (lift _).bind fun same => ?_
      split
      · exact ret _
      · exact raise _

theorem indexPage (issue : mine .issue = true) (result : Option Issued) (error : Option String) (status : Nat) :
    Orderly mine (indexPage site s result error status) := by
  have tables (db : DbType) (error : Option String) : Orderly mine (indexTables db error) := by
    refine ((inSlot issue (unslotted_of_basic (basic_catalog db))).bind fun _ => ret _).onError fun exn => ?_
    split <;> exact ret _
  exact (tables _ _).bind fun _ => (tables _ _).bind fun _ => (ask (.listGrants 100) rfl).bind fun _ => ret _

theorem issueGrant (allowed : mine .issue = true) (body : GrantRequest) :
    Orderly mine (issueGrant site req s body) := by
  refine (inSlot allowed (unslotted_of_grants (grants_issue _ _ _ _))).onError fun exn => ?_
  cases exn.cls <;> exact raise _

theorem createGrantForm (allowed : mine .issue = true) : Orderly mine (createGrantForm site req s) := by
  unfold Vdba.createGrantForm
  split
  · exact indexPage allowed _ _ _
  · refine (issueGrant allowed _).attempt.bind fun outcome => ?_
    cases outcome with
    | ok issued => exact indexPage allowed _ _ _
    | error exn =>
      dsimp only
      split
      · exact indexPage allowed _ _ _
      · exact indexPage allowed _ _ _
      · exact raise _

theorem revokeGrant (allowed : mine .revoke = true) (id : GrantId) : Orderly mine (revokeGrant req s id) := by
  refine Orderly.bind ((inSlot allowed (unslotted_of_grants (grants_revoke _ _ _))).onError fun exn => ?_) fun g => ?_
  · cases exn.cls <;> exact raise _
  · split <;> exact ret _

theorem doLogin (auth : mine .auth = true) (username password : String) :
    Orderly mine (doLogin req username password) := by
  refine (inSlot auth (unslotted_loginAdmitted username password)).unlessBusy.bind fun outcome => ?_
  cases outcome <;> exact ret _

theorem loginSubmit (auth : mine .auth = true) : Orderly mine (loginSubmit site req) := by
  refine (lift _).bind fun _ => ?_
  dsimp only
  split
  · exact raise _
  · refine (lift _).bind fun same => ?_
    split
    · exact doLogin auth _ _
    · exact raise _

theorem matched (param : Except String α) : Orderly mine (matched param) := by
  cases param with
  | ok value => exact ret value
  | error message => exact raise _

/-- Every route keeps to the protocol of its kinds of slots. -/
theorem dispatch (req : Request) : Orderly req.route.mayTake (dispatch site req) := by
  unfold Vdba.dispatch
  cases route : req.route with
  | healthz => exact ret _
  | loginForm error => exact (ask .tokenUrlsafe rfl).bind fun _ => ret _
  | login => exact loginSubmit rfl
  | logout => exact (requireAdmin rfl).bind fun s => ending _ _
  | index => exact (requireAdmin rfl).bind fun s => indexPage rfl _ _ _
  | createGrantForm => exact (requireAdmin rfl).bind fun s => createGrantForm rfl
  | revokeGrant api id => exact (requireAdmin rfl).bind fun s => (matched id).bind fun id => revokeGrant rfl id
  | apiSession => exact (requireAdmin rfl).bind fun s => ret _
  | apiCreateGrant body =>
    cases body with
    | malformed message => exact raise _
    | invalid message => exact (requireAdmin rfl).bind fun s => raise _
    | accepted body =>
      refine (requireAdmin rfl).bind fun s => ?_
      unfold apiCreateGrant
      split
      · exact (issueGrant rfl body).bind fun _ => ret _
      · exact raise _
  | apiListGrants => exact (requireAdmin rfl).bind fun s => (ask (.listGrants 500) rfl).bind fun _ => ret _
  | apiListTables db =>
    refine (requireAdmin rfl).bind fun s => (matched db).bind fun db => ?_
    exact (inSlot rfl (unslotted_of_basic (basic_catalog db))).unlessBusy.bind fun _ => ret _
  | settingsPage message => exact (requireAdmin rfl).bind fun s => ret _
  | rotateConnection db =>
    refine (requireAdmin rfl).bind fun s => (matched db).bind fun db => ?_
    refine (inSlot rfl (unslotted_rotateAdmitted db)).unlessBusy.bind fun _ => ?_
    split <;> exact ret _

theorem handle (req : Request) : Orderly req.route.mayTake (handle site req) := by
  refine (dispatch req).attempt.bind fun outcome => ?_
  cases outcome with
  | ok response => exact ask (.respond response) rfl
  | error exn => exact ask (.respond (answer req exn)) rfl

end Orderly

end follows

section slots
variable {t u : Nat} {op : Op} {c : Choice} {v w : World} {kind : Kind} {q : Seat} {site : Site} {duties : Nat → Duty}
  {s s' : System}

/-- The slots of a thread are those of its seat. -/
def Seat.Agrees (t : Nat) : Seat → World → Prop
  | .free, w => w.slots.filter (·.1 = t) = []
  | .holds kind, w => w.slots.filter (·.1 = t) = [(t, kind)]
  | .stray, _ => False

theorem effect_slots (unslotted : op.unslotted) (w : World) (t : Nat) (c : Choice) :
    (w.effect t c op).slots = w.slots := by
  cases op
  case slotAcquire | slotRelease => exact unslotted.elim
  case mark m => cases m <;> rfl
  case updateGrant now id fields =>
    simp only [World.effect, World.updated, World.noteWrite]
    split <;> rfl
  case runStatement db text account =>
    rw [World.effect]
    cases ran : w.statement db text account c.count with
    | none => rfl
    | some w' =>
      rcases World.statement_cases ran with ⟨-, rfl⟩ | ⟨_, _, -, -, rfl⟩
      · rfl
      · rfl
  all_goals rfl

theorem exec_slots {answer : Except Exc (Ans op)} (unslotted : op.unslotted)
    (executed : exec t op c v = some (answer, w)) : w.slots = v.slots := by
  rcases exec_effect executed with rfl | ⟨rfl, -⟩
  · rfl
  · exact effect_slots unslotted v t c

theorem happen_slots {event : Event} (happened : event.happen v = some w) : w.slots = v.slots := by
  have foreign (tokens : List Token) (v : World) : (Event.addForeign tokens v).slots = v.slots := by
    induction tokens generalizing v with
    | nil => rfl
    | cons token tokens ih =>
      rw [Event.addForeign, ih]
      split <;> rfl
  cases event <;> simp only [Event.happen, Option.some.injEq, Option.ite_none_right_eq_some] at happened
  case login => obtain ⟨-, rfl⟩ := happened; rfl
  case startQuery => obtain ⟨-, rfl⟩ := happened; rfl
  case foreignTokens tokens => rw [← happened, foreign]
  case leaseText lease text count =>
    cases live : v.liveLease lease with
    | none => rw [live] at happened; cases happened
    | some l =>
      rw [live] at happened
      simp only [Option.ite_none_right_eq_some] at happened
      rcases World.statement_cases happened.2 with ⟨-, rfl⟩ | ⟨_, _, -, -, rfl⟩
      · rfl
      · rfl
  all_goals subst happened; rfl

theorem filter_erase (slots : List (Nat × Kind)) (t u : Nat) (kind : Kind) :
    (slots.erase (t, kind)).filter (·.1 = u) =
      if u = t then (slots.filter (·.1 = u)).erase (t, kind) else slots.filter (·.1 = u) := by
  rw [← List.erase_filter]
  by_cases same : u = t
  · rw [if_pos same]
  · rw [if_neg same, List.erase_of_not_mem]
    simp [Ne.symm same]

/-- No thread takes or returns the slots of another. -/
theorem others_slots {answer : Except Exc (Ans op)} (other : u ≠ t) (executed : exec t op c v = some (answer, w)) :
    w.slots.filter (·.1 = u) = v.slots.filter (·.1 = u) := by
  by_cases unslotted : op.unslotted
  · rw [exec_slots unslotted executed]
  · cases op
    case slotAcquire kind =>
      simp only [exec] at executed
      split at executed <;> cases executed
      · simp [Ne.symm other]
      · rfl
    case slotRelease kind =>
      cases executed
      rw [filter_erase, if_neg other]
    all_goals exact absurd trivial unslotted

/-- No session is ended without a slot. -/
def Admitted (s : System) : Interaction.Label Nat Choice Event Unit → Prop
  | .run t _ => ∀ sid next, s.threads t = some (.call (.deleteSession sid) next) → ∃ kind, (t, kind) ∈ s.world.slots
  | .env _ | .spawn .. | .kill => True

/-- The states of the runs of the process whose steps are all allowed. -/
abbrev System.Serving (site : Site) (duties : Nat → Duty)
    (ok : System → Interaction.Label Nat Choice Event Unit → Prop) : System → Prop :=
  Pool.Reach machine (fun t _ => (duties t).code site) ok System.start

theorem Seat.Agrees.same {v w : World} (agrees : q.Agrees t v)
    (slots : w.slots.filter (·.1 = t) = v.slots.filter (·.1 = t)) : q.Agrees t w := by
  cases q with
  | free => exact slots.trans agrees
  | holds kind => exact slots.trans agrees
  | stray => exact agrees.elim

/-- A call of a request takes and returns the slot of its own seat. -/
theorem Seat.Agrees.admission {mine : Kind → Bool} {answer : Except Exc (Ans op)} (agrees : q.Agrees t v)
    (allowed : (admission mine).allows q op) (seated : ∀ sid, op = .deleteSession sid → q ≠ .free)
    (executed : exec t op c v = some (answer, w)) : (q.after op answer).Agrees t w := by
  have plain (unslotted : op.unslotted) (same : q.after op answer = q) : (q.after op answer).Agrees t w := by
    rw [same]
    exact agrees.same (by rw [exec_slots unslotted executed])
  cases op
  case slotAcquire kind =>
    have free : q = .free := by
      rcases allowed with rfl | ⟨free, -⟩
      · exact agrees.elim
      · exact free
    subst free
    have none : v.slots.filter (·.1 = t) = [] := agrees
    simp only [exec] at executed
    split at executed <;> cases executed
    · simp [Seat.after, Seat.Agrees, none]
    · exact none
  case slotRelease kind =>
    have holds : q = .holds kind := by
      rcases allowed with rfl | holds
      · exact agrees.elim
      · exact holds
    subst holds
    have one : v.slots.filter (·.1 = t) = [(t, kind)] := agrees
    cases executed
    simp [Seat.after, Seat.Agrees, filter_erase, one]
  case deleteSession sid => exact plain trivial (if_neg (seated sid rfl))
  all_goals exact plain trivial rfl

/-- The calls of a pass of the reconciler, but for the sessions it purges. -/
def Op.ofPass : Op → Prop
  | .inflightHas _ | .listByStatus _ | .auditExists .. => True
  | op => op.ofGrants

theorem ofPass_ask (op : Op) (ofPass : op.ofPass) : (ask op).All Op.ofPass := All.perform ofPass

theorem ofPass_of_grants {α : Type} {p : Portal α} (all : p.All Op.ofGrants) : p.All Op.ofPass := by
  refine all.mono fun op ofGrants => ?_
  cases op
  case inflightHas | listByStatus | auditExists => trivial
  all_goals exact ofGrants

theorem ofPass_reconcileRow (now : Time) (g : Grant) : (reconcileRow now g).All Op.ofPass := by
  have locked : (reconcileLocked g.id).All Op.ofGrants := by
    refine All.bind (grants_ask _ trivial) fun (fresh : Option Grant) => ?_
    cases fresh with
    | none => trivial
    | some row =>
      refine All.bind (grants_ask _ trivial) fun now => ?_
      split
      · trivial
      · exact grants_teardown _ _ _ _ _
  have one : (reconcileOne g.id).All Op.ofGrants := by
    refine All.bind (grants_ask _ trivial) fun (row : Option Grant) => ?_
    cases row with
    | none => trivial
    | some row => exact All.bind (grants_begin _ _ _) fun _ => All.finally_ locked (grants_end _ _)
  refine All.bind (ofPass_ask _ trivial) fun (busy : Bool) => All.cond trivial ?_
  split
  · trivial
  · exact All.onError (ofPass_of_grants one) fun _ => trivial

theorem ofPass_reportOrphans : reportOrphans.All Op.ofPass := by
  refine All.bind (ofPass_ask _ trivial) fun rows => All.cond trivial (All.forEach fun db _ => ?_)
  have scanned : (leftoverUsers db).All Op.basic := All.bind (basic_connect db) fun _ => basic_ask _ trivial
  refine (ofPass_of_grants (grants_of_basic scanned)).attempt.bind fun outcome => ?_
  cases outcome with
  | error exn => trivial
  | ok names =>
    refine All.forEach fun name _ => All.cond trivial (All.bind (ofPass_ask _ trivial) fun (seen : Bool) => ?_)
    exact All.cond trivial (ofPass_of_grants (grants_audit _ _ _ _ _ _))

theorem unslotted_of_pass {α : Type} {p : Portal α} (all : p.All Op.ofPass) : p.All Op.unslotted := by
  refine all.mono fun op ofPass => ?_
  cases op
  case slotAcquire | slotRelease => exact ofPass.elim
  all_goals trivial

theorem unslotted_reconcile : reconcileOnce.All Op.unslotted := by
  refine All.bind (unslotted_ask _ trivial) fun now => All.bind (unslotted_ask _ trivial) fun rows => ?_
  refine All.bind (All.forEach fun g _ => unslotted_of_pass (ofPass_reconcileRow now g)) fun _ => ?_
  refine All.bind (All.bind (unslotted_ask _ trivial) fun _ => unslotted_ask _ trivial) fun purged => ?_
  exact All.bind (All.forEach fun session _ => unslotted_revokeToken _) fun _ => unslotted_of_pass ofPass_reportOrphans

/-- The slots a thread may take. -/
def Duty.mayTake : Duty → Kind → Bool
  | .serves req => req.route.mayTake
  | .reconciles => fun _ => false

/-- The slots of a thread are those of its seat, which is one it may have. -/
def Duty.Seated (duty : Duty) (t : Nat) (q : Seat) (w : World) : Prop :=
  q.Agrees t w ∧ ∀ kind, q = .holds kind → duty.mayTake kind = true

theorem Seat.after_holds {answer : Except Exc (Ans op)} (held : q.after op answer = .holds kind) :
    q = .holds kind ∨ op = .slotAcquire kind := by
  cases op
  case slotAcquire other =>
    cases q with
    | holds _ => exact Or.inl held
    | stray => exact Or.inl held
    | free =>
      cases answer with
      | error exn => cases held
      | ok granted =>
        cases granted with
        | false => cases held
        | true => cases held; exact Or.inr rfl
  case slotRelease other =>
    simp only [after] at held
    split at held <;> cases held
  case deleteSession sid =>
    simp only [after] at held
    split at held
    · cases held
    · exact Or.inl held
  all_goals exact Or.inl held

/-- Every thread of the process keeps to the protocol of its duty. -/
theorem admission_tracks (site : Site) (duties : Nat → Duty) :
    Protocol.Tracks (fun t => (duties t).protocol) machine (fun t (_ : Unit) => (duties t).code site) Admitted
      (fun t => (duties t).Seated t) .free Seat.Over where
  own {s t choice op next answer w q} allowed at_t seated keeps executed := by
    obtain ⟨agrees, may⟩ := seated
    cases duty : duties t with
    | serves req =>
      rw [duty] at keeps may
      refine ⟨agrees.admission keeps (fun sid same free => ?_) executed, fun kind held => ?_⟩
      · subst same free
        obtain ⟨kind, member⟩ := allowed sid next at_t
        have none : s.world.slots.filter (·.1 = t) = [] := agrees
        have there : (t, kind) ∈ s.world.slots.filter (·.1 = t) := List.mem_filter.mpr ⟨member, by simp⟩
        rw [none] at there
        cases there
      · rcases Seat.after_holds held with before | acquires
        · exact may kind before
        · subst acquires
          rcases keeps with stray | ⟨-, allowed⟩
          · subst stray
            exact agrees.elim
          · exact allowed
    | reconciles =>
      rw [duty] at keeps may
      have unslotted : op.unslotted := keeps
      exact ⟨agrees.same (by rw [exec_slots unslotted executed]), may⟩
  others other executed seated := ⟨seated.1.same (others_slots other executed), seated.2⟩
  env happened seated := ⟨seated.1.same (by rw [happen_slots happened]), seated.2⟩
  reset _ _ := ⟨rfl, nofun⟩
  entry t _ := by
    cases duties t with
    | serves req => exact Orderly.handle req
    | reconciles =>
      have still : reconcileOnce.Follows unadmitted (fun _ r => r = .free) .free :=
        Follows.of_all unslotted_reconcile fun op unslotted => ⟨unslotted, fun _ => rfl⟩
      exact still.mono fun _ _ same => Or.inl same

theorem taken_exec {answer : Except Exc (Ans op)} (executed : exec t op c v = some (answer, w))
    (below : ∀ kind, v.taken kind ≤ slotLimit kind) (kind : Kind) : w.taken kind ≤ slotLimit kind := by
  by_cases unslotted : op.unslotted
  · unfold World.taken
    rw [exec_slots unslotted executed]
    exact below kind
  · cases op
    case slotAcquire other =>
      simp only [exec] at executed
      split at executed <;> cases executed
      · rename_i room
        have before := below kind
        simp only [World.taken, List.countP_cons] at room before ⊢
        by_cases same : other = kind
        · subst same
          simpa [Nat.add_one_le_iff] using room
        · simpa [same] using before
      · exact below kind
    case slotRelease other =>
      cases executed
      exact (List.Sublist.countP_le List.erase_sublist).trans (below kind)
    all_goals exact absurd trivial unslotted

theorem System.Serving.taken_le {ok : System → Interaction.Label Nat Choice Event Unit → Prop}
    (run : System.Serving site duties ok s) : ∀ kind, s.world.taken kind ≤ slotLimit kind := by
  induction run with
  | start => exact fun kind => Nat.zero_le _
  | next _ _ stepped ih =>
    rcases Pool.step_world stepped with same | ⟨t, choice, op, next, answer, -, -, executed⟩ | ⟨event, -, happened⟩ |
      ⟨-, same⟩
    · rwa [same]
    · exact taken_exec executed ih
    · unfold World.taken
      rw [happen_slots happened]
      exact ih
    · rw [same]
      exact fun kind => Nat.zero_le _

theorem length_slots (slots : List (Nat × Kind)) :
    slots.length = slots.countP (·.2 = .issue) + slots.countP (·.2 = .revoke) + slots.countP (·.2 = .auth) +
      slots.countP (·.2 = .session) := by
  induction slots with
  | nil => rfl
  | cons slot slots ih =>
    obtain ⟨t, kind⟩ := slot
    simp only [List.length_cons, List.countP_cons]
    cases kind <;> simp <;> omega

/-- The thread is inside a call to Vault or to a database. -/
def System.inBackend (s : System) (t : Nat) : Bool :=
  match s.threads t with
  | some (.call op _) => op.backend
  | _ => false

theorem System.Serving.kept (run : System.Serving site duties Admitted s) :
    Protocol.Kept (fun t => (duties t).protocol) (fun t => (duties t).Seated t) .free Seat.Over s := by
  have free (t : Nat) : (duties t).Seated t .free System.start.world := ⟨rfl, nofun⟩
  have idle (t : Nat) (p : Portal Unit) : System.start.threads t ≠ some p := nofun
  exact (admission_tracks site duties).kept ⟨fun t _ => free t, fun t p at_t => absurd at_t (idle t p)⟩ run

theorem System.Serving.seat (run : System.Serving site duties Admitted s) (t : Nat) :
    ∃ q, (duties t).Seated t q s.world ∧ ∀ p, s.threads t = some p → p.Follows (duties t).protocol (fun _ => Seat.Over) q := by
  cases at_t : s.threads t with
  | none => exact ⟨.free, run.kept.idle t at_t, nofun⟩
  | some p =>
    obtain ⟨q, follows, seated⟩ := run.kept.threads t p at_t
    exact ⟨q, seated, fun p' same => by cases same; exact follows⟩

theorem Seat.Agrees.mem (agrees : q.Agrees t w) : (t, kind) ∈ w.slots ↔ q = .holds kind := by
  have filtered : (t, kind) ∈ w.slots ↔ (t, kind) ∈ w.slots.filter (·.1 = t) := by simp
  rw [filtered]
  cases q with
  | free => rw [show w.slots.filter (·.1 = t) = [] from agrees]; simp
  | holds other => rw [show w.slots.filter (·.1 = t) = [(t, other)] from agrees]; simp [eq_comm]
  | stray => exact agrees.elim

/-- Where no session is ended without a slot, a request is inside a call to Vault or a database with a slot only, and no
more slots of a kind are taken than there are; a revoke slot is that of a revocation; a request has one slot at a time,
returns its own, and has none when it is over. -/
theorem System.Serving.admitted (run : System.Serving site duties Admitted s) :
    (∀ t req, duties t = .serves req → s.inBackend t = true → ∃ kind, (t, kind) ∈ s.world.slots) ∧
      (∀ kind, s.world.taken kind ≤ slotLimit kind) ∧
      (∀ ts : List Nat, ts.Nodup → (∀ t ∈ ts, (∃ req, duties t = .serves req) ∧ s.inBackend t = true) →
        ts.length ≤ MAX_ISSUE_OPS + MAX_REVOKE_OPS + MAX_AUTH_OPS + MAX_SESSION_CHECKS) ∧
      (∀ t, (t, Kind.revoke) ∈ s.world.slots → ∃ req api id, duties t = .serves req ∧ req.route = .revokeGrant api id) ∧
      (∀ t, (s.world.slots.filter (·.1 = t)).length ≤ 1) ∧
      (∀ t kind next, s.threads t = some (.call (.slotRelease kind) next) → (t, kind) ∈ s.world.slots) ∧
      ∀ t, s.Over t → ∀ kind, (t, kind) ∉ s.world.slots := by
  have backend (t : Nat) (req : Request) (duty : duties t = .serves req) (inside : s.inBackend t = true) :
      ∃ kind, (t, kind) ∈ s.world.slots := by
    obtain ⟨op, next, at_t, calls⟩ : ∃ op next, s.threads t = some (.call op next) ∧ op.backend = true := by
      unfold System.inBackend at inside
      split at inside
      · rename_i op next at_t
        exact ⟨op, next, at_t, inside⟩
      · cases inside
    obtain ⟨q, ⟨agrees, -⟩, follows⟩ := run.seat t
    have allowed := (follows _ at_t).1
    rw [duty] at allowed
    cases q with
    | holds kind => exact ⟨kind, agrees.mem.mpr rfl⟩
    | stray => exact agrees.elim
    | free =>
      have outside : op.backend = false := by
        cases op
        case slotAcquire | slotRelease => rfl
        all_goals exact allowed rfl
      rw [outside] at calls
      cases calls
  refine ⟨backend, run.taken_le, fun ts distinct inside => ?_, fun t taken => ?_, fun t => ?_,
    fun t kind next at_t => ?_,
    fun t past kind taken => ?_⟩
  · have covered : ts ⊆ s.world.slots.map (·.1) := by
      intro t member
      obtain ⟨⟨req, duty⟩, calls⟩ := inside t member
      obtain ⟨kind, taken⟩ := backend t req duty calls
      exact List.mem_map_of_mem taken
    have bound : ts.length ≤ s.world.slots.length := by
      simpa using List.Nodup.length_le_of_subset distinct covered
    have issue := run.taken_le .issue
    have revoke := run.taken_le .revoke
    have auth := run.taken_le .auth
    have session := run.taken_le .session
    rw [length_slots] at bound
    simp only [World.taken, slotLimit] at issue revoke auth session
    omega
  · obtain ⟨q, ⟨agrees, may⟩, -⟩ := run.seat t
    have allowed := may .revoke (agrees.mem.mp taken)
    cases duty : duties t with
    | reconciles => rw [duty] at allowed; cases allowed
    | serves req =>
      rw [duty] at allowed
      cases route : req.route with
      | revokeGrant api id => exact ⟨req, api, id, rfl, route⟩
      | _ => simp [Duty.mayTake, route, Route.mayTake] at allowed
  · obtain ⟨q, ⟨agrees, -⟩, -⟩ := run.seat t
    cases q with
    | free => rw [show s.world.slots.filter (·.1 = t) = [] from agrees]; exact Nat.zero_le _
    | holds kind => rw [show s.world.slots.filter (·.1 = t) = [(t, kind)] from agrees]; exact Nat.le_refl _
    | stray => exact agrees.elim
  · obtain ⟨q, ⟨agrees, -⟩, follows⟩ := run.seat t
    have allowed := (follows _ at_t).1
    cases duty : duties t with
    | reconciles => rw [duty] at allowed; exact allowed.elim
    | serves req =>
      rw [duty] at allowed
      rcases allowed with rfl | holds
      · exact agrees.elim
      · exact agrees.mem.mpr holds
  · obtain ⟨q, ⟨agrees, -⟩, follows⟩ := run.seat t
    have holds := agrees.mem.mp taken
    subst holds
    cases at_t : s.threads t with
    | none =>
      have free : (Seat.free).Agrees t s.world := (run.kept.idle t at_t).1
      cases free.mem.mp taken
    | some p =>
      have ended : (Seat.holds kind).Over := by
        rcases past p at_t with rfl | ⟨exn, rfl⟩
        · exact follows _ at_t
        · exact follows _ at_t
      rcases ended with same | same <;> cases same

def someSite : Site := ⟨someConfig, .ok⟩

/-- Choices with which the calls of a log-in succeed. -/
def Op.welcome : Op → Choice
  | .tokenUrlsafe => { key := "token" }
  | .userpassLogin .. => { names := [ADMIN_POLICY_NAME], secret := ⟨"secret"⟩ }
  | _ => {}

def System.turn (t : Nat) (s : System) : Interaction.Label Nat Choice Event Unit :=
  match s.threads t with
  | some (.call op _) => .run t op.welcome
  | _ => .run t {}

def loginRequest : Request where
  id := "1"
  route := .login
  pre := some "pre"
  secFetchSite := some "same-origin"
  form := { csrfToken := "pre", username := "admin", password := "password" }

def logoutRequest : Request where
  id := "2"
  route := .logout
  sid := some "token"
  secFetchSite := some "same-origin"
  csrfToken := some "token"

def loginThenLogout : Nat → Duty
  | 0 => .serves loginRequest
  | _ => .serves logoutRequest

/-- The test of `Admitted`, step by step. -/
def System.admits (s : System) : Interaction.Label Nat Choice Event Unit → Bool
  | .run t _ =>
    match s.threads t with
    | some (.call (.deleteSession _) _) => s.world.slots.any (·.1 = t)
    | _ => true
  | _ => true

theorem System.admits_ok (s : System) (label : Interaction.Label Nat Choice Event Unit)
    (tested : s.admits label = true) :
    Admitted s label := by
  cases label with
  | run t choice =>
    intro sid next at_t
    simp only [admits, at_t, List.any_eq_true, decide_eq_true_eq] at tested
    obtain ⟨⟨u, kind⟩, member, rfl⟩ := tested
    exact ⟨kind, member⟩
  | env => trivial
  | spawn => trivial
  | kill => trivial

/-- A log-in that waits for Vault. -/
def loggingInState : System :=
  Pool.play machine (fun t _ => (loginThenLogout t).code someSite) System.admits
    ((fun _ => .spawn 0 ()) :: List.replicate 1 (System.turn 0)) System.start

theorem loggingInState_inside : loggingInState.inBackend 0 = true := by decide

theorem loggingInState_admitted : ∃ kind, (0, kind) ∈ loggingInState.world.slots := by
  have run : System.Serving someSite loginThenLogout Admitted loggingInState :=
    Pool.Reach.play System.admits_ok _ .start
  exact run.admitted.1 0 loginRequest rfl loggingInState_inside

/-- A log-out that waits for Vault. -/
def loggingOutState : System :=
  Pool.play machine (fun t _ => (loginThenLogout t).code someSite) (fun _ _ => true)
    ((fun _ => .spawn 0 ()) :: List.replicate 10 (System.turn 0) ++ (fun _ => .spawn 1 ()) ::
      List.replicate 5 (System.turn 1)) System.start

theorem loggingOutState_inside : loggingOutState.inBackend 1 = true ∧ loggingOutState.world.slots = [] := by
  decide +kernel

theorem logout_not_admitted : ¬∀ s : System, System.Serving someSite loginThenLogout (fun _ _ => True) s →
    ∀ t req, loginThenLogout t = .serves req → s.inBackend t = true → ∃ kind, (t, kind) ∈ s.world.slots := by
  intro always
  have run : System.Serving someSite loginThenLogout (fun _ _ => True) loggingOutState :=
    Pool.Reach.play (fun _ _ _ => trivial) _ .start
  obtain ⟨kind, taken⟩ := always _ run 1 logoutRequest rfl loggingOutState_inside.1
  rw [loggingOutState_inside.2] at taken
  cases taken

end slots
end Vdba
