import Vdba.Interaction.All
import Vdba.Grants

namespace Vdba
open Interaction.Prog (All)

/-- The calls that touch neither the store, the locks, the slots nor the roles of Vault. -/
def Op.basic : Op → Prop
  | .now | .sleep _ | .tokenHex _ | .setOrder _ | .client | .relogin | .createToken .. | .listAccessors
  | .lookupAccessor _ | .listLeases _ | .leaseFind _ | .leaseRemove _ | .revokeAccessor _ | .introspectCredentials _
  | .credsOpen .. | .runStatement .. | .credsClose _ | .connect .. | .pgTables | .pgSequences | .chTables
  | .accountsWithPrefix .. | .pgBackends _ => True
  | _ => False

/-- The calls of the steps of a teardown. -/
def Op.work : Op → Prop
  | .mark _ | .writeRole .. | .deleteRole _ => True
  | op => op.basic

/-- The calls of `issue`, `revoke` and `_teardown`. -/
def Op.ofGrants : Op → Prop
  | .bogusArmed | .mark _ | .lockAcquire .. | .lockRelease _ | .inflightAdd _ | .inflightDiscard _ | .insertGrant ..
  | .updateGrant .. | .getGrant _ | .addAudit _ | .writeRole .. | .deleteRole _ => True
  | op => op.basic

section basic

theorem basic_ask (op : Op) (basic : op.basic) : (ask op).All Op.basic := All.perform basic

theorem basic_lift {α : Type} (result : Except Exc α) : (lift result).All Op.basic := All.ofExcept result

theorem call_all {φ : Op → Prop} {α : Type} {fn : Portal α} (client : φ .client) (relogin : φ .relogin)
    (all : fn.All φ) :
    (Service.call fn).All φ := by
  refine All.onError (All.bind (All.perform client) fun _ => all) fun exn => ?_
  cases exn.cls
  case forbidden => exact All.bind (All.perform relogin) fun _ => all
  all_goals trivial

theorem forGiven_all {φ : Op → Prop} {text : Option String} {f : String → Portal Unit} (all : ∀ s, (f s).All φ) :
    (forGiven text f).All φ := by
  unfold forGiven
  split
  · exact all _
  · trivial

theorem basic_call {α : Type} {fn : Portal α} (basic : fn.All Op.basic) : (Service.call fn).All Op.basic :=
  call_all trivial trivial basic

theorem basic_readCredentials (token : Secret) (role : String) : (readCredentials token role).All Op.basic := by
  refine All.bind (All.bind (basic_ask _ trivial) fun _ => All.bind (All.forEach fun _ _ => basic_ask _ trivial) fun _ =>
    basic_ask _ trivial) fun (resp : Option Creds) => ?_
  cases resp <;> trivial

theorem basic_connect (db : DbType) : (connect_ db).All Op.basic := by
  cases db <;> exact All.bind (basic_call (basic_ask _ trivial)) fun _ => basic_ask _ trivial

theorem basic_catalog (db : DbType) : (catalog db).All Op.basic := by
  cases db
  · exact All.bind (basic_connect .postgres) fun _ => All.bind (basic_ask _ trivial) fun _ =>
      All.bind (basic_ask _ trivial) fun _ => trivial
  · exact All.bind (basic_connect .clickhouse) fun _ => All.bind (basic_ask _ trivial) fun _ => trivial

theorem basic_findAccounts (db : DbType) (id : GrantId) : (findAccounts db id).All Op.basic :=
  All.bind (basic_connect db) fun _ => basic_ask _ trivial

theorem basic_pgBackends (account : String) : (pgBackends account).All Op.basic :=
  All.bind (basic_connect .postgres) fun _ => basic_ask _ trivial

theorem basic_createGrantToken (ttl : Int) (label : String) : (createGrantToken ttl label).All Op.basic :=
  basic_call (basic_ask _ trivial)

theorem basic_lookupAll (names accessors : List String) : (lookupAll names accessors).All Op.basic := by
  induction accessors with
  | nil => trivial
  | cons acc rest ih =>
    refine All.bind (All.onError (basic_call (basic_ask _ trivial)) fun exn => ?_) fun info =>
      All.bind ih fun found => ?_
    · split <;> trivial
    · cases info with
      | none => trivial
      | some name => dsimp only; split <;> trivial

theorem basic_findTokenAccessors (label : String) : (findTokenAccessors label).All Op.basic := by
  refine All.bind (basic_call (basic_ask _ trivial)) fun resp => ?_
  dsimp only
  split
  · trivial
  · exact basic_lookupAll _ _

theorem basic_tokensOf (g : Grant) (id : GrantId) : (tokensOf g id).All Op.basic := by
  unfold tokensOf
  split
  · trivial
  · exact basic_findTokenAccessors _

theorem basic_listLeases (role : String) : (listLeases role).All Op.basic :=
  All.bind (basic_call (basic_ask _ trivial)) fun _ => trivial

theorem basic_revokeLease (lease : String) : (revokeLease lease).All Op.basic := by
  refine All.onError (basic_call (All.bind (basic_ask _ trivial) fun found => ?_)) fun exn => by split <;> trivial
  cases found with
  | none => trivial
  | some found => exact All.bind (All.forEach fun _ _ => basic_ask _ trivial) fun _ => basic_ask _ trivial

theorem basic_revokeAccessor (accessor : String) : (revokeAccessor accessor).All Op.basic :=
  All.onError (basic_call (basic_ask _ trivial)) fun exn => by split <;> trivial

end basic

section work

theorem work_of_basic {α : Type} {prog : Portal α} (all : prog.All Op.basic) : prog.All Op.work := by
  refine all.mono fun op basic => ?_
  cases op <;> first | exact basic | trivial

theorem work_ask (op : Op) (work : op.work) : (ask op).All Op.work := All.perform work

theorem work_writeRole (role : String) (db : DbType) (creation revocation : List String) (ttl : Int) :
    (writeRole role db creation revocation ttl).All Op.work := call_all trivial trivial (work_ask _ trivial)

theorem work_deleteRole (role : String) : (deleteRole role).All Op.work :=
  call_all trivial trivial (work_ask _ trivial)

theorem work_helperCleanup (role : String) (lease accessor : Option String) :
    (helperCleanup role lease accessor).All Op.work := by
  have quiet {p : Portal Unit} (all : p.All Op.basic) : (quietly p).All Op.work :=
    All.onError (work_of_basic all) fun _ => trivial
  refine All.bind (forGiven_all fun lease => quiet (basic_revokeLease lease)) fun _ => ?_
  refine All.bind (forGiven_all fun accessor => quiet (basic_revokeAccessor accessor)) fun _ => ?_
  exact All.onError (work_deleteRole role) fun _ => work_ask _ trivial

theorem work_orCleanup {α : Type} {p : Portal α} (all : p.All Op.work) (role : String)
    (lease accessor : Option String) :
    (orCleanup p (helperCleanup role lease accessor)).All Op.work :=
  All.onError all fun _ => All.bind (work_helperCleanup role lease accessor) fun _ => trivial

theorem work_runAsManager (db : DbType) (label : String) (statements : List String) :
    (runAsManager db label statements).All Op.work := by
  refine All.bind (work_orCleanup (work_writeRole _ _ _ _ _) _ _ _) fun _ => ?_
  refine All.bind (work_orCleanup (work_of_basic (basic_createGrantToken _ _)) _ _ _) fun answer => ?_
  refine All.bind (work_orCleanup (work_of_basic (basic_readCredentials _ _)) _ _ _) fun creds => ?_
  exact work_helperCleanup _ _ _

theorem work_run (db : DbType) (id : GrantId) (statements : List String) :
    (run_ db id statements).All Op.work := by
  unfold run_
  split
  · trivial
  · exact All.bind (work_ask _ trivial) fun _ => work_runAsManager _ _ _

theorem work_lift {α : Type} (result : Except Exc α) : (lift result).All Op.work := All.ofExcept result

theorem work_terminateLoop (account : String) (id : GrantId) (deadline : Time) :
    (terminateLoop account id deadline).All Op.work := by
  refine All.while_ (All.bind (work_of_basic (basic_pgBackends account)) fun _ => trivial) ?_
  refine All.bind (work_ask _ trivial) fun now => ?_
  dsimp only
  split
  · trivial
  · exact All.bind (work_lift _) fun _ => All.bind (work_run _ _ _) fun _ => work_ask _ trivial

theorem work_lockOutAndTerminate (db : DbType) (account : String) (id : GrantId) :
    (lockOutAndTerminate db account id).All Op.work := by
  unfold lockOutAndTerminate
  split
  · trivial
  · refine All.onError (All.bind ?_ fun _ => work_ask _ trivial) fun _ =>
      All.bind (work_ask _ trivial) fun _ => trivial
    refine All.bind (work_lift _) fun _ => All.bind (work_run _ _ _) fun _ =>
      All.bind (work_ask _ trivial) fun _ => ?_
    exact All.bind (work_ask _ trivial) fun _ => All.bind (work_terminateLoop _ _ _) fun _ => work_ask _ trivial

theorem work_teardownSteps (g : Grant) (id : GrantId) : (teardownSteps g id).All Op.work := by
  have found : (findAccounts g.dbType id).All Op.work := work_of_basic (basic_findAccounts _ _)
  refine All.bind (work_of_basic (basic_tokensOf g id)) fun accessors => All.bind found fun accounts => ?_
  refine All.bind (All.forEach fun _ _ => work_lockOutAndTerminate _ _ _) fun _ => ?_
  refine All.bind (work_of_basic (basic_listLeases _)) fun listed => ?_
  refine All.bind (All.forEach fun lease _ => work_of_basic (basic_revokeLease lease)) fun _ => ?_
  refine All.bind found fun present => All.bind (All.forEach fun _ _ => ?_) fun _ => All.bind found fun left => ?_
  · exact All.bind (work_lockOutAndTerminate _ _ _) fun _ => All.bind (work_lift _) fun _ => work_run _ _ _
  · dsimp only
    split
    · trivial
    · refine All.bind (work_ask _ trivial) fun _ => All.bind (All.forEach fun accessor _ => ?_) fun _ => ?_
      · exact work_of_basic (basic_revokeAccessor accessor)
      · exact work_deleteRole _

end work

section grants

theorem grants_of_basic {α : Type} {prog : Portal α} (all : prog.All Op.basic) : prog.All Op.ofGrants := by
  refine all.mono fun op basic => ?_
  cases op <;> first | exact basic | trivial

theorem grants_of_work {α : Type} {prog : Portal α} (all : prog.All Op.work) : prog.All Op.ofGrants := by
  refine all.mono fun op work => ?_
  cases op <;> first | exact work | trivial

theorem grants_ask (op : Op) (ofGrants : op.ofGrants) : (ask op).All Op.ofGrants := All.perform ofGrants

theorem grants_lift {α : Type} (result : Except Exc α) : (lift result).All Op.ofGrants := All.ofExcept result

theorem grants_writeRole (role : String) (db : DbType) (creation revocation : List String) (ttl : Int) :
    (writeRole role db creation revocation ttl).All Op.ofGrants := grants_of_work (work_writeRole _ _ _ _ _)

theorem grants_teardownSteps (g : Grant) (id : GrantId) : (teardownSteps g id).All Op.ofGrants :=
  grants_of_work (work_teardownSteps g id)

theorem grants_updateGrant (id : GrantId) (fields : GrantFields) : (updateGrant id fields).All Op.ofGrants :=
  All.bind (grants_ask _ trivial) fun _ => grants_ask _ trivial

theorem grants_audit (requestId : Option String) (id : Option GrantId) (actor action result detail : String) :
    (audit requestId id actor action result detail).All Op.ofGrants :=
  All.bind (grants_ask _ trivial) fun _ => grants_ask _ trivial

theorem grants_teardown (id : GrantId) (final : Status) (requestId : Option String) (actor : String)
    (raiseErrors : Bool) :
    (teardown id final requestId actor raiseErrors).All Op.ofGrants := by
  refine All.bind (grants_ask _ trivial) fun _ => All.bind (grants_ask _ trivial) fun (row : Option Grant) => ?_
  cases row with
  | none => trivial
  | some g =>
    refine (grants_teardownSteps g id).attempt.bind fun outcome => ?_
    cases outcome with
    | ok _ => exact All.bind (grants_updateGrant _ _) fun _ => grants_audit _ _ _ _ _ _
    | error exn =>
      refine All.bind (grants_ask _ trivial) fun _ => All.bind (grants_updateGrant _ _) fun _ => ?_
      refine All.bind (grants_audit _ _ _ _ _ _) fun _ => ?_
      split <;> trivial

theorem grants_issueSteps (req : GrantRequest) (id : GrantId) (creation revocation : List String) :
    (issueSteps req id creation revocation).All Op.ofGrants := by
  refine All.bind (grants_writeRole _ _ _ _ _) fun _ => ?_
  refine All.bind (grants_of_basic (basic_createGrantToken _ _)) fun answer =>
    All.bind (grants_updateGrant _ _) fun _ => ?_
  refine All.bind (grants_of_basic (basic_readCredentials _ _)) fun creds => All.bind (grants_ask _ trivial) fun _ => ?_
  exact All.bind (grants_updateGrant _ _) fun _ => trivial

theorem grants_publicGrant (id : GrantId) : (publicGrant id).All Op.ofGrants := by
  refine All.bind (grants_ask _ trivial) fun (row : Option Grant) => ?_
  cases row <;> trivial

theorem grants_begin (db : DbType) (id : GrantId) (caller : Caller) : (begin_ db id caller).All Op.ofGrants := by
  refine All.bind (grants_ask _ trivial) fun (acquired : Bool) => ?_
  cases acquired
  · trivial
  · exact grants_ask _ trivial

theorem grants_end (db : DbType) (id : GrantId) : (end_ db id).All Op.ofGrants :=
  All.bind (grants_ask _ trivial) fun _ => grants_ask _ trivial

theorem grants_issueLocked (req : GrantRequest) (actor requestId : String) (id : GrantId)
    (creation revocation : List String) :
    (issueLocked req actor requestId id creation revocation).All Op.ofGrants := by
  refine All.bind (All.bind (grants_ask _ trivial) fun _ => grants_ask _ trivial) fun _ => ?_
  refine All.bind (All.onError (grants_issueSteps _ _ _ _) fun _ => ?_) fun _ => ?_
  · exact All.bind (grants_audit _ _ _ _ _ _) fun _ => All.bind (grants_teardown _ _ _ _ _) fun _ => trivial
  · exact All.bind (grants_audit _ _ _ _ _ _) fun _ => trivial

theorem grants_mutateStatements (cfg : Config) (creation : List String) :
    (mutateStatements cfg creation).All Op.ofGrants := by
  unfold mutateStatements
  split
  · refine All.bind (grants_ask _ trivial) fun (armed : Bool) => ?_
    cases armed <;> trivial
  · trivial

theorem grants_issue (cfg : Config) (req : GrantRequest) (actor requestId : String) :
    (issue cfg req actor requestId).All Op.ofGrants := by
  refine All.bind (grants_lift _) fun _ => All.bind (grants_of_basic (basic_catalog _)) fun cat => ?_
  refine All.bind (grants_lift _) fun statements => All.bind (grants_mutateStatements cfg _) fun creation => ?_
  refine All.bind (All.bind (grants_ask _ trivial) fun _ => trivial) fun id => All.bind (grants_begin _ _ _) fun _ => ?_
  refine All.bind (All.finally_ (grants_issueLocked _ _ _ _ _ _) (grants_end _ _)) fun _ => ?_
  exact All.bind (grants_publicGrant id) fun _ => trivial

theorem grants_revoke (id : GrantId) (actor requestId : String) : (revoke id actor requestId).All Op.ofGrants := by
  refine All.bind (grants_ask _ trivial) fun (row : Option Grant) => ?_
  cases row with
  | none => trivial
  | some g =>
    dsimp only [revokeRow]
    split
    · trivial
    · refine All.bind (grants_begin _ _ _) fun _ => All.bind (All.finally_ ?_ (grants_end _ _)) fun _ =>
        grants_publicGrant id
      refine All.bind (grants_updateGrant _ _) fun _ => All.bind (grants_audit _ _ _ _ _ _) fun _ => ?_
      exact grants_teardown _ _ _ _ _

end grants
end Vdba
