import Vdba.LedgerLocks

namespace Vdba
open Interaction (Triple Stable Keeping)

section calls
variable {p : Pledge} {n t : Nat} {db : DbType} {id : GrantId} {caller : Caller} {k : Errand} {v w : World}
  {states : Status → Prop}

theorem Settled.earlier {k' : Errand} (follows : k.Follows k') (settled : Settled p k' states w) :
    Settled p k states w := by
  obtain ⟨k'', later, rest⟩ := settled
  exact ⟨k'', ⟨later.thread.trans follows.thread, later.id.trans follows.id, later.caller.trans follows.caller,
    later.begun.trans follows.begun, later.dbType.trans follows.dbType⟩, rest⟩

theorem end_settled :
    Triple (ledger p) k.thread (some n) (Settled p k states) (end_ k.row.dbType k.id)
      (fun _ w => ∃ status, states status ∧ Rests p k.thread (k.begun.map fun b => { b with left := some status }) w)
      (fun _ _ => False) := by
  rintro w ⟨k', follows, debt, state, at_k⟩
  rw [← follows.thread, ← follows.id, ← follows.dbType, ← follows.begun]
  exact (end_work debt).mono (fun _ held => held) (fun _ w _ held => ⟨k'.row.status, state, held⟩)
    (fun _ _ _ failed => failed) w at_k

/-- What `revoke` and `reconcile_one` do between `_begin` and `_end`. -/
theorem locked_work {prog : Portal Unit} (other : caller ≠ .issue)
    (run : ∀ r, r.dbType = db → (∀ actor read, caller = .revoke actor read → ¬p.untroubled id) →
      Triple (ledger p) t (some n) (At p (Errand.fresh t id caller r)) prog
        (fun _ => Settled p (Errand.fresh t id caller r) fun _ => True)
        (fun _ => Settled p (Errand.fresh t id caller r) fun _ => True)) :
    Triple (ledger p) t (some n) (fun w => Rests p t none w ∧ ∃ r, w.row id = some r ∧ r.dbType = db)
      ((begin_ db id caller).bind fun _ => prog.finally_ (end_ db id)) (fun _ => Rests p t none)
      (fun _ => Rests p t none) := by
  have rests : Lasts p t (Rests p t none) := Rests.lasts
  refine Triple.bind (begin_work other) fun _ => Triple.of_forall fun r => Triple.of_fact fun fact => ?_
  obtain ⟨type, quiet⟩ := fact
  have leave : Triple (ledger p) t (some n) (Settled p (Errand.fresh t id caller r) fun _ => True) (end_ db id)
      (fun _ => Rests p t none) (fun _ => Rests p t none) := by
    have ended : Triple (ledger p) t (some n) (Settled p (Errand.fresh t id caller r) fun _ => True)
        (end_ (Errand.fresh t id caller r).row.dbType id) (fun _ w => ∃ _ : Status, True ∧ Rests p t none w)
        (fun _ _ => False) := end_settled
    rw [show (Errand.fresh t id caller r).row.dbType = db from type] at ended
    refine ended.mono (fun _ held => held) (fun _ w _ held => ?_) fun _ _ _ failed => failed.elim
    exact held.choose_spec.2
  exact Triple.finally_ (run r type quiet) (fun _ => leave) (fun _ => leave) (fun _ => rests.stable) fun _ => rests.stable

theorem revokeLocked_work {actor requestId : String} {read : Grant} (caller : k.caller = .revoke actor read)
    (same : read.id = k.id) (alive : read.status.terminal = false) (debt : k.debt = none) (troubled : ¬p.untroubled k.id) :
    Triple (ledger p) k.thread (some n) (At p k) (revokeLocked k.id actor requestId)
      (fun _ => Settled p k fun _ => True) (fun _ => Settled p k fun _ => True) := by
  let fields : GrantFields := { status := some .revoking }
  have fits (v : World) (books : Ledger p v) (held : At p k v) : Fits p k fields v.book.high := by
    have grant : read.id = k.row.id := same.trans (Store.getGrant_id held.1.held.1).symm
    refine ⟨fun now ok => ⟨ok.together, ok.accessor, nofun, nofun, fun _ => rfl⟩, Or.inr (.revoke caller grant alive),
      fun _ => ⟨rfl, rfl, rfl⟩, nofun, fun _ => rfl, nofun, fun untroubled => absurd untroubled troubled⟩
  have write : Triple (ledger p) k.thread (some n) (fun w => At p k w ∧ True) (updateGrant k.id fields)
      (fun _ w => ∃ now, At p (k.written now fields) w) (fun _ => Settled p k fun _ => True) :=
    (updateGrant_work (Lasts.const True) debt fun v _ held books => fits v books held).mono (fun _ held => held)
      (fun _ _ _ held => held) fun _ w _ held => ⟨k, ⟨rfl, rfl, rfl, rfl, rfl⟩, debt, trivial, held⟩
  unfold revokeLocked
  refine Triple.pre (Triple.bind write fun _ => Triple.of_forall fun now => ?_) fun _ held => ⟨held, trivial⟩
  have follows : k.Follows (k.written now fields).paid := ⟨rfl, rfl, rfl, rfl, rfl⟩
  have ends (w : World) : Ends (k.written now fields).paid.row w.book.high .revoked := .revoked rfl
  have recorded : Triple (ledger p) k.thread (some n) (At p (k.written now fields))
      (audit (some requestId) (some k.id) actor "revoke" "started" "")
      (fun _ w => At p (k.written now fields).paid w ∧ Ends (k.written now fields).paid.row w.book.high .revoked)
      (fun _ => Settled p k fun _ => True) := by
    refine (audit_work (k := k.written now fields) fun d time owes => ?_).mono (fun _ held => held)
      (fun _ w _ held => ⟨held, ends w⟩) fun _ w _ failed => ⟨_, follows, rfl, trivial, failed.1⟩
    have owes : debtOf k.id k.row.issuedBy (some k.caller) fields = some d := owes
    rw [caller] at owes
    cases owes
    simp [Debt.paidBy]
  have cleaned : Triple (ledger p) k.thread (some n)
      (fun w => At p (k.written now fields).paid w ∧ Ends (k.written now fields).paid.row w.book.high .revoked)
      (teardown k.id .revoked (some requestId) actor true)
      (fun _ => Settled p (k.written now fields).paid fun _ => True)
      (fun _ => Settled p (k.written now fields).paid fun _ => True) :=
    teardown_work rfl rfl rfl trivial trivial trivial
  refine Triple.bind recorded fun _ => cleaned.mono (fun _ held => held) (fun _ w _ held => ?_) fun _ w _ held => ?_
  · exact held.earlier follows
  · exact held.earlier follows

/-- What `_final_for` decides from a row is how its teardown may end. -/
theorem finalFor_ends {g : Grant} {now high : Time} {final : Status} (decided : finalFor g now = some final)
    (before : now ≤ high) : g.status.terminal = false ∧ final.terminal = true ∧ Ends g high final := by
  unfold finalFor at decided
  cases status : g.status <;> rw [status] at decided <;> simp only at decided
  case issuing => cases decided; exact ⟨rfl, rfl, .failed status⟩
  case revoking => cases decided; exact ⟨rfl, rfl, .revoked status⟩
  case active =>
    cases expires : g.expiresAt with
    | none => rw [expires] at decided; cases decided
    | some time =>
      rw [expires] at decided
      simp only [Option.ite_none_right_eq_some, Option.some.injEq] at decided
      obtain ⟨⟨-, past⟩, rfl⟩ := decided
      exact ⟨rfl, rfl, .expired status expires (past.trans_le before)⟩
  all_goals cases decided

theorem reconcileLocked_work (debt : k.debt = none) :
    Triple (ledger p) k.thread (some n) (At p k) (reconcileLocked k.id) (fun _ => Settled p k fun _ => True)
      (fun _ => Settled p k fun _ => True) := by
  have at_k : Lasts p k.thread (At p k) := At.lasts
  have settled : Lasts p k.thread (Settled p k fun _ => True) := Settled.lasts
  have left (w : World) (held : At p k w) : Settled p k (fun _ => True) w :=
    ⟨k, ⟨rfl, rfl, rfl, rfl, rfl⟩, debt, trivial, held⟩
  have read : Triple (ledger p) k.thread (some n) (At p k) (getGrant k.id)
      (fun (row : Option Grant) w => row = some k.row ∧ At p k w) (fun _ => Settled p k fun _ => True) := by
    refine calm_triple _ at_k At.bold trivial (fun _ => (Lasts.const _).and at_k) (fun _ => settled)
      fun v c answer u held held' _ _ executed _ => ?_
    have executed : settle c anyExc v v (v.row k.id) = some (answer, u) := executed
    cases answer with
    | error e => exact left u held'
    | ok row =>
      rcases settle_cases executed with ⟨answered, -⟩ | ⟨e, failed, -⟩
      · cases answered
        exact ⟨held.1.held.1, held'⟩
      · cases failed
  unfold reconcileLocked
  refine Triple.bind read fun (row : Option Grant) => Triple.of_fact fun found => ?_
  subst found
  have before (now : Time) : Lasts p k.thread fun w => At p k w ∧ now ≤ w.book.high := by
    refine at_k.and ⟨fun v w rely _ le => le.trans rely.high, fun v w calm le => le.trans calm.high⟩
  have clock : Triple (ledger p) k.thread (some n) (At p k) time (fun (now : Time) w => At p k w ∧ now ≤ w.book.high)
      (fun _ => Settled p k fun _ => True) := by
    refine calm_triple _ at_k At.bold trivial before (fun _ => settled) fun v c answer u _ held _ books executed _ => ?_
    cases executed
    exact ⟨held, books.high⟩
  refine Triple.bind clock fun now => ?_
  cases decided : finalFor k.row now with
  | none => exact Triple.ret (before now).stable fun w held => left w held.1
  | some final =>
    rintro w ⟨held, le⟩
    obtain ⟨alive, terminal, ends⟩ := finalFor_ends decided le
    exact teardown_work alive terminal debt trivial trivial trivial w ⟨held, ends⟩

/-- The row that was read, as far as it lasts. -/
def Known (p : Pledge) (t : Nat) (id : GrantId) (row : Option Grant) (w : World) : Prop :=
  Rests p t none w ∧ ∀ g, row = some g → g.id = id ∧ ∃ r, w.row id = some r ∧ r.dbType = g.dbType

theorem getGrant_rest :
    Triple (ledger p) t (some n) (Rests p t none) (getGrant id) (Known p t id) (fun _ => Rests p t none) := by
  have rests : Lasts p t (Rests p t none) := Rests.lasts
  have bold : Bold t (Rests p t none) := Rests.bold_none
  have known (row : Option Grant) : Lasts p t (Known p t id row) := by
    cases row with
    | none =>
      have nothing (w : World) (held : Rests p t none w) : Known p t id none w := ⟨held, fun g same => by cases same⟩
      exact ⟨fun v w rely inv held => nothing w (rests.stable v w rely inv held.1),
        fun v w calm held => nothing w (rests.calm v w calm held.1)⟩
    | some g =>
      have placed : Lasts p t fun w => ∃ r, w.row id = some r ∧ r.dbType = g.dbType := Placed.ledger_lasts
      refine ⟨fun v w rely inv held => ⟨rests.stable v w rely inv held.1, fun g' same => ?_⟩,
        fun v w calm held => ⟨rests.calm v w calm held.1, fun g' same => ?_⟩⟩
      · cases same
        exact ⟨(held.2 g rfl).1, placed.stable v w rely inv (held.2 g rfl).2⟩
      · cases same
        exact ⟨(held.2 g rfl).1, placed.calm v w calm (held.2 g rfl).2⟩
  refine calm_triple (.getGrant id) rests bold trivial known (fun _ => rests) fun v c answer u _ held quiet _ executed _ => ?_
  have executed : settle c anyExc v v (v.row id) = some (answer, u) := executed
  cases answer with
  | error e => exact held
  | ok row =>
    rcases settle_cases executed with ⟨answered, rfl, -⟩ | ⟨e, failed, -⟩
    · cases answered
      exact ⟨held, fun g found => ⟨Store.getGrant_id found, g, found, rfl⟩⟩
    · cases failed

theorem publicGrant_calm (id : GrantId) : (publicGrant id).All Op.calm := by
  refine Interaction.Prog.All.bind (calm_ask _ trivial) fun (row : Option Grant) => ?_
  cases row <;> trivial

theorem revoke_work (actor requestId : String) : Keeping (ledger p) t (some n) (Rests p t none)
    (revoke id actor requestId) := by
  have rests : Lasts p t (Rests p t none) := Rests.lasts
  refine Triple.bind getGrant_rest fun (row : Option Grant) => ?_
  cases row with
  | none => exact Triple.pre (Keeping.raise rests.stable _) fun _ held => held.1
  | some g =>
    rw [revokeRow]
    split
    · exact Triple.pre (Keeping.ret rests.stable _) fun _ held => held.1
    · rename_i alive
      rintro w ⟨rest, known⟩
      obtain ⟨same, placed⟩ := known g rfl
      have locked : Triple (ledger p) t (some n) (fun w => Rests p t none w ∧ ∃ r,
        w.row id = some r ∧ r.dbType = g.dbType)
          ((begin_ g.dbType id (.revoke actor g)).bind fun _ =>
            (revokeLocked id actor requestId).finally_ (end_ g.dbType id)) (fun _ => Rests p t none)
          (fun _ => Rests p t none) :=
        locked_work (fun same => by cases same) fun r _ troubled => revokeLocked_work (k := Errand.fresh t id (.revoke actor g) r) rfl
          same (by simpa using alive) rfl (troubled actor g rfl)
      have run : Triple (ledger p) t (some n) (fun w => Rests p t none w ∧ ∃ r,
        w.row id = some r ∧ r.dbType = g.dbType) _ _ _ :=
        Triple.bind locked fun _ => calm_keeping rests Rests.bold_none (publicGrant_calm id)
      rw [Interaction.Prog.bind_assoc] at run
      exact run w ⟨rest, placed⟩

theorem reconcileOne_work : Keeping (ledger p) t (some n) (Rests p t none) (reconcileOne id) := by
  have rests : Lasts p t (Rests p t none) := Rests.lasts
  refine Triple.bind getGrant_rest fun (row : Option Grant) => ?_
  cases row with
  | none => exact Triple.pre (Keeping.ret rests.stable _) fun _ held => held.1
  | some g =>
    have locked : Triple (ledger p) t (some n) (fun w => Rests p t none w ∧ ∃ r,
      w.row id = some r ∧ r.dbType = g.dbType)
        ((begin_ g.dbType id .reconcile).bind fun _ => (reconcileLocked id).finally_ (end_ g.dbType id))
        (fun _ => Rests p t none) (fun _ => Rests p t none) :=
      locked_work (fun same => by cases same) fun r _ _ => reconcileLocked_work (k := Errand.fresh t id .reconcile r) rfl
    exact Triple.pre locked fun _ held => ⟨held.1, (held.2 g rfl).2⟩

/-- `audit` of a row that nobody owes. -/
theorem audit_rest (requestId : Option String) (grantId : Option GrantId) (actor action result detail : String) :
    Keeping (ledger p) t (some n) (Rests p t none) (audit requestId grantId actor action result detail) := by
  have rests : Lasts p t (Rests p t none) := Rests.lasts
  refine Keeping.bind (calm_keeping rests Rests.bold_none (calm_ask .now trivial)) fun now => ?_
  refine step_triple rests.stable (fun _ => rests.stable) (fun _ => rests.stable)
    fun v c answer u held books executed honours base guar => ?_
  let row : AuditRow := ⟨now, requestId, grantId, actor, action, result, detail⟩
  have executed : settle c anyExc v (v.audited t row) () = some (answer, u) := executed
  cases answer with
  | error e =>
    obtain ⟨rfl, -⟩ := settle_error executed (honours.atomic rfl)
    exact ⟨books, (Level.refl u).enters guar fun b _ _ => Untouched.refl b.grant u, held⟩
  | ok _ =>
    rcases settle_cases executed with ⟨-, rfl, -⟩ | ⟨e, failed, -⟩
    · refine ⟨audited_ledger books base, audited_enters guar, held.1, fun recorded => ?_, held.2.2⟩
      simp [World.audited, Logbook.pays, held.2.1 recorded]
    · cases failed

theorem reconcileOnce_work : Keeping (ledger p) t (some n) (Rests p t none) reconcileOnce := by
  have rests : Lasts p t (Rests p t none) := Rests.lasts
  have calm {α : Type} {prog : Portal α} (all : prog.All Op.calm) : Keeping (ledger p) t (some n) (Rests p t none) prog :=
    calm_keeping rests Rests.bold_none all
  have quiet {prog : Portal Unit} (keeping : Keeping (ledger p) t (some n) (Rests p t none) prog) :
      Keeping (ledger p) t (some n) (Rests p t none) (quietly prog) :=
    Keeping.onError rests.stable keeping fun _ => Keeping.ret rests.stable ()
  have row (now : Time) (g : Grant) : Keeping (ledger p) t (some n) (Rests p t none) (reconcileRow now g) := by
    refine Keeping.bind (calm (calm_ask (.inflightHas g.id) trivial)) fun (busy : Bool) => ?_
    split
    · exact Keeping.ret rests.stable ()
    · split
      · exact Keeping.ret rests.stable ()
      · exact quiet reconcileOne_work
  have report (live : List String) (name : String) :
      Keeping (ledger p) t (some n) (Rests p t none) (reportName live name) := by
    unfold reportName
    split
    · exact Keeping.ret rests.stable ()
    · refine Keeping.bind (calm (calm_ask (.auditExists "orphan_account" name) trivial)) fun (seen : Bool) => ?_
      split
      · exact Keeping.ret rests.stable ()
      · exact audit_rest none none "system" "orphan_account" "warning" name
  have orphans : Keeping (ledger p) t (some n) (Rests p t none) reportOrphans := by
    refine Keeping.bind (calm (calm_ask (.listByStatus _) trivial)) fun (rows : List Grant) => ?_
    dsimp only
    split
    · exact Keeping.ret rests.stable ()
    · refine Keeping.forEach rests.stable fun db => ?_
      have listed : (leftoverUsers db).All Op.calm :=
        Interaction.Prog.All.bind (calm_of_basic (basic_connect db)) fun _ => calm_ask _ trivial
      refine Keeping.attempt (calm listed) fun outcome => ?_
      cases outcome with
      | error => exact Keeping.ret rests.stable ()
      | ok names => exact Keeping.forEach rests.stable (report _)
  unfold reconcileOnce reconcilePass
  refine Keeping.bind (calm (calm_ask .now trivial)) fun (now : Time) => ?_
  refine Keeping.bind (calm (calm_ask (.listByStatus _) trivial)) fun (rows : List Grant) => ?_
  refine Keeping.bind (Keeping.forEach rests.stable (row now)) fun _ => ?_
  have purged : purgeSessions.All Op.calm :=
    Interaction.Prog.All.bind (calm_ask .now trivial) fun _ => calm_ask (.purgeSessions _) trivial
  refine Keeping.bind (calm purged) fun (sessions : List Session) => ?_
  refine Keeping.bind (Keeping.forEach rests.stable fun session => ?_) fun _ => orphans
  exact quiet (calm (calm_ask (.revokeSelf session.vaultToken) trivial))

end calls
end Vdba
