import Vdba.Issue

namespace Vdba
open Interaction (Triple Stable)

section operations
variable {terms : Terms} {limit : Option Nat} {t : Nat} {db : DbType} {id : GrantId} {caller : Caller} {v w : World}

/-- A revocation or a reconciliation that has the lock is at work on the row. -/
theorem entered_job {α : Type} {p : Portal α} {E : α → World → Prop} {X : Exc → World → Prop}
    (other : caller ≠ .issue)
    (run : ∀ j : Job, j.thread = t → j.id = id → j.caller = caller → j.watch = none → j.row.dbType = db →
      (terms.fresh → ∀ actor read, caller = .revoke actor read → j.row.status.terminal = false) →
      Triple (portal terms) t limit (Busy j) p E X) :
    Triple (portal terms) t limit (fun w => Entered t db id caller w ∧ Placed id db caller w ∧ Fresh terms id caller w)
      p E X := by
  rintro w ⟨entered, placed, fresh⟩
  obtain ⟨r, found, type⟩ := placed other
  refine run ⟨t, id, r, caller, none, w.deadline t⟩ rfl rfl rfl rfl type (fun fresh' actor read same =>
    fresh fresh' actor read same r found) w ⟨⟨found, ?_⟩, entered.watch, rfl, entered.inflight⟩
  rw [type]
  exact entered.lock

/-- What `revoke` does with the lock. -/
theorem revokeLocked_triple {j : Job} {actor requestId : String} (watch : j.watch = none)
    (other : j.caller ≠ .reconcile)
    (fresh : terms.fresh → j.row.status.terminal = false) (monotone : limit = none → terms.monotone) :
    Triple (portal terms) j.thread limit (Busy j) (revokeLocked j.id actor requestId)
      (fun _ => Locking j.thread j.row.dbType j.id j.caller) (fun _ => Locking j.thread j.row.dbType j.id j.caller) := by
  let fields : GrantFields := { status := some .revoking }
  have always (j : Job) : Keeps terms j fun _ => True := Keeps.const True
  have write : Triple (portal terms) j.thread limit (fun w => Busy j w ∧ True) (updateGrant j.id fields)
      (fun _ w => ∃ now, Busy (j.written now fields) w ∧ True) (Miswritten terms j fields) := by
    refine updateGrant_triple (always j) (fun _ => always _) (fun _ _ _ => trivial)
      (fun w now busy _ inv => fits_of_status inv busy rfl rfl nofun nofun) (Or.inl rfl) (fun k at_k => ?_)
      fun fresh' terminal => ?_
    · rw [watch] at at_k
      cases at_k
    · rw [fresh fresh'] at terminal
      cases terminal
  unfold revokeLocked
  have written : Triple (portal terms) j.thread limit (fun w => Busy j w ∧ True) (updateGrant j.id fields)
      (fun _ w => ∃ now, Busy (j.written now fields) w ∧ True) fun _ => Locking j.thread j.row.dbType j.id j.caller :=
    write.mono (fun _ held => held) (fun _ _ _ held => held) fun _ _ _ failed => failed.locking
  refine Triple.pre (Triple.bind written fun _ => Triple.of_forall fun now => ?_) fun _ busy => ⟨busy, trivial⟩
  have recorded : Triple (portal terms) j.thread limit (fun w => Busy (j.written now fields) w ∧ True)
      (audit (some requestId) (some j.id) actor "revoke" "started" "")
      (fun _ w => Busy (j.written now fields) w ∧ Decides terms (j.written now fields) .revoked w)
      fun _ => Locking j.thread j.row.dbType j.id j.caller :=
    (audit_works (j := j.written now fields) _ _ _ _ _ _).leaves
      (fun _ _ busy _ => ⟨busy, fun reconcile => absurd reconcile other⟩) fun _ _ busy _ => busy.locking
  have cleaned : Triple (portal terms) j.thread limit
      (fun w => Busy (j.written now fields) w ∧ Decides terms (j.written now fields) .revoked w)
      (teardown j.id .revoked (some requestId) actor true) (fun _ => Locking j.thread j.row.dbType j.id j.caller)
      (fun _ => Locking j.thread j.row.dbType j.id j.caller) :=
    (teardown_triple (j := j.written now fields) rfl rfl monotone).mono (fun _ held => held)
      (fun _ _ _ finished => finished.locking) fun _ _ _ failed => failed.1.locking
  exact Triple.bind recorded fun _ => cleaned

/-- The row that was read, as far as it lasts. -/
theorem getGrant_triple (id : GrantId) :
    Triple (portal terms) t limit (fun w => w.Resting t ∧ True) (getGrant id)
      (fun (row : Option Grant) w => w.Resting t ∧ ∀ g, row = some g → ∃ r, w.row id = some r ∧ r.dbType = g.dbType)
      (fun _ w => w.Resting t ∧ True) := by
  have rests : Stable (portal terms) t fun _ => True := stable_const True
  refine rest_ask rests (fun row v w rely _ known g same => ?_) (fun _ => rests)
    fun v c answer u _ _ _ executed _ => ?_
  · obtain ⟨r, found, type⟩ := known g same
    obtain ⟨r', found', type', -⟩ := rely.1.row id r found
    exact ⟨r', found', by rw [type', type]⟩
  · have executed : settle c anyExc v v (v.row id) = some (answer, u) := executed
    rcases settle_cases executed with ⟨rfl, rfl, -⟩ | ⟨e, rfl, -, ⟨rfl, -⟩ | rfl, -⟩
    · exact ⟨Same.refl u, fun g same => ⟨g, same, rfl⟩⟩
    · exact ⟨Same.refl u, trivial⟩
    · exact ⟨Same.refl u, trivial⟩

theorem end_plain {caller : Caller} :
    Triple (portal terms) t limit (Locking t db id caller) (end_ db id) (fun _ w => w.Resting t ∧ True)
      (fun _ w => w.Resting t ∧ True) :=
  Triple.pre (end_triple (Lasting.const True)) fun _ locking => ⟨locking, trivial⟩

theorem resting_always : Stable (portal terms) t fun w => w.Resting t ∧ True := resting_stable (stable_const True)

theorem placed_lasting (other : caller ≠ .issue) : Lasting terms t fun w => ∃ r, w.row id = some r ∧ r.dbType = db := by
  have placed : Lasting terms t (Placed id db caller) := Placed.lasting
  exact ⟨fun v w rely inv held => placed.stable v w rely inv (fun _ => held) other,
    fun v w rows held => placed.onRows v w rows (fun _ => held) other⟩

/-- What happens between `_begin` and `_end`. -/
theorem locked_triple {p : Portal Unit} (other : caller ≠ .issue) (loud : ¬terms.quiet id)
    (run : Triple (portal terms) t limit
      (fun w => Entered t db id caller w ∧ Placed id db caller w ∧ Fresh terms id caller w) p
      (fun _ => Locking t db id caller) fun _ => Locking t db id caller) :
    Triple (portal terms) t limit (fun w => w.Resting t ∧ ∃ r, w.row id = some r ∧ r.dbType = db)
      ((begin_ db id caller).bind fun _ => p.finally_ (end_ db id)) (fun _ w => w.Resting t ∧ True)
      (fun _ w => w.Resting t ∧ True) := by
  have entered : Triple (portal terms) t limit (fun w => w.Resting t ∧ ∃ r, w.row id = some r ∧ r.dbType = db)
      (begin_ db id caller)
      (fun _ w => Entered t db id caller w ∧ Placed id db caller w ∧ Fresh terms id caller w)
      (fun _ w => w.Resting t ∧ True) :=
    (begin_triple (placed_lasting other) (fun w held _ => held) loud).mono (fun _ held => held)
      (fun _ _ _ held => held.1) fun _ _ _ held => ⟨held.1.1, trivial⟩
  refine Triple.bind entered fun _ => Triple.finally_ run (fun _ => end_plain) (fun _ => end_plain)
    (fun _ => resting_always) fun _ => resting_always

theorem revoke_triple (actor requestId : String) (loud : ¬terms.quiet id) (monotone : limit = none → terms.monotone) :
    Plain terms t limit (fun _ => True) (revoke id actor requestId) := by
  have rests : Lasting terms t fun _ => True := Lasting.const True
  refine Triple.bind (getGrant_triple id) fun (row : Option Grant) => ?_
  cases row with
  | none => exact Triple.pre (Plain.raise rests _) fun _ held => ⟨held.1, trivial⟩
  | some g =>
    rw [revokeRow]
    split
    · exact Triple.pre (Plain.ret rests _) fun _ held => ⟨held.1, trivial⟩
    · have locked : Triple (portal terms) t limit (fun w => w.Resting t ∧ ∃ r, w.row id = some r ∧ r.dbType = g.dbType)
          ((begin_ g.dbType id (.revoke actor g)).bind fun _ =>
            (revokeLocked id actor requestId).finally_ (end_ g.dbType id))
          (fun _ w => w.Resting t ∧ True) (fun _ w => w.Resting t ∧ True) := by
        refine locked_triple nofun loud (entered_job nofun fun j thread same caller watch type fresh => ?_)
        rw [← thread, ← same, ← type, ← caller]
        exact revokeLocked_triple watch (by rw [caller]; exact nofun) (fun fresh' => fresh fresh' actor g rfl) monotone
      have run : Triple (portal terms) t limit
          (fun w => w.Resting t ∧ ∃ r, w.row id = some r ∧ r.dbType = g.dbType) _ _ _ :=
        Triple.bind locked fun _ => Plain.publicGrant rests id
      rw [Interaction.Prog.bind_assoc] at run
      exact Triple.pre run fun _ held => ⟨held.1, held.2 g rfl⟩

/-- What `_final_for` decides from a row is what the row is due for. -/
theorem finalFor_due {g : Grant} {now : Time} {final : Status} (decided : finalFor g now = some final)
    (clock : terms.monotone → now ≤ w.clock) :
    g.status.terminal = false ∧ final.terminal = true ∧ Due terms g final w := by
  unfold finalFor at decided
  unfold Due
  cases status : g.status <;> rw [status] at decided <;> simp only at decided ⊢
  case issuing => cases decided; exact ⟨rfl, rfl, rfl⟩
  case revoking => cases decided; exact ⟨rfl, rfl, rfl⟩
  case active =>
    cases expires : g.expiresAt with
    | none => rw [expires] at decided; cases decided
    | some time =>
      rw [expires] at decided
      simp only [Option.ite_none_right_eq_some, Option.some.injEq] at decided
      obtain ⟨⟨-, past⟩, rfl⟩ := decided
      exact ⟨rfl, rfl, rfl, time, rfl, fun monotone => past.trans_le (clock monotone)⟩
  all_goals cases decided

theorem reconcileLocked_triple {j : Job} (monotone : limit = none → terms.monotone) :
    Triple (portal terms) j.thread limit (Busy j) (reconcileLocked j.id)
      (fun _ => Locking j.thread j.row.dbType j.id j.caller) (fun _ => Locking j.thread j.row.dbType j.id j.caller) := by
  have always : Keeps terms j fun _ => True := Keeps.const True
  have read : Works terms j limit (fun _ => True) (getGrant j.id)
      (fun (found : Option Grant) _ => found = some j.row) (Fails terms j fun _ => True) :=
    Works.quiet (fun c w => (rfl : _ = settleIf true c anyExc w w (w.row j.id))) (fun _ _ => id) always
      (fun _ => Keeps.const _) fun _ _ busy _ _ _ => busy.1.1
  have leave : Stable (portal terms) j.thread fun w => Busy j w ∧ True := always.stable
  have ended : Triple (portal terms) j.thread limit (fun w => Busy j w ∧ True) (.ret () : Portal Unit)
      (fun _ => Locking j.thread j.row.dbType j.id j.caller) (fun _ => Locking j.thread j.row.dbType j.id j.caller) :=
    Triple.ret leave fun _ held => held.1.locking
  unfold reconcileLocked
  refine Triple.pre (P := fun w => Busy j w ∧ True) ?_ fun _ busy => ⟨busy, trivial⟩
  refine Triple.bind (read.leaves (fun _ _ busy found => And.intro found busy) fun _ _ busy _ => busy.locking)
    fun (found : Option Grant) => Triple.of_fact fun same => ?_
  subst same
  have clock : Works terms j limit (fun _ => True) time (fun now w => terms.monotone → now ≤ w.clock) fun _ _ => False :=
    Works.time always (fun now v w _ rely _ before monotone => (before monotone).trans (rely.clock monotone))
      fun _ _ _ _ => Nat.le_refl _
  refine Triple.pre (P := fun w => Busy j w ∧ True) ?_ fun _ busy => ⟨busy, trivial⟩
  refine Triple.bind (clock.leaves (fun _ _ busy held => And.intro busy held) fun _ _ _ failed => failed.elim) fun now => ?_
  cases decided : finalFor j.row now with
  | none => exact Triple.pre ended fun _ held => ⟨held.1, trivial⟩
  | some final =>
    rintro w ⟨busy, before⟩
    obtain ⟨alive, ends, due⟩ := finalFor_due (w := w) decided before
    have cleaned : Triple (portal terms) j.thread limit (fun w => Busy j w ∧ Decides terms j final w)
        (teardown j.id final none "system" false) (fun _ => Locking j.thread j.row.dbType j.id j.caller)
        (fun _ => Locking j.thread j.row.dbType j.id j.caller) :=
      (teardown_triple alive ends monotone).mono (fun _ held => held) (fun _ _ _ finished => finished.locking)
        fun _ _ _ failed => failed.1.locking
    exact cleaned w ⟨busy, fun _ => due⟩

theorem reconcileOne_triple (loud : ¬terms.quiet id) (monotone : limit = none → terms.monotone) :
    Plain terms t limit (fun _ => True) (reconcileOne id) := by
  have rests : Lasting terms t fun _ => True := Lasting.const True
  refine Triple.bind (getGrant_triple id) fun (row : Option Grant) => ?_
  cases row with
  | none => exact Triple.pre (Plain.ret rests _) fun _ held => ⟨held.1, trivial⟩
  | some g =>
    have locked : Triple (portal terms) t limit (fun w => w.Resting t ∧ ∃ r, w.row id = some r ∧ r.dbType = g.dbType)
        ((begin_ g.dbType id .reconcile).bind fun _ => (reconcileLocked id).finally_ (end_ g.dbType id))
        (fun _ w => w.Resting t ∧ True) (fun _ w => w.Resting t ∧ True) := by
      refine locked_triple nofun loud (entered_job nofun fun j thread same caller _ type _ => ?_)
      rw [← thread, ← same, ← type, ← caller]
      exact reconcileLocked_triple monotone
    exact Triple.pre locked fun _ held => ⟨held.1, held.2 g rfl⟩

theorem reconcileRow_triple (now : Time) (g : Grant) (loud : ¬terms.quiet g.id)
    (monotone : limit = none → terms.monotone) : Plain terms t limit (fun _ => True) (reconcileRow now g) := by
  have rests : Lasting terms t fun _ => True := Lasting.const True
  unfold reconcileRow
  refine Plain.bind (Plain.ask rests rfl) fun (busy : Bool) => ?_
  split
  · exact Plain.ret rests _
  · split
    · exact Plain.ret rests _
    · exact Plain.quietly rests (reconcileOne_triple loud monotone)

theorem reconcileOnce_triple (loud : ∀ id, ¬terms.quiet id) (monotone : limit = none → terms.monotone) :
    Plain terms t limit (fun _ => True) reconcileOnce := by
  have rests : Lasting terms t fun _ => True := Lasting.const True
  unfold reconcileOnce reconcilePass
  refine Plain.bind (Plain.ask rests rfl) fun (now : Time) =>
    Plain.bind (Plain.ask rests rfl) fun (rows : List Grant) => ?_
  refine Plain.bind (Plain.forEach rests fun g => reconcileRow_triple now g (loud g.id) monotone) fun _ => ?_
  refine Plain.bind (Plain.bind (Plain.ask rests rfl) fun _ => Plain.ask rests rfl) fun (purged : List Session) => ?_
  refine Plain.bind (Plain.forEach rests fun session => Plain.quietly rests (Plain.ask rests rfl)) fun _ => ?_
  exact Plain.reportOrphans rests

end operations
end Vdba
