import Vdba.Exclusion
import Vdba.Interaction.Halting
import Vdba.Interaction.Narrow

namespace Vdba
open Interaction (Triple Stable Pool)
open Interaction.Prog (All)

/-- The calls of one thread only, on a clock that does not run backwards; those for the grants that are not in `F`
go well. -/
def recovering (t : Nat) (F : GrantId → Prop) : Terms where
  solo := some t
  monotone := True
  smooth id := ¬F id

section single
variable {terms : Terms} {t : Nat} {limit : Option Nat} {j : Job} {id : GrantId} {r : Grant} {start : Time}
  {final : Status} {v w : World}

/-- What a row is due for, it stays due for. -/
theorem finalFor_later {now later : Time} (due : finalFor r now = some final) (after : now ≤ later) :
    finalFor r later = some final := by
  unfold finalFor at due ⊢
  cases status : r.status <;> rw [status] at due <;> simp only at due ⊢
  case active =>
    cases expires : r.expiresAt with
    | none => rw [expires] at due; cases due
    | some time =>
      rw [expires] at due
      simp only [Option.ite_none_right_eq_some] at due ⊢
      exact ⟨⟨due.1.1, due.1.2.trans_le after⟩, due.2⟩
  all_goals exact due

/-- The rows are as they were, where only one thread runs. -/
theorem row_stable (solo : terms.solo = some t) (id : GrantId) (row : Option Grant) :
    Stable (portal terms) t fun w => w.row id = row := by
  intro v w rely _ held
  rw [← held]
  unfold World.row Store.getGrant
  rw [rely.2 solo]

theorem clock_stable (monotone : terms.monotone) (start : Time) : Stable (portal terms) t fun w => start ≤ w.clock :=
  fun _ _ rely _ before => before.trans (rely.1.clock monotone)

theorem row_lasting (solo : terms.solo = some t) (id : GrantId) (P : Grant → Prop) :
    Lasting terms t fun w => ∃ r, w.row id = some r ∧ P r := by
  refine ⟨fun v w rely inv held => ?_, fun v w rows held => ?_⟩
  · obtain ⟨r, row, holds⟩ := held
    exact ⟨r, row_stable solo id (some r) v w rely inv row, holds⟩
  · rw [rows]
    exact held

/-- The row of the grant has its final status. -/
def Concluded (id : GrantId) (final : Status) (w : World) : Prop := ∃ r, w.row id = some r ∧ r.status = final

/-- What the reconciler does with the lock brings a row that is due to its end, where the calls for the grant go well. -/
theorem reconcileLocked_settles (smooth : terms.smooth j.id) (monotone : terms.monotone)
    (due : finalFor j.row start = some final) :
    Triple (portal terms) j.thread limit (fun w => Busy j w ∧ start ≤ w.clock) (reconcileLocked j.id)
      (fun _ => Finished terms j final) fun _ _ => False := by
  have since : Keeps terms j fun w => start ≤ w.clock := fun v w _ rely _ before => before.trans (rely.clock monotone)
  have read : Works terms j limit (fun w => start ≤ w.clock) (getGrant j.id)
      (fun (found : Option Grant) w => found = some j.row ∧ start ≤ w.clock) (Fails terms j fun w => start ≤ w.clock) :=
    Works.quiet (fun c w => (rfl : _ = settleIf true c anyExc w w (w.row j.id))) (fun _ _ => id) since
      (fun _ => (Keeps.const _).and since) fun _ _ busy before _ _ => ⟨busy.1.1, before⟩
  unfold reconcileLocked
  refine Triple.bind (read.leaves (fun _ _ busy found => And.intro found.1 (And.intro busy found.2))
    fun _ _ _ failed => failed.2 smooth) fun (found : Option Grant) => Triple.of_fact fun same => ?_
  subst same
  have clock : Works terms j limit (fun w => start ≤ w.clock) time (fun now w => start ≤ now ∧ now ≤ w.clock)
      fun _ _ => False :=
    Works.time since (fun now v w _ rely _ held => ⟨held.1, held.2.trans (rely.clock monotone)⟩)
      fun _ before _ => ⟨before, Nat.le_refl _⟩
  refine Triple.bind (clock.leaves (fun _ _ busy held => And.intro held.1 (And.intro busy held.2))
    fun _ _ _ failed => failed) fun now => Triple.of_fact fun before => ?_
  have decided : finalFor j.row now = some final := finalFor_later due before
  simp only [decided]
  rintro w ⟨busy, clock⟩
  obtain ⟨alive, ends, owed⟩ := finalFor_due (w := w) decided fun _ => clock
  have cleaned : Triple (portal terms) j.thread limit (fun w => Busy j w ∧ Decides terms j final w)
      (teardown j.id final none "system" false) (fun _ => Finished terms j final) fun _ _ => False :=
    (teardown_triple alive ends fun _ => monotone).mono (fun _ held => held) (fun _ _ _ finished => finished)
      fun _ _ _ failed => failed.2 smooth
  exact cleaned w ⟨busy, fun _ => owed⟩

theorem Finished.concluded (finished : Finished terms j final w) (smooth : terms.smooth j.id) : Concluded j.id final w := by
  obtain ⟨j', follows, busy, status⟩ := finished
  refine ⟨j'.row, by rw [← follows.id]; exact busy.1.1, ?_⟩
  rcases status with same | ⟨-, rough⟩
  · exact same
  · exact absurd smooth rough

/-- The reconciler brings the row of a grant that is due to its end, where the calls for the grant go well. -/
theorem reconcileOne_settles (solo : terms.solo = some t) (smooth : terms.smooth id) (loud : ¬terms.quiet id)
    (monotone : terms.monotone) (due : finalFor r start = some final) :
    Triple (portal terms) t limit (fun w => w.Resting t ∧ w.row id = some r ∧ start ≤ w.clock) (reconcileOne id)
      (fun _ w => w.Resting t ∧ Concluded id final w) fun _ _ => False := by
  have rests : Stable (portal terms) t fun w => w.row id = some r ∧ start ≤ w.clock := fun v w rely inv held =>
    ⟨row_stable solo id (some r) v w rely inv held.1, clock_stable monotone start v w rely inv held.2⟩
  have read : Triple (portal terms) t limit (fun w => w.Resting t ∧ w.row id = some r ∧ start ≤ w.clock) (getGrant id)
      (fun (row : Option Grant) w => row = some r ∧ w.Resting t ∧ w.row id = some r ∧ start ≤ w.clock)
      fun _ _ => False := by
    refine Triple.perform (resting_stable rests) (fun row v w rely inv held => ?_) (fun _ => stable_const False) ?_
    · exact ⟨held.1, resting_stable rests v w rely inv held.2⟩
    rintro v ⟨resting, row, before⟩ inv answer u ⟨c, executed, allowed⟩
    have executed : settle c anyExc v v (v.row id) = some (answer, u) := executed
    have well := (allowed.smooth id smooth (Or.inr rfl)).ok fun _ gone => gone
    rcases settle_cases executed with ⟨rfl, rfl, -⟩ | ⟨e, -, fate, -⟩
    · exact ⟨inv, ⟨(Same.refl u).guar inv t, allowed.solo⟩, row, resting, row, before⟩
    · exact absurd well fate
  refine Triple.bind read fun (row : Option Grant) => Triple.of_fact fun same => ?_
  subst same
  have placed : Lasting terms t fun w => ∃ g, w.row id = some g ∧ g = r := row_lasting solo id (· = r)
  have entered : Triple (portal terms) t limit (fun w => w.Resting t ∧ w.row id = some r ∧ start ≤ w.clock)
      (begin_ r.dbType id .reconcile)
      (fun _ w => (Entered t r.dbType id .reconcile w ∧ w.row id = some r) ∧ start ≤ w.clock) fun _ _ => False := by
    have begun : Triple (portal terms) t limit (fun w => w.Resting t ∧ ∃ g, w.row id = some g ∧ g = r)
        (begin_ r.dbType id .reconcile)
        (fun _ w => (Entered t r.dbType id .reconcile w ∧ Placed id r.dbType .reconcile w ∧ Fresh terms id .reconcile w) ∧
          ∃ g, w.row id = some g ∧ g = r)
        fun _ w => (w.Resting t ∧ ∃ g, w.row id = some g ∧ g = r) ∧ terms.solo ≠ some t := by
      refine begin_triple placed (fun w held _ => ?_) loud
      obtain ⟨g, row, rfl⟩ := held
      exact ⟨g, row, rfl⟩
    refine (begun.frame (clock_stable monotone start) fun v w guar before => before.trans (guar.1.clock monotone)).mono
      (fun w held => ⟨⟨held.1, r, held.2.1, rfl⟩, held.2.2⟩) (fun _ w _ held => ?_) fun _ _ _ failed => failed.1.2 solo
    obtain ⟨⟨⟨entered, -⟩, g, row, rfl⟩, before⟩ := held
    exact ⟨⟨entered, row⟩, before⟩
  refine Triple.bind entered fun _ => ?_
  have concluded : Lasting terms t (Concluded id final) := row_lasting solo id (·.status = final)
  refine Triple.finally_ (E := fun _ w => Locking t r.dbType id .reconcile w ∧ Concluded id final w) (X := fun _ _ => False)
    ?_ (fun _ => end_triple concluded) (fun _ w failed => failed.elim) (fun _ => resting_stable concluded.stable)
    fun _ => stable_const False
  rintro w ⟨⟨entered, row⟩, before⟩
  let j : Job := ⟨t, id, r, .reconcile, none, w.deadline t⟩
  have busy : Busy j w := ⟨⟨row, entered.lock⟩, entered.watch, rfl, entered.inflight⟩
  refine (reconcileLocked_settles (j := j) smooth monotone due w ⟨busy, before⟩).mono fun outcome v _ post => ?_
  cases outcome with
  | ok _ => exact ⟨post.locking, post.concluded smooth⟩
  | error _ => exact post

/-- The row of the grant is as it was, unless there is something to do for it. -/
def Spared (id : GrantId) (r : Grant) (w : World) : Prop := w.row id = some r ∨ finalFor r w.clock ≠ none

theorem overdue_later (due : finalFor r v.clock ≠ none) (after : v.clock ≤ w.clock) : finalFor r w.clock ≠ none := by
  obtain ⟨final, due⟩ := Option.ne_none_iff_exists'.mp due
  rw [finalFor_later due after]
  exact Option.some_ne_none final

theorem Spared.stable (solo : terms.solo = some t) (monotone : terms.monotone) :
    Stable (portal terms) t (Spared id r) := by
  intro v w rely inv held
  rcases held with row | due
  · exact Or.inl (row_stable solo id (some r) v w rely inv row)
  · exact Or.inr (overdue_later due (rely.1.clock monotone))

/-- Code during which there is something to do for the row all the while. -/
theorem kept_overdue {α : Type} {p : Portal α} {P : World → Prop} {E : α → World → Prop} {X : Exc → World → Prop}
    (id : GrantId) (r : Grant) (monotone : terms.monotone) (run : Triple (portal terms) t limit P p E X) :
    Triple (portal terms) t limit (fun w => P w ∧ finalFor r w.clock ≠ none) p (fun a w => E a w ∧ Spared id r w)
      (fun e w => X e w ∧ Spared id r w) :=
  (run.frame (fun _ _ rely _ due => overdue_later due (rely.1.clock monotone))
    fun _ _ guar due => overdue_later due (guar.1.clock monotone)).mono (fun _ held => held)
    (fun _ _ _ held => ⟨held.1, Or.inr held.2⟩) fun _ _ _ held => ⟨held.1, Or.inr held.2⟩

theorem reconcileLocked_keeps (monotone : terms.monotone) :
    Triple (portal terms) j.thread limit (Busy j) (reconcileLocked j.id)
      (fun _ w => Locking j.thread j.row.dbType j.id j.caller w ∧ Spared j.id j.row w)
      (fun _ w => Locking j.thread j.row.dbType j.id j.caller w ∧ Spared j.id j.row w) := by
  have always : Keeps terms j fun _ => True := Keeps.const True
  have same (w : World) (busy : Busy j w) : Locking j.thread j.row.dbType j.id j.caller w ∧ Spared j.id j.row w :=
    ⟨busy.locking, Or.inl busy.1.1⟩
  have read : Works terms j limit (fun _ => True) (getGrant j.id)
      (fun (found : Option Grant) _ => found = some j.row) (Fails terms j fun _ => True) :=
    Works.quiet (fun c w => (rfl : _ = settleIf true c anyExc w w (w.row j.id))) (fun _ _ => id) always
      (fun _ => Keeps.const _) fun _ _ busy _ _ _ => busy.1.1
  unfold reconcileLocked
  refine Triple.pre (P := fun w => Busy j w ∧ True) ?_ fun _ busy => ⟨busy, trivial⟩
  refine Triple.bind (read.leaves (fun _ _ busy found => And.intro found busy) fun _ w busy _ => same w busy)
    fun (found : Option Grant) => Triple.of_fact fun found => ?_
  subst found
  have clock : Works terms j limit (fun _ => True) time (fun now w => now ≤ w.clock) fun _ _ => False :=
    Works.time always (fun now v w _ rely _ before => before.trans (rely.clock monotone)) fun _ _ _ => Nat.le_refl _
  refine Triple.pre (P := fun w => Busy j w ∧ True) ?_ fun _ busy => ⟨busy, trivial⟩
  refine Triple.bind (clock.leaves (fun _ _ busy held => And.intro busy held) fun _ _ _ failed => failed.elim) fun now => ?_
  have before : Keeps terms j fun w => now ≤ w.clock := fun v w _ rely _ before => before.trans (rely.clock monotone)
  cases decided : finalFor j.row now with
  | none => exact Triple.ret before.stable fun w held => same w held.1
  | some final =>
    rintro w ⟨busy, clock⟩
    obtain ⟨alive, ends, owed⟩ := finalFor_due (w := w) decided fun _ => clock
    have due : finalFor j.row w.clock ≠ none := by
      rw [finalFor_later decided clock]
      exact Option.some_ne_none final
    have cleaned : Triple (portal terms) j.thread limit (fun w => Busy j w ∧ Decides terms j final w)
        (teardown j.id final none "system" false) (fun _ => Locking j.thread j.row.dbType j.id j.caller)
        fun _ => Locking j.thread j.row.dbType j.id j.caller :=
      (teardown_triple alive ends fun _ => monotone).mono (fun _ held => held) (fun _ _ _ finished => finished.locking)
        fun _ _ _ failed => failed.1.locking
    exact kept_overdue j.id j.row monotone cleaned w ⟨⟨busy, fun _ => owed⟩, due⟩

theorem end_keeps {X : Exc → World → Prop} (solo : terms.solo = some t) (monotone : terms.monotone) {db : DbType}
    {caller : Caller} : Triple (portal terms) t limit (fun w => Locking t db id caller w ∧ Spared id r w) (end_ db id)
      (fun _ w => w.Resting t ∧ Spared id r w) X := by
  have same : Lasting terms t fun w => ∃ g, w.row id = some g ∧ g = r := row_lasting solo id (· = r)
  have never : Triple (portal terms) t limit (fun w => Locking t db id caller w ∧ ∃ g, w.row id = some g ∧ g = r)
      (end_ db id) (fun _ w => w.Resting t ∧ ∃ g, w.row id = some g ∧ g = r) X := end_triple same
  rintro w ⟨locking, row | due⟩
  · refine (never w ⟨locking, r, row, rfl⟩).mono fun outcome v _ post => ?_
    cases outcome with
    | ok _ =>
      obtain ⟨resting, g, found, rfl⟩ := post
      exact ⟨resting, Or.inl found⟩
    | error _ => exact post
  · have ended : Triple (portal terms) t limit (fun w => Locking t db id caller w ∧ True) (end_ db id)
        (fun _ w => w.Resting t ∧ True) fun _ _ => False := end_triple (Lasting.const True)
    refine (kept_overdue id r monotone ended w ⟨⟨locking, trivial⟩, due⟩).mono fun outcome v _ post => ?_
    cases outcome with
    | ok _ => exact ⟨post.1.1, post.2⟩
    | error _ => exact post.1.elim

/-- The reconciler leaves the row of a grant alone until there is something to do for it. -/
theorem reconcileOne_keeps (solo : terms.solo = some t) (loud : ¬terms.quiet id) (monotone : terms.monotone) :
    Triple (portal terms) t limit (fun w => w.Resting t ∧ Spared id r w) (reconcileOne id)
      (fun _ w => w.Resting t ∧ Spared id r w) (fun _ w => w.Resting t ∧ Spared id r w) := by
  rintro w ⟨resting, row | due⟩
  case inr =>
    refine ((kept_overdue id r monotone (reconcileOne_triple loud fun _ => monotone)) w
      ⟨⟨resting, trivial⟩, due⟩).mono fun outcome v _ post => ?_
    cases outcome with
    | ok _ => exact ⟨post.1.1, post.2⟩
    | error _ => exact ⟨post.1.1, post.2⟩
  case inl =>
    have rests : Stable (portal terms) t fun w => w.row id = some r := row_stable solo id (some r)
    have kept (w : World) (held : w.Resting t ∧ w.row id = some r) : w.Resting t ∧ Spared id r w := ⟨held.1, Or.inl held.2⟩
    have read : Triple (portal terms) t limit (fun w => w.Resting t ∧ w.row id = some r) (getGrant id)
        (fun (row : Option Grant) w => row = some r ∧ w.Resting t ∧ w.row id = some r)
        fun _ w => w.Resting t ∧ Spared id r w := by
      refine Triple.perform (resting_stable rests) (fun row v w rely inv held => ?_)
        (fun _ => resting_stable (Spared.stable solo monotone)) ?_
      · exact ⟨held.1, resting_stable rests v w rely inv held.2⟩
      rintro v ⟨resting, row⟩ inv answer u ⟨c, executed, allowed⟩
      have executed : settle c anyExc v v (v.row id) = some (answer, u) := executed
      rcases settle_cases executed with ⟨rfl, rfl, -⟩ | ⟨e, rfl, -, ⟨rfl, -⟩ | rfl, -⟩
      · exact ⟨inv, ⟨(Same.refl u).guar inv t, allowed.solo⟩, row, resting, row⟩
      · exact ⟨inv, ⟨(Same.refl u).guar inv t, allowed.solo⟩, kept u ⟨resting, row⟩⟩
      · exact ⟨inv, ⟨(Same.refl u).guar inv t, allowed.solo⟩, kept u ⟨resting, row⟩⟩
    have run : Triple (portal terms) t limit (fun w => w.Resting t ∧ w.row id = some r) (reconcileOne id)
        (fun _ w => w.Resting t ∧ Spared id r w) fun _ w => w.Resting t ∧ Spared id r w := by
      refine Triple.bind read fun (row : Option Grant) => Triple.of_fact fun same => ?_
      subst same
      have placed : Lasting terms t fun w => ∃ g, w.row id = some g ∧ g = r := row_lasting solo id (· = r)
      have entered : Triple (portal terms) t limit (fun w => w.Resting t ∧ w.row id = some r)
          (begin_ r.dbType id .reconcile) (fun _ w => Entered t r.dbType id .reconcile w ∧ w.row id = some r)
          fun _ w => w.Resting t ∧ Spared id r w := by
        refine (begin_triple placed (fun w held _ => ?_) loud).mono (fun w held => ⟨held.1, r, held.2, rfl⟩)
          (fun _ w _ held => ?_) fun _ w _ held => ?_
        · obtain ⟨g, found, rfl⟩ := held
          exact ⟨g, found, rfl⟩
        · obtain ⟨⟨entered, -⟩, g, found, rfl⟩ := held
          exact ⟨entered, found⟩
        · obtain ⟨⟨resting, g, found, rfl⟩, -⟩ := held
          exact kept w ⟨resting, found⟩
      have ended : Triple (portal terms) t limit (fun w => Locking t r.dbType id .reconcile w ∧ Spared id r w)
          (end_ r.dbType id) (fun _ w => w.Resting t ∧ Spared id r w) fun _ w => w.Resting t ∧ Spared id r w :=
        end_keeps solo monotone
      refine Triple.bind entered fun _ => Triple.finally_ ?_ (fun _ => ended) (fun _ => ended)
        (fun _ => resting_stable (Spared.stable solo monotone)) fun _ => resting_stable (Spared.stable solo monotone)
      rintro w ⟨entered, row⟩
      let j : Job := ⟨t, id, r, .reconcile, none, w.deadline t⟩
      exact reconcileLocked_keeps (j := j) monotone w ⟨⟨row, entered.lock⟩, entered.watch, rfl, entered.inflight⟩
    exact run w ⟨resting, row⟩

end single

/-- The call writes no row of the grant. -/
def Op.spares (id : GrantId) : Op → Prop
  | .insertGrant _ g => g.id ≠ id
  | .updateGrant _ other _ => other ≠ id
  | _ => True

section spares
variable {id other : GrantId}

theorem exec_spares {t : Nat} {op : Op} {c : Choice} {v w : World} {answer : Except Exc (Ans op)} (spares : op.spares id)
    (executed : exec t op c v = some (answer, w)) : w.row id = v.row id := by
  rcases exec_effect executed with rfl | ⟨rfl, possible⟩
  · rfl
  · cases op
    case insertGrant now g =>
      have absent : v.store.getGrant g.id = none := possible
      exact (Store.getGrant_insertGrant v.store absent id).trans (if_neg (Ne.symm spares))
    case updateGrant now other fields =>
      have stored := (@World.updated_eq t other v now fields).2.2.2.2.2.2.2.2
      rw [World.effect, World.row, stored, Store.getGrant_updateGrant, if_neg (Ne.symm spares)]
      rfl
    case mark m => cases m <;> rfl
    case runStatement db text account =>
      rw [World.effect]
      cases ran : v.statement db text account c.count with
      | none => rfl
      | some w' =>
        have frame : Frame {} v w' := World.statement_frame ran
        exact frame.row id
    all_goals rfl

theorem spares_of_inside {α : Type} {p : Portal α} (differs : other ≠ id) (all : p.All (Op.inside other)) :
    p.All (Op.spares id) := by
  refine all.mono fun op inside => ?_
  cases op
  case insertGrant now g =>
    have same : g.id = other := inside
    exact fun here => differs (same ▸ here)
  case updateGrant now written fields =>
    have same : written = other := inside
    exact fun here => differs (same ▸ here)
  all_goals trivial

theorem spares_of_outside {α : Type} {p : Portal α} (all : p.All Op.outside) : p.All (Op.spares id) := by
  refine all.mono fun op outside => ?_
  cases op
  case insertGrant | updateGrant => exact outside.elim
  all_goals trivial

theorem spares_ask (op : Op) (spares : op.spares id) : (ask op).All (Op.spares id) := All.perform spares

theorem spares_reconcileOne (differs : other ≠ id) : (reconcileOne other).All (Op.spares id) := by
  refine All.bind (spares_ask _ trivial) fun (row : Option Grant) => ?_
  cases row with
  | none => trivial
  | some g =>
    refine All.bind (All.bind (spares_ask _ trivial) fun (acquired : Bool) => ?_) fun _ => ?_
    · cases acquired with
      | false => trivial
      | true => exact spares_ask _ trivial
    · refine All.finally_ (spares_of_inside differs (inside_reconcileLocked other)) ?_
      exact All.bind (spares_ask _ trivial) fun _ => spares_ask _ trivial

end spares

/-- The rows are listed, and the grants the thread asks for are not in flight. -/
def Unhindered : (op : Op) → Except Exc (Ans op) → Prop
  | .listByStatus _, answer => ∃ rows, answer = .ok rows
  | .inflightHas _, answer => answer = .ok false
  | _, _ => True

/-- The discipline of a reconciler that runs alone. -/
def recovery (t : Nat) (F : GrantId → Prop) : Interaction.Discipline calls Exc World Nat :=
  (portal (recovering t F)).narrow Unhindered

section pass
variable {t : Nat} {F : GrantId → Prop} {limit : Option Nat} {id : GrantId} {r g : Grant} {start now : Time}
  {final : Status} {P P' : World → Prop}

theorem recovering_solo : (recovering t F).solo = some t := rfl

theorem recovering_loud (id : GrantId) : ¬(recovering t F).quiet id := False.elim

/-- One turn of the loop, which never raises. -/
theorem reconcileRow_turn (stable : Stable (portal (recovering t F)) t P) (stable' : Stable (portal (recovering t F)) t P')
    (one : Triple (portal (recovering t F)) t limit (fun w => w.Resting t ∧ P w) (reconcileOne g.id)
      (fun _ w => w.Resting t ∧ P' w) fun _ w => w.Resting t ∧ P' w)
    (skip : finalFor g now = none → ∀ w, P w → P' w) :
    Triple (recovery t F) t limit (fun w => w.Resting t ∧ P w) (reconcileRow now g) (fun _ w => w.Resting t ∧ P' w)
      fun _ _ => False := by
  have looked : Triple (recovery t F) t limit (fun w => w.Resting t ∧ P w) (ask (.inflightHas g.id))
      (fun (busy : Bool) w => busy = false ∧ w.Resting t ∧ P w) fun _ _ => False := by
    refine Triple.perform (resting_stable stable) (fun busy v w rely inv held => ?_) (fun _ _ _ _ _ failed => failed) ?_
    · exact ⟨held.1, resting_stable stable v w rely inv held.2⟩
    rintro v held inv answer u ⟨⟨c, executed, allowed⟩, absent⟩
    have absent : answer = .ok false := absent
    subst absent
    have executed : some (Except.ok (v.inflight.any (·.2 = g.id)), v) = some (Except.ok false, u) := executed
    simp only [Option.some.injEq, Prod.mk.injEq] at executed
    obtain ⟨-, rfl⟩ := executed
    exact ⟨inv, ⟨(Same.refl v).guar inv t, allowed.solo⟩, rfl, held⟩
  refine Triple.bind looked fun (busy : Bool) => Triple.of_fact fun absent => ?_
  subst absent
  cases due : finalFor g now with
  | none => exact Triple.ret (resting_stable stable) fun w held => ⟨held.1, skip due w held.2⟩
  | some final =>
    have quiet : Triple (portal (recovering t F)) t limit (fun w => w.Resting t ∧ P w) (quietly (reconcileOne g.id))
        (fun _ w => w.Resting t ∧ P' w) fun _ _ => False :=
      Triple.onError one (fun _ => resting_stable stable') fun _ =>
        Triple.ret (resting_stable stable') fun _ held => held
    exact quiet.narrow

/-- Code that writes no row of the grant. -/
theorem Plain.frames {α : Type} {p : Portal α} (plain : Plain (recovering t F) t limit (fun _ => True) p)
    (all : p.All (Op.spares id)) (row : Option Grant) :
    Triple (portal (recovering t F)) t limit (fun w => w.Resting t ∧ w.row id = row) p
      (fun _ w => w.Resting t ∧ w.row id = row) fun _ w => w.Resting t ∧ w.row id = row := by
  refine (plain.frame_all (row_stable recovering_solo id row) (fun op spares v answer u _ step held => ?_) all).mono
    (fun _ held => ⟨⟨held.1, trivial⟩, held.2⟩) (fun _ _ _ held => ⟨held.1.1, held.2⟩) fun _ _ _ held => ⟨held.1.1, held.2⟩
  obtain ⟨c, executed, -⟩ := step
  rw [exec_spares spares executed, held]

theorem reconcileOne_plain (id : GrantId) : Plain (recovering t F) t limit (fun _ => True) (reconcileOne id) :=
  reconcileOne_triple (recovering_loud id) fun _ => trivial

/-- The row is on the list of what is left to do, or it has been brought to its end. -/
def Listed (id : GrantId) (r : Grant) (start : Time) (final : Status) (rest : List Grant) (w : World) : Prop :=
  (w.row id = some r ∧ r ∈ rest) ∧ start ≤ w.clock ∨ Concluded id final w

theorem Concluded.lasting : Lasting (recovering t F) t (Concluded id final) :=
  row_lasting recovering_solo id (·.status = final)

theorem Listed.stable (rest : List Grant) : Stable (portal (recovering t F)) t (Listed id r start final rest) := by
  rintro v w rely inv (⟨⟨row, member⟩, before⟩ | concluded)
  · exact Or.inl ⟨⟨row_stable recovering_solo id (some r) v w rely inv row, member⟩, before.trans (rely.1.clock trivial)⟩
  · exact Or.inr (Concluded.lasting.stable v w rely inv concluded)

theorem finalFor_terminal (ends : g.status.terminal = true) (now : Time) : finalFor g now = none := by
  unfold finalFor
  cases status : g.status <;> rw [status] at ends <;> first | rfl | cases ends

theorem turn_settles (smooth : ¬F id) (due : finalFor r start = some final) (known : r.id = id) (before : start ≤ now)
    (rest : List Grant) :
    Triple (recovery t F) t limit (fun w => w.Resting t ∧ Listed id r start final (g :: rest) w) (reconcileRow now g)
      (fun _ w => w.Resting t ∧ Listed id r start final rest w) fun _ _ => False := by
  refine reconcileRow_turn (Listed.stable _) (Listed.stable _) ?_ ?_
  · rintro w ⟨resting, listed⟩
    by_cases same : g.id = id
    · rw [same]
      rcases listed with ⟨⟨row, -⟩, clock⟩ | ⟨r', row, status⟩
      · refine (reconcileOne_settles recovering_solo smooth (recovering_loud id) trivial due w
          ⟨resting, row, clock⟩).mono fun outcome v _ post => ?_
        cases outcome with
        | ok _ => exact ⟨post.1, Or.inr post.2⟩
        | error _ => exact post.elim
      · have none : ∀ now, finalFor r' now = none := finalFor_terminal (by rw [status]; exact (finalFor_ends due (Nat.le_refl start)).2.1)
        refine (reconcileOne_keeps recovering_solo (recovering_loud id) trivial w ⟨resting, Or.inl row⟩).mono
          fun outcome v _ post => ?_
        have kept (kept : v.Resting t ∧ Spared id r' v) : v.Resting t ∧ Listed id r start final rest v :=
          ⟨kept.1, Or.inr ⟨r', kept.2.resolve_right fun due => due (none _), status⟩⟩
        cases outcome with
        | ok _ => exact kept post
        | error _ => exact kept post
    · rcases listed with ⟨⟨row, member⟩, clock⟩ | ⟨r', row, status⟩
      · have framed : Triple (portal (recovering t F)) t limit
            (fun w => (w.Resting t ∧ w.row id = some r) ∧ start ≤ w.clock) (reconcileOne g.id)
            (fun _ w => (w.Resting t ∧ w.row id = some r) ∧ start ≤ w.clock)
            fun _ w => (w.Resting t ∧ w.row id = some r) ∧ start ≤ w.clock :=
          ((reconcileOne_plain g.id).frames (spares_reconcileOne same) (some r)).frame (clock_stable trivial start)
            fun v w guar before => before.trans (guar.1.clock trivial)
        refine (framed w ⟨⟨resting, row⟩, clock⟩).mono fun outcome v _ post => ?_
        have left : r ∈ rest := (List.mem_cons.mp member).resolve_left fun here => same (here ▸ known)
        cases outcome with
        | ok _ => exact ⟨post.1.1, Or.inl ⟨⟨post.1.2, left⟩, post.2⟩⟩
        | error _ => exact ⟨post.1.1, Or.inl ⟨⟨post.1.2, left⟩, post.2⟩⟩
      · refine ((reconcileOne_plain g.id).frames (spares_reconcileOne same) (some r') w ⟨resting, row⟩).mono
          fun outcome v _ post => ?_
        cases outcome with
        | ok _ => exact ⟨post.1, Or.inr ⟨r', post.2, status⟩⟩
        | error _ => exact ⟨post.1, Or.inr ⟨r', post.2, status⟩⟩
  · rintro none w (⟨⟨row, member⟩, clock⟩ | concluded)
    · rcases List.mem_cons.mp member with rfl | member
      · rw [finalFor_later due before] at none
        cases none
      · exact Or.inl ⟨⟨row, member⟩, clock⟩
    · exact Or.inr concluded

/-- What a pass does after its rows. -/
def passTail : Portal Unit :=
  purgeSessions.bind fun purged =>
    (Interaction.Prog.forEach purged fun session => revokeTokenQuietly session.vaultToken).bind fun _ => reportOrphans

theorem outside_passTail : passTail.All Op.outside := by
  refine All.bind (All.bind (outside_ask _ trivial) fun _ => outside_ask _ trivial) fun (purged : List Session) => ?_
  refine All.bind (All.forEach fun session _ => All.onError (outside_ask _ trivial) fun _ => trivial) fun _ => ?_
  exact outside_reportOrphans

theorem passTail_plain : Plain (recovering t F) t limit (fun _ => True) passTail := by
  have rests : Lasting (recovering t F) t fun _ => True := Lasting.const True
  refine Plain.bind (Plain.bind (Plain.ask rests rfl) fun _ => Plain.ask rests rfl) fun (purged : List Session) => ?_
  refine Plain.bind (Plain.forEach rests fun session => Plain.quietly rests (Plain.ask rests rfl)) fun _ => ?_
  exact Plain.reportOrphans rests

/-- The list of a pass has every row that is not finished. -/
theorem listed_of_alive {w : World} (alive : r.status.terminal = false) (row : w.row id = some r) :
    r ∈ w.store.listByStatus [.issuing, .revoking, .active] := by
  have member : r ∈ w.store.grants := List.mem_of_find?_eq_some row
  rw [Store.listByStatus, List.mem_insertionSort, List.mem_filter]
  refine ⟨member, ?_⟩
  cases status : r.status <;> rw [status] at alive <;> first | rfl | cases alive

/-- A pass of a reconciler that runs alone brings the row of a grant that is due to its end, where the calls for the
grant go well. -/
theorem reconcileOnce_settles (smooth : ¬F id) (due : finalFor r start = some final) :
    Triple (recovery t F) t limit (fun w => w.Resting t ∧ w.row id = some r ∧ start ≤ w.clock) reconcileOnce
      (fun _ => Concluded id final) fun _ => Concluded id final := by
  have rests : Stable (portal (recovering t F)) t fun w => w.row id = some r ∧ start ≤ w.clock := fun v w rely inv held =>
    ⟨row_stable recovering_solo id (some r) v w rely inv held.1, clock_stable trivial start v w rely inv held.2⟩
  have stands : Stable (portal (recovering t F)) t fun w => w.Resting t ∧ w.row id = some r ∧ start ≤ w.clock :=
    resting_stable rests
  have read : Triple (recovery t F) t limit (fun w => w.Resting t ∧ w.row id = some r ∧ start ≤ w.clock) time
      (fun now w => start ≤ now ∧ w.Resting t ∧ w.row id = some r ∧ start ≤ w.clock) fun _ => Concluded id final := by
    refine Triple.perform stands (fun now v w rely inv held => ⟨held.1, stands v w rely inv held.2⟩)
      (fun _ => Concluded.lasting.stable) ?_
    rintro v held inv answer u ⟨⟨c, executed, allowed⟩, -⟩
    cases executed
    exact ⟨inv, ⟨(Same.refl v).guar inv t, allowed.solo⟩, held.2.2, held⟩
  have list : Triple (recovery t F) t limit (fun w => w.Resting t ∧ w.row id = some r ∧ start ≤ w.clock)
      (listByStatus [.issuing, .revoking, .active])
      (fun (rows : List Grant) w => r.id = id ∧ w.Resting t ∧ Listed id r start final rows w)
      fun _ => Concluded id final := by
    refine Triple.perform stands (fun rows v w rely inv held =>
      ⟨held.1, resting_stable (Listed.stable rows) v w rely inv held.2⟩) (fun _ => Concluded.lasting.stable) ?_
    rintro v ⟨resting, row, before⟩ inv answer u ⟨⟨c, executed, allowed⟩, rows, listed⟩
    subst listed
    have executed : settle c anyExc v v (v.store.listByStatus [.issuing, .revoking, .active]) = some (.ok rows, u) :=
      executed
    rcases settle_cases executed with ⟨same, rfl, -⟩ | ⟨e, same, -⟩
    · cases same
      refine ⟨inv, ⟨(Same.refl _).guar inv t, allowed.solo⟩, Store.getGrant_id row, resting, Or.inl ⟨⟨row, ?_⟩, before⟩⟩
      exact listed_of_alive (finalFor_ends due (Nat.le_refl start)).1 row
    · cases same
  refine Triple.bind read fun now => Triple.of_fact fun before => ?_
  refine Triple.bind list fun (rows : List Grant) => Triple.of_fact fun known => ?_
  have turns : Triple (recovery t F) t limit (fun w => w.Resting t ∧ Listed id r start final rows w)
      (Interaction.Prog.forEach rows (reconcileRow now)) (fun _ w => w.Resting t ∧ Listed id r start final [] w)
      fun _ => Concluded id final :=
    Triple.forEach (fun rest w => w.Resting t ∧ Listed id r start final rest w) (resting_stable (Listed.stable []))
      fun g rest _ => (turn_settles smooth due known before rest).mono (fun _ held => held) (fun _ _ _ held => held)
        fun _ _ _ failed => failed.elim
  refine Triple.bind turns fun _ => ?_
  rintro w ⟨resting, ⟨⟨-, none⟩, -⟩ | ⟨r', row, status⟩⟩
  · cases none
  · have tail : Triple (portal (recovering t F)) t limit (fun w => w.Resting t ∧ w.row id = some r') passTail
        (fun _ w => w.Resting t ∧ w.row id = some r') fun _ w => w.Resting t ∧ w.row id = some r' :=
      passTail_plain.frames (spares_of_outside outside_passTail) (some r')
    refine ((tail w ⟨resting, row⟩).mono fun outcome v _ post => ?_).narrow
    cases outcome with
    | ok _ => exact ⟨r', post.2, status⟩
    | error _ => exact ⟨r', post.2, status⟩

/-- Code that writes no row of the grant leaves the row as it was. -/
theorem Plain.keeps {α : Type} {p : Portal α} (plain : Plain (recovering t F) t limit (fun _ => True) p)
    (all : p.All (Op.spares id)) :
    Triple (portal (recovering t F)) t limit (fun w => w.Resting t ∧ Spared id r w) p
      (fun _ w => w.Resting t ∧ Spared id r w) fun _ w => w.Resting t ∧ Spared id r w := by
  rintro w ⟨resting, row | due⟩
  · refine (plain.frames all (some r) w ⟨resting, row⟩).mono fun outcome v _ post => ?_
    cases outcome with
    | ok _ => exact ⟨post.1, Or.inl post.2⟩
    | error _ => exact ⟨post.1, Or.inl post.2⟩
  · refine (kept_overdue id r trivial plain w ⟨⟨resting, trivial⟩, due⟩).mono fun outcome v _ post => ?_
    cases outcome with
    | ok _ => exact ⟨post.1.1, post.2⟩
    | error _ => exact ⟨post.1.1, post.2⟩

/-- A pass leaves the row of a grant alone until there is something to do for it. -/
theorem reconcileOnce_keeps :
    Triple (recovery t F) t limit (fun w => w.Resting t ∧ Spared id r w) reconcileOnce (fun _ => Spared id r)
      fun _ => Spared id r := by
  have kept : Stable (portal (recovering t F)) t (Spared id r) := Spared.stable recovering_solo trivial
  have stands : Stable (portal (recovering t F)) t fun w => w.Resting t ∧ Spared id r w := resting_stable kept
  have rests : Lasting (recovering t F) t fun _ => True := Lasting.const True
  have read : Triple (recovery t F) t limit (fun w => w.Resting t ∧ Spared id r w) time
      (fun _ w => w.Resting t ∧ Spared id r w) fun _ w => w.Resting t ∧ Spared id r w :=
    ((Plain.ask rests rfl).keeps (spares_ask .now trivial)).narrow
  have list : Triple (recovery t F) t limit (fun w => w.Resting t ∧ Spared id r w)
      (listByStatus [.issuing, .revoking, .active]) (fun _ w => w.Resting t ∧ Spared id r w)
      fun _ w => w.Resting t ∧ Spared id r w := ((Plain.ask rests rfl).keeps (spares_ask (.listByStatus _) trivial)).narrow
  have turn (now : Time) (g : Grant) : Triple (recovery t F) t limit (fun w => w.Resting t ∧ Spared id r w)
      (reconcileRow now g) (fun _ w => w.Resting t ∧ Spared id r w) fun _ _ => False := by
    refine reconcileRow_turn kept kept ?_ fun _ _ held => held
    by_cases same : g.id = id
    · rw [same]
      exact reconcileOne_keeps recovering_solo (recovering_loud id) trivial
    · exact (reconcileOne_plain g.id).keeps (spares_reconcileOne same)
  have tail : Triple (recovery t F) t limit (fun w => w.Resting t ∧ Spared id r w) passTail
      (fun _ w => w.Resting t ∧ Spared id r w) fun _ w => w.Resting t ∧ Spared id r w :=
    (passTail_plain.keeps (spares_of_outside outside_passTail)).narrow
  have turns (now : Time) (rows : List Grant) : Triple (recovery t F) t limit (fun w => w.Resting t ∧ Spared id r w)
      (Interaction.Prog.forEach rows (reconcileRow now)) (fun _ w => w.Resting t ∧ Spared id r w)
      fun _ w => w.Resting t ∧ Spared id r w :=
    Triple.forEach (fun _ w => w.Resting t ∧ Spared id r w) stands fun g _ _ =>
      (turn now g).mono (fun _ held => held) (fun _ _ _ held => held) fun _ _ _ failed => failed.elim
  have pass : Triple (recovery t F) t limit (fun w => w.Resting t ∧ Spared id r w) reconcileOnce
      (fun _ w => w.Resting t ∧ Spared id r w) fun _ w => w.Resting t ∧ Spared id r w :=
    Triple.bind read fun now => Triple.bind list fun (rows : List Grant) => Triple.bind (turns now rows) fun _ => tail
  exact pass.mono (fun _ held => held) (fun _ _ _ held => held.2) fun _ _ _ held => held.2

end pass

/-- What a pass is to do: it brings the rows that are due to their ends, with nothing of the grants left, and it leaves
a row alone until there is something to do for it. -/
def Passed (F : GrantId → Prop) (before w : World) : Prop :=
  (∀ id r final, ¬F id → before.row id = some r → finalFor r before.clock = some final →
    Concluded id final w ∧ w.Clean id) ∧
  ∀ id r, before.row id = some r → Spared id r w

section passes
variable {cfg : Config} {ok : System → Move → Prop} {t : Nat} {F : GrantId → Prop} {s s₁ s' : System}

/-- The thread reconciles alone: no call is started, the process lives, the rows can be listed, the clock does not run
backwards, and the calls for the grants that are not in `F` go well. -/
def Reconciles (t : Nat) (F : GrantId → Prop) (s : System) : Move → Prop
  | .run u choice => MoveOk (recovering t F) s (.run u choice) ∧
      ∀ statuses next, s.threads u = some (.call (.listByStatus statuses) next) → choice.fate = .ok
  | .env event => EventOk (recovering t F) event s.world
  | .spawn .. | .kill => False

/-- A moment without locks, as the terms of a reconciler that runs alone say. -/
theorem Inv.alone {w : World} (inv : Inv {} w) (free : ∀ db, w.locks db = none) : Inv (recovering t F) w where
  absent := inv.absent
  terminal := inv.terminal
  recorded := inv.recorded
  accessor := inv.accessor
  leaseId := inv.leaseId
  tokens := inv.tokens
  leases := inv.leases
  accounts := inv.accounts
  holders := inv.holders
  single := inv.single
  watching t k watch := by
    obtain ⟨r, caller, -, lock, -⟩ := inv.watching t k watch
    rw [free] at lock
    cases lock
  read := False.elim
  shut id name member := ⟨(inv.shut id name member).1, False.elim⟩
  quiet := inv.quiet
  solo u _ db h lock := by
    rw [free] at lock
    cases lock

/-- The threads of a reconciler that runs alone follow its discipline. -/
theorem recovery_adequate (cfg : Config) (Goal : Except Exc Unit → World → Prop) :
    Pool.Adequate (recovery t F) machine (fun _ => Entry.code cfg)
      (fun s label => Reconciles t F s label ∧ System.Run cfg (fun _ _ => True) s) World.Resting
      fun u outcome w => u = t → Goal outcome w where
  exec {s u choice op next answer w} allowed inv at_u executed := by
    refine ⟨⟨choice, executed, allowed.1.1 op next at_u⟩, ?_⟩
    cases op
    case listByStatus statuses =>
      have executed : settle choice anyExc s.world s.world (s.world.store.listByStatus statuses) = some (answer, w) :=
        executed
      rcases settle_cases executed with ⟨rfl, -⟩ | ⟨-, -, fate, -⟩
      · exact ⟨_, rfl⟩
      · exact absurd (allowed.1.2 statuses next at_u) fate
    case inflightHas id =>
      have inv : Inv (recovering t F) s.world := inv
      have free := allowed.2.guards at_u
      have none : s.world.inflight.any (·.2 = id) = false := by
        rw [List.any_eq_false]
        rintro ⟨u', other⟩ member -
        obtain ⟨db, caller, lock⟩ := allowed.2.lock_discipline.2.1 u' other member
        have only : u' = t := inv.solo t rfl db _ lock
        have alone : u = t := (allowed.1.1 _ next at_u).solo t rfl
        exact free db _ lock (only.trans alone.symm)
      have executed : some (Except.ok (s.world.inflight.any (·.2 = id)), s.world) = some (answer, w) := executed
      rw [none] at executed
      cases executed
      rfl
    all_goals trivial
  others differs inv guar := (adequate cfg recovering_loud).others differs inv guar
  env allowed inv happened := (adequate cfg recovering_loud).env allowed.1 inv happened
  reset allowed := allowed.1.elim
  idle resting rely := resting.rely rely.1
  entry allowed := allowed.1.elim

/-- Where no call is running there are no locks, and no grant is in flight. -/
theorem System.Run.still (run : System.Run cfg ok s) (ended : ∀ u, s.Ended u) :
    (∀ db, s.world.locks db = none) ∧ ∀ u id, (u, id) ∉ s.world.inflight := by
  have free (db : DbType) : s.world.locks db = none := by
    cases lock : s.world.locks db with
    | none => rfl
    | some h => exact absurd rfl (run.ended_free (ended h.thread) lock)
  refine ⟨free, fun u id member => ?_⟩
  obtain ⟨db, caller, lock⟩ := run.lock_discipline.2.1 u id member
  rw [free] at lock
  cases lock

/-- What a pass of the reconciler that starts where no call is running has achieved when it has ended. -/
theorem System.Run.pass_ends {Goal : World → Prop} (run : System.Run cfg ok s) (ended : ∀ u, s.Ended u)
    (started : s.move cfg (.spawn t .reconcile) = some s₁) (pass : System.Later cfg (Reconciles t F) s₁ s')
    (done : s'.Ended t) (code : ∀ n, Interaction.Ensures (recovery t F) t (fun _ => Goal) (some n) reconcileOnce s.world) :
    Goal s'.world := by
  obtain ⟨free, landed⟩ := run.still ended
  have every : System.Run cfg (fun _ _ => True) s := run.mono fun _ _ _ => trivial
  have begun : System.Run cfg (fun _ _ => True) s₁ := .next every trivial started
  have moved := started
  unfold System.move Pool.step at moved
  cases at_t : s.threads t with
  | some p => simp only [at_t] at moved; cases moved
  | none =>
    simp only [at_t, Option.some.injEq] at moved
    subst moved
    have rest (u : Nat) : s.world.Resting u := by
      refine ⟨fun db h lock => ?_, landed u⟩
      rw [free] at lock
      cases lock
    have sound : Pool.Sound (recovery t F) World.Resting (fun u _ w => u = t → Goal w)
        (⟨s.world, s.setThread t reconcileOnce⟩ : System) := by
      refine ⟨run.inv.alone free, fun u _ => rest u, fun u p at_u n => ?_⟩
      by_cases same : u = t
      · subst same
        simp only [Pool.setThread, if_true, Option.some.injEq] at at_u
        subst at_u
        exact (code n).mono fun _ _ _ post _ => post
      · simp only [Pool.setThread, same, if_false] at at_u
        rcases ended u p at_u with rfl | ⟨exn, rfl⟩
        · exact .ret fun _ _ _ here => absurd here same
        · exact .raise fun _ _ _ here => absurd here same
    have along := pass.along.mono fun v label allowed =>
      And.intro allowed.1 (begun.later (allowed.2.mono fun _ _ _ => trivial))
    have sound' := (recovery_adequate cfg fun _ => Goal).sound sound along
    obtain ⟨p, at_t'⟩ := Option.ne_none_iff_exists'.mp
      (pass.running (fun _ allowed => allowed) (t := t) (by simp [Pool.setThread]))
    obtain ⟨-, goal⟩ := sound'.ended at_t' (done p at_t')
    exact goal rfl

/-- Whatever fails for the grants in `F`, a pass of the reconciler that runs alone brings every other row that is due to
its end, and it leaves a row alone until there is something to do for it. -/
theorem System.Run.recovers (run : System.Run cfg ok s) (ended : ∀ u, s.Ended u)
    (started : s.move cfg (.spawn t .reconcile) = some s₁) (pass : System.Later cfg (Reconciles t F) s₁ s')
    (done : s'.Ended t) : Passed F s.world s'.world := by
  obtain ⟨free, landed⟩ := run.still ended
  have resting : s.world.Resting t := by
    refine ⟨fun db h lock => ?_, landed t⟩
    rw [free] at lock
    cases lock
  refine ⟨fun id r final smooth row due => ?_, fun id r row => run.pass_ends ended started pass done fun n => ?_⟩
  · have concluded : Concluded id final s'.world := by
      refine run.pass_ends ended started pass done fun n => ?_
      refine (reconcileOnce_settles smooth due s.world ⟨resting, row, Nat.le_refl _⟩).mono fun outcome v _ post => ?_
      cases outcome with
      | ok _ => exact post
      | error _ => exact post
    obtain ⟨r', row', status⟩ := concluded
    have every : System.Run cfg (fun _ _ => True) s := run.mono fun _ _ _ => trivial
    have later : System.Run cfg (fun _ _ => True) s' :=
      System.Run.later (.next every trivial started) (pass.mono fun _ _ _ => trivial)
    refine ⟨⟨r', row', status⟩, later.terminal_clean row' ?_⟩
    rw [status]
    exact (finalFor_ends due (Nat.le_refl _)).2.1
  · refine (reconcileOnce_keeps s.world ⟨resting, Or.inl row⟩).mono fun outcome v _ post => ?_
    cases outcome with
    | ok _ => exact post
    | error _ => exact post

/-- Whatever there is of a grant in Vault or in a database, its row is on the list the reconciler reads, and the accounts
are in the database of the row. -/
theorem System.Run.tracked (run : System.Run cfg ok s) {id : GrantId} (left : ¬s.world.Clean id) :
    ∃ r ∈ s.world.store.listByStatus [.issuing, .revoking, .active], r.id = id ∧
      ∀ db, ∀ name ∈ (s.world.dbs db).accounts, id.OwnsAccount name → r.dbType = db := by
  have inv := run.inv
  cases row : s.world.row id with
  | none => exact absurd (inv.absent id row).1 left
  | some r =>
    have alive : r.status.terminal = false := by
      cases ends : r.status.terminal with
      | false => rfl
      | true => exact absurd (inv.terminal id r row ends) left
    exact ⟨r, listed_of_alive alive row, Store.getGrant_id row, fun db name member owns =>
      (inv.accounts db name member).2 id r owns row⟩

end passes

/-- An issue that has made its role, its token and its account. -/
def issuingState : System := System.start.staged someConfig [.starts 0 (.issue postgresRequest "admin" "1"), .goes 0 23]

theorem issuingState_run : System.Run someConfig (fun _ _ => True) issuingState :=
  System.Later.staged (fun _ _ _ => trivial) _ .start

set_option maxRecDepth 100000 in
theorem issuingState_role : (issuingState.world.vault.roles someId.text).isSome = true := by decide

theorem issuingState_tracked : ∃ r ∈ issuingState.world.store.listByStatus [.issuing, .revoking, .active], r.id = someId ∧
    ∀ db, ∀ name ∈ (issuingState.world.dbs db).accounts, someId.OwnsAccount name → r.dbType = db := by
  refine issuingState_run.tracked fun clean => ?_
  have there := issuingState_role
  rw [clean.role] at there
  cases there

/-- The process has died in the middle of it. -/
def interruptedState : System := ⟨issuingState.world.reset, fun _ => none⟩

theorem interruptedState_run : System.Run someConfig (fun _ _ => True) interruptedState := by
  have died : issuingState.move someConfig .kill = some interruptedState := rfl
  exact .next issuingState_run trivial died

/-- The move is one of the reconciler's, and its call goes well. -/
def System.goesWell (t : Nat) (s : System) : Move → Bool
  | .run u c =>
    u = t && (c.fate matches .ok) && !c.flag && s.world.vault.tokens.length ≤ MAX_ACCESSOR_SCAN &&
      (s.world.deadline t).all (s.world.clock ≤ ·) &&
      match s.threads t with
      | some (.call (.runStatement ..) _) => c.count = 0
      | _ => true
  | _ => false

theorem System.goesWell_reconciles {t : Nat} {F : GrantId → Prop} (s : System) (move : Move)
    (well : s.goesWell t move = true) : Reconciles t F s move := by
  cases move with
  | run u c =>
    simp only [System.goesWell, Bool.and_eq_true, decide_eq_true_eq, Bool.not_eq_true'] at well
    obtain ⟨⟨⟨⟨⟨rfl, fate⟩, flag⟩, scannable⟩, inTime⟩, ended⟩ := well
    have ok : c.fate = .ok := by
      cases at_fate : c.fate <;> rw [at_fate] at fate <;> first | rfl | cases fate
    refine ⟨fun op next at_u => ⟨False.elim, fun u same => Option.some.inj same, fun _ _ _ => ⟨Or.inl ok, fun _ _ => flag,
      fun db text account same => ?_, fun _ deadline known => ?_, fun _ => scannable⟩⟩, fun _ _ _ => ok⟩
    · subst same
      simpa [at_u] using ended
    · simpa [known] using inTime
  | spawn | env | kill => cases well

/-- The state from which the reconciler starts, and the one in which it has ended. -/
def recoveringState : System := ⟨interruptedState.world, interruptedState.setThread 1 reconcileOnce⟩

def recoveredState : System :=
  System.play someConfig (System.goesWell 1) (List.replicate 100 (System.onward 1)) recoveringState

def System.over (s : System) (t : Nat) : Bool :=
  match s.threads t with
  | some (.ret _) | some (.raise _) | none => true
  | some _ => false

theorem System.over_ended {s : System} {t : Nat} (past : s.over t = true) : s.Ended t := by
  intro p at_t
  rw [System.over, at_t] at past
  cases p with
  | ret value => exact Or.inl rfl
  | raise exn => exact Or.inr ⟨exn, rfl⟩
  | call | iter => cases past

set_option maxRecDepth 100000 in
theorem recoveredState_over : recoveredState.over 1 = true := by decide

set_option maxRecDepth 100000 in
theorem interruptedState_due : (interruptedState.world.row someId).map
    (fun r => (r.status, finalFor r interruptedState.world.clock)) = some (.issuing, some .failed) := by decide

theorem recoveredState_clean : Concluded someId .failed recoveredState.world ∧ recoveredState.world.Clean someId := by
  obtain ⟨r, row, due⟩ := Option.map_eq_some_iff.mp interruptedState_due
  have pass : System.Later someConfig (Reconciles 1 (· = otherId)) recoveringState recoveredState :=
    System.Later.play System.goesWell_reconciles _ .start
  have none (u : Nat) : interruptedState.Ended u := fun p at_u => by cases at_u
  have passed := interruptedState_run.recovers none rfl pass (System.over_ended recoveredState_over)
  exact passed.1 someId r .failed (by decide) row (Prod.mk.inj due).2

end Vdba
