import Vdba.TeardownSteps

namespace Vdba
open Interaction (Triple Stable)

/-- The job after a write of its row. -/
def Job.written (j : Job) (now : Time) (fields : GrantFields) : Job :=
  { j with
    row := j.row.set now fields
    watch := if fields.status.isSome then
        j.watch.map fun k => if k.grant = j.id then { k with wrote := true } else k
      else j.watch }

section writes
variable {terms : Terms} {j : Job} {limit : Option Nat} {P : World → Prop} {now : Time} {fields : GrantFields}

theorem Busy.written {w : World} (busy : Busy j w) (now : Time) (fields : GrantFields) :
    Busy (j.written now fields) (w.updated j.thread now j.id fields) := by
  obtain ⟨-, -, locks, -, -, -, deadline, inflight, -⟩ := @World.updated_eq j.thread j.id w now fields
  refine ⟨⟨World.updated_row busy.1.1 now fields, ?_⟩, ?_, ?_, ?_⟩
  · rw [locks]
    exact busy.1.2
  · unfold World.updated World.noteWrite Job.written
    by_cases named : fields.status.isSome = true
    · simp [named, busy.2.1]
    · simp only [named]
      exact busy.2.1
  · rw [deadline]
    exact busy.2.2.1
  · rw [inflight]
    exact busy.2.2.2

theorem updated_aside (w : World) (t : Nat) (now : Time) (id other : GrantId) (fields : GrantFields) :
    Aside terms other w (w.updated t now id fields) := by
  unfold World.updated World.noteWrite
  split
  · exact { Aside.refl w with }
  · exact { Aside.refl w with }

/-- A write of the row fails without an effect, or with one. -/
def Miswritten (terms : Terms) (j : Job) (fields : GrantFields) (_ : Exc) (w : World) : Prop :=
  (Busy j w ∨ ∃ now, Busy (j.written now fields) w) ∧ ¬terms.smooth j.id

/-- `update_grant` of the row of the job. -/
theorem updateGrant_triple (keepsP : Keeps terms j P) (keepsP' : ∀ now, Keeps terms (j.written now fields) P)
    (closed : ∀ w now, P w → P (w.updated j.thread now j.id fields))
    (fits : ∀ w now, Busy j w → P w → Inv terms w → World.RowFits terms j.id (j.row.set now fields) w)
    (named : fields.status.isSome = true ∨ j.watch = none)
    (raised : ∀ k, j.watch = some k → k.raised = true → (fields.status.getD j.row.status).terminal = false)
    (fresh : terms.fresh → j.row.status.terminal = true → fields.status.getD j.row.status = j.row.status) :
    Triple (portal terms) j.thread limit (fun w => Busy j w ∧ P w) (updateGrant j.id fields)
      (fun _ w => ∃ now, Busy (j.written now fields) w ∧ P w) (Miswritten terms j fields) := by
  have before : Stable (portal terms) j.thread fun w => Busy j w ∧ P w := keepsP.stable
  have after (now : Time) : Stable (portal terms) j.thread fun w => Busy (j.written now fields) w ∧ P w :=
    (keepsP' now).stable
  have busy_stable (now : Time) : Stable (portal terms) j.thread (Busy (j.written now fields)) :=
    fun v w rely _ busy => busy.rely rely.1
  have read : Works terms j limit P time (fun _ => P) fun _ _ => False :=
    Works.time keepsP (fun _ => keepsP) fun v held _ => held
  have read' : Triple (portal terms) j.thread limit (fun w => Busy j w ∧ P w) time (fun _ w => Busy j w ∧ P w)
      (Miswritten terms j fields) := read.leaves (fun _ _ busy held => ⟨busy, held⟩) fun _ _ _ failed => failed.elim
  refine Triple.bind read' fun now => ?_
  refine Triple.perform before (fun _ v w rely inv held => ?_) (fun _ v w rely inv failed => ?_) ?_
  · obtain ⟨now, held⟩ := held
    exact ⟨now, after now v w rely inv held⟩
  · refine ⟨failed.1.imp (fun busy => busy.rely rely.1) fun written => ?_, failed.2⟩
    obtain ⟨now, busy⟩ := written
    exact ⟨now, busy_stable now v w rely inv busy⟩
  · rintro v ⟨busy, held⟩ inv answer u ⟨c, executed, allowed⟩
    have executed : settle c anyExc v (v.updated j.thread now j.id fields) () = some (answer, u) := executed
    have rough (fate : c.fate ≠ .ok) : ¬terms.smooth j.id := fun smooth =>
      fate ((allowed.smooth j.id smooth (Or.inl ⟨_, _, busy.1.2⟩)).ok fun _ => id)
    have watch (k : Watch) (watch : v.watch j.thread = some k) : j.watch = some k := by rw [← busy.2.1, watch]
    have inv' : Inv terms (v.updated j.thread now j.id fields) := World.update_inv inv busy.1 (fits v now busy held inv)
      (named.imp_right fun none => by rw [busy.2.1, none]) fun k at_k flag => raised k (watch k at_k) flag
    have guar : Guar terms j.thread v (v.updated j.thread now j.id fields) := World.update_guar inv busy.1
      fresh fun k at_k flag => raised k (watch k at_k) flag
    rcases settle_cases executed with ⟨rfl, rfl, -⟩ | ⟨e, rfl, fate, ⟨rfl, -⟩ | rfl, -⟩
    · exact ⟨inv', ⟨guar, allowed.solo⟩, now, busy.written now fields, closed v now held⟩
    · exact ⟨inv, ⟨(Same.refl u).guar inv _, allowed.solo⟩, Or.inl busy, rough fate⟩
    · exact ⟨inv', ⟨guar, allowed.solo⟩, Or.inr ⟨now, busy.written now fields⟩, rough fate⟩

theorem audit_works (requestId : Option String) (grantId : Option GrantId) (actor action result detail : String) :
    Works terms j limit (fun _ => True) (audit requestId grantId actor action result detail) (fun _ _ => True)
      (fun _ _ => ¬terms.smooth j.id) := by
  have always : Keeps terms j fun _ => True := Keeps.const True
  refine (Works.time always (fun _ => always) fun _ _ _ => trivial).bind fun now => ?_
  have same (row : AuditRow) (w : World) : Same terms w (w.audited j.thread row) := { (Same.refl w : Same terms w w) with }
  have run (row : AuditRow) : Works terms j limit (fun _ => True) (ask (.addAudit row)) (fun _ _ => True)
      (Fails terms j fun _ => True) :=
    Works.settled (fun c w => (rfl : _ = settleIf true c anyExc w (w.audited j.thread row) ()))
      (fun _ _ => id) always (fun _ => always)
      (fun v _ _ _ _ _ => ⟨(same row v).legal, (same row v).confined j.id, trivial⟩)
      fun _ _ _ _ _ _ => trivial
  exact (run _).mono (fun _ held => held) (fun _ _ held => held) fun _ _ failed => failed.2

/-- A write of the status only. -/
theorem fits_of_status {w : World} (inv : Inv terms w) (busy : Busy j w) (accessor : fields.tokenAccessor = none)
    (lease : fields.leaseId = none) (inactive : fields.status.getD j.row.status ≠ .active)
    (clean : (fields.status.getD j.row.status).terminal = true → w.Clean j.id) :
    World.RowFits terms j.id (j.row.set now fields) w := by
  have same_accessor : (j.row.set now fields).tokenAccessor = j.row.tokenAccessor := by
    simp [Grant.set, accessor]
  have same_lease : (j.row.set now fields).leaseId = j.row.leaseId := by
    simp [Grant.set, lease]
  refine ⟨clean, fun a given => ?_, fun a given => ?_, fun l given => ?_, fun _ _ active => absurd active inactive⟩
  · rw [same_accessor] at given
    exact inv.recorded j.id j.row a busy.1.1 given
  · rw [same_accessor] at given
    exact inv.accessor j.id j.row a busy.1.1 given
  · rw [same_lease] at given
    exact inv.leaseId j.id j.row l busy.1.1 given

/-- The same piece of work, later. -/
structure Follows (j j' : Job) : Prop where
  thread : j'.thread = j.thread
  id : j'.id = j.id
  caller : j'.caller = j.caller
  dbType : j'.row.dbType = j.row.dbType

/-- How a teardown ends: with its final status, or in need of another one. -/
def Finished (terms : Terms) (j : Job) (final : Status) (w : World) : Prop :=
  ∃ j', Follows j j' ∧ Busy j' w ∧ (j'.row.status = final ∨ j'.row.status.terminal = false ∧ ¬terms.smooth j.id)

theorem Follows.trans {j j' j'' : Job} (first : Follows j j') (second : Follows j' j'') : Follows j j'' :=
  ⟨second.thread.trans first.thread, second.id.trans first.id, second.caller.trans first.caller,
    second.dbType.trans first.dbType⟩

theorem Finished.earlier {j' : Job} {final : Status} {w : World} (follows : Follows j j')
    (finished : Finished terms j' final w) : Finished terms j final w := by
  obtain ⟨j'', later, busy, status⟩ := finished
  exact ⟨j'', follows.trans later, busy, by rwa [follows.id] at status⟩

theorem Finished.stable (final : Status) : Stable (portal terms) j.thread (Finished terms j final) := by
  rintro v w rely _ ⟨j', follows, busy, status⟩
  rw [← follows.thread] at rely
  exact ⟨j', follows, busy.rely rely.1, status⟩

/-- Where a teardown raises. -/
def Unfinished (terms : Terms) (j : Job) (final : Status) (_ : Exc) (w : World) : Prop :=
  Finished terms j final w ∧ ¬terms.smooth j.id

/-- After a failure the row is left for another teardown. -/
theorem teardownFailed_triple {final : Status} {requestId : Option String} {actor : String} {raiseErrors : Bool}
    {exn : Exc} (tearing : j.Tearing) (alive : j.row.status.terminal = false) (rough : ¬terms.smooth j.id) :
    Triple (portal terms) j.thread limit (Busy j) (teardownFailed j.id requestId actor raiseErrors exn)
      (fun _ => Finished terms j final) (Unfinished terms j final) := by
  let fields : GrantFields := { status := some .revoking, lastError := some (some exn.cls.name) }
  have always (j : Job) : Keeps terms j fun _ => True := Keeps.const True
  have left (j' : Job) (follows : Follows j j') (alive : j'.row.status.terminal = false) (w : World)
      (busy : Busy j' w) : Finished terms j final w := ⟨j', follows, busy, Or.inr ⟨alive, rough⟩⟩
  unfold teardownFailed
  refine Triple.pre (P := fun w => Busy j w ∧ True) (Triple.bind (raised_triple tearing (fun _ _ _ held => held) alive)
    fun _ => ?_) fun w busy => ⟨busy, trivial⟩
  have write : Triple (portal terms) j.thread limit (fun w => Busy j.raised w ∧ True) (updateGrant j.id fields)
      (fun _ w => ∃ now, Busy (j.raised.written now fields) w ∧ True) (Miswritten terms j.raised fields) :=
    updateGrant_triple (j := j.raised) (always _) (fun _ => always _) (fun _ _ _ => trivial)
      (fun w now busy _ inv => fits_of_status inv busy rfl rfl nofun nofun) (Or.inl rfl) (fun _ _ _ => rfl)
      fun _ terminal => absurd (alive.symm.trans terminal) nofun
  refine Triple.bind (write.mono (fun _ held => held) (fun _ _ _ held => held) fun _ w _ failed => ?_) fun _ => ?_
  · obtain ⟨busy | ⟨now, busy⟩, -⟩ := failed
    · exact ⟨left j.raised ⟨rfl, rfl, rfl, rfl⟩ alive w busy, rough⟩
    · exact ⟨left (j.raised.written now fields) ⟨rfl, rfl, rfl, rfl⟩ rfl w busy, rough⟩
  · rintro w ⟨now, held⟩
    have done (w : World) (busy : Busy (j.raised.written now fields) w) : Finished terms j final w :=
      left (j.raised.written now fields) ⟨rfl, rfl, rfl, rfl⟩ rfl w busy
    have recorded : Triple (portal terms) j.thread limit (fun w => Busy (j.raised.written now fields) w ∧ True)
        (audit requestId (some j.id) actor "teardown" "error" exn.cls.name) (fun _ => Finished terms j final)
        (Unfinished terms j final) :=
      (audit_works (j := j.raised.written now fields) requestId (some j.id) actor _ _ _).leaves
        (fun _ w busy _ => done w busy) fun _ w busy _ => ⟨done w busy, rough⟩
    refine Triple.bind recorded (fun _ => ?_) w held
    cases raiseErrors with
    | true => exact Triple.raise (Finished.stable final) fun w finished => ⟨finished, rough⟩
    | false => exact Triple.ret (Finished.stable final) fun w finished => finished

/-- The final status is written when nothing of the grant is left. -/
theorem teardownDone_triple {final : Status} {requestId : Option String} {actor : String}
    (watch : j.watch = some ⟨j.id, final, false, false⟩) (alive : j.row.status.terminal = false)
    (ends : final.terminal = true) :
    Triple (portal terms) j.thread limit (fun w => Busy j w ∧ w.Clean j.id) (teardownDone j.id final requestId actor)
      (fun _ => Finished terms j final) (Unfinished terms j final) := by
  let fields : GrantFields := { status := some final, lastError := some none }
  have left (now : Time) (w : World) (busy : Busy (j.written now fields) w) : Finished terms j final w :=
    ⟨j.written now fields, ⟨rfl, rfl, rfl, rfl⟩, busy, Or.inl rfl⟩
  have closed (w : World) (now : Time) (clean : w.Clean j.id) : (w.updated j.thread now j.id fields).Clean j.id :=
    clean_down w _ (updated_aside w _ now _ _ fields : Aside terms j.id w _).toLessened clean
  have write : Triple (portal terms) j.thread limit (fun w => Busy j w ∧ w.Clean j.id) (updateGrant j.id fields)
      (fun _ w => ∃ now, Busy (j.written now fields) w ∧ w.Clean j.id) (Miswritten terms j fields) := by
    refine updateGrant_triple clean_down.keeps (fun now => Down.keeps (j := j.written now fields) clean_down) closed
      (fun w now busy clean inv => fits_of_status inv busy rfl rfl (fun active => ?_) fun _ => clean) (Or.inl rfl)
      (fun k at_k raised => ?_) fun _ terminal => absurd (alive.symm.trans terminal) nofun
    · have active : final = .active := active
      rw [active] at ends
      cases ends
    · rw [watch] at at_k
      cases at_k
      cases raised
  unfold teardownDone
  refine Triple.bind (write.mono (fun _ held => held) (fun _ _ _ held => held) fun _ w _ failed => ?_) fun _ => ?_
  · obtain ⟨busy | ⟨now, busy⟩, rough⟩ := failed
    · exact ⟨⟨j, ⟨rfl, rfl, rfl, rfl⟩, busy, Or.inr ⟨alive, rough⟩⟩, rough⟩
    · exact ⟨left now w busy, rough⟩
  · rintro w ⟨now, busy, -⟩
    have recorded : Triple (portal terms) j.thread limit (fun w => Busy (j.written now fields) w ∧ True)
        (audit requestId (some j.id) actor "teardown" final.value "") (fun _ => Finished terms j final)
        (Unfinished terms j final) :=
      (audit_works (j := j.written now fields) requestId (some j.id) actor _ _ _).leaves
        (fun _ w busy _ => left now w busy) fun _ w busy failed => ⟨left now w busy, failed⟩
    exact recorded w ⟨busy, trivial⟩

/-- The job of a teardown that begins. -/
def Job.watched (j : Job) (final : Status) : Job :=
  { j with watch := some ⟨j.id, final, false, false⟩, deadline := none }

/-- What the reconciler needs to know when it begins a teardown. -/
def Decides (terms : Terms) (j : Job) (final : Status) (w : World) : Prop :=
  j.caller = .reconcile → Due terms j.row final w

/-- `_teardown`, whatever the grant is torn down for. -/
theorem teardown_triple {final : Status} {requestId : Option String} {actor : String} {raiseErrors : Bool}
    (alive : j.row.status.terminal = false) (ends : final.terminal = true) (monotone : limit = none → terms.monotone) :
    Triple (portal terms) j.thread limit (fun w => Busy j w ∧ Decides terms j final w)
      (teardown j.id final requestId actor raiseErrors) (fun _ => Finished terms j final)
      (Unfinished terms j final) := by
  have always (j : Job) : Keeps terms j fun _ => True := Keeps.const True
  have decides : Keeps terms j (Decides terms j final) := fun v w _ rely _ due reconcile =>
    (due reconcile).later rely.clock
  have tearing : (j.watched final).Tearing := ⟨_, rfl, rfl⟩
  have begins : Follows j (j.watched final) := ⟨rfl, rfl, rfl, rfl⟩
  have left (w : World) (busy : Busy (j.watched final) w) (rough : ¬terms.smooth j.id) : Finished terms j final w :=
    ⟨j.watched final, ⟨rfl, rfl, rfl, rfl⟩, busy, Or.inr ⟨alive, rough⟩⟩
  have started : Triple (portal terms) j.thread limit (fun w => Busy j w ∧ Decides terms j final w)
      (mark (.teardown j.id final)) (fun _ w => Busy (j.watched final) w ∧ True) (Unfinished terms j final) := by
    refine mark_triple rfl decides (always _) (fun w busy _ _ => ⟨⟨busy.1, ?_, ?_, busy.2.2.2⟩, trivial⟩)
      (fun w k busy due _ watch => ?_) (fun _ _ same => by cases same; rfl) fun _ _ _ _ _ _ same => by cases same
    · simp [World.marked, Job.watched]
    · simp [World.marked, Job.watched]
    · simp only [World.marked, Function.update_self, Option.some.injEq] at watch
      subst watch
      exact ⟨j.row, j.caller, busy.1.1, busy.1.2, (fun same => by cases same), fun _ => ⟨fun _ => alive, due⟩⟩
  have read : Works terms (j.watched final) limit (fun _ => True) (getGrant j.id)
      (fun (found : Option Grant) _ => found = some j.row) (Fails terms j fun _ => True) :=
    Works.quiet (fun c w => (rfl : _ = settleIf true c anyExc w w (w.row j.id))) (fun _ _ => id) (always _)
      (fun _ => Keeps.const _) fun _ _ busy _ _ _ => busy.1.1
  unfold teardown
  refine Triple.bind started fun _ => ?_
  refine Triple.bind (read.leaves (fun _ _ busy found => And.intro busy found) fun _ w busy failed =>
    ⟨left w busy failed.2, failed.2⟩) fun (found : Option Grant) => ?_
  rintro w ⟨busy, rfl⟩
  refine Triple.attempt (teardownSteps_triple (j := j.watched final) tearing rfl alive monotone) (fun _ => ?_)
    (fun exn => ?_) w busy
  · exact (teardownDone_triple (j := j.watched final) rfl alive ends).mono (fun _ held => held)
      (fun _ _ _ finished => finished.earlier begins) fun _ _ _ failed => ⟨failed.1.earlier begins, failed.2⟩
  · rintro w ⟨busy, rough⟩
    have again (j' : Job) (follows : Follows j j') (tearing : j'.Tearing) (alive : j'.row.status.terminal = false) :
        Triple (portal terms) j'.thread limit (Busy j') (teardownFailed j'.id requestId actor raiseErrors exn)
          (fun _ => Finished terms j final) (Unfinished terms j final) :=
      (teardownFailed_triple tearing alive (by rw [follows.id]; exact rough)).mono (fun _ held => held)
        (fun _ _ _ finished => finished.earlier follows) fun _ _ _ failed => ⟨failed.1.earlier follows, rough⟩
    rcases busy with busy | busy
    · exact again (j.watched final) begins tearing alive w busy
    · exact again (j.watched final).raised ⟨rfl, rfl, rfl, rfl⟩ tearing.raised alive w busy

end writes
end Vdba
