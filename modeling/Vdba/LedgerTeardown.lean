import Vdba.LedgerWrites

namespace Vdba
open Interaction (Triple Stable Keeping)

section steps
variable {p : Pledge} {n : Nat} {k : Errand} {v w : World}

theorem terminateLoop_keeping (alive : k.row.status.terminal = false) (account : String) (deadline : Time) :
    Keeping (ledger p) k.thread (some n) (At p k) (terminateLoop account k.id deadline) := by
  have lasts : Lasts p k.thread (At p k) := At.lasts
  have calm {m : Nat} {α : Type} {prog : Portal α} (all : prog.All Op.calm) :
      Keeping (ledger p) k.thread (some m) (At p k) prog := calm_keeping lasts At.bold all
  refine Keeping.while_ lasts.stable ?_ ?_
  · exact Keeping.bind (calm (calm_of_basic (basic_pgBackends account))) fun _ => Keeping.ret lasts.stable _
  · refine Keeping.bind (calm (calm_ask .now trivial)) fun (now : Time) => ?_
    have run : Keeping (ledger p) k.thread (some n) (At p k)
        ((lift (terminateStatements .postgres account)).bind fun statements =>
          (run_ .postgres k.id statements).bind fun _ => sleep 300000) :=
      Keeping.bind (Keeping.ofExcept lasts.stable _) fun statements =>
        Keeping.bind (run_keeping alive .postgres statements) fun _ => calm (calm_ask (.sleep 300000) trivial)
    dsimp only
    split
    · exact Keeping.bind (Keeping.raise lasts.stable _) fun _ => run
    · exact run

theorem lockOut_keeping (alive : k.row.status.terminal = false) (db : DbType) (account : String) :
    Keeping (ledger p) k.thread (some n) (At p k) (lockOutAndTerminate db account k.id) := by
  have lasts : Lasts p k.thread (At p k) := At.lasts
  have calm {α : Type} {prog : Portal α} (all : prog.All Op.calm) :
      Keeping (ledger p) k.thread (some n) (At p k) prog := calm_keeping lasts At.bold all
  have mark (m : Mark) (quiet : (Op.mark m).calm) : Keeping (ledger p) k.thread (some n) (At p k) (mark m) :=
    calm (calm_ask _ quiet)
  unfold lockOutAndTerminate
  split
  · exact Keeping.ret lasts.stable ()
  · have locked : Keeping (ledger p) k.thread (some n) (At p k) (lockOutPostgres account k.id) := by
      refine Keeping.bind (Keeping.ofExcept lasts.stable _) fun statements => ?_
      refine Keeping.bind (run_keeping alive .postgres statements) fun _ => ?_
      refine Keeping.bind (calm (calm_ask .now trivial)) fun (start : Time) => ?_
      refine Keeping.bind (mark _ trivial) fun _ => ?_
      exact Keeping.bind (terminateLoop_keeping alive account _) fun _ => mark _ trivial
    exact Keeping.onError lasts.stable (Keeping.bind locked fun _ => mark _ trivial) fun exn =>
      Keeping.bind (mark .raised trivial) fun _ => Keeping.raise lasts.stable exn

theorem teardownSteps_keeping (alive : k.row.status.terminal = false) (g : Grant) :
    Keeping (ledger p) k.thread (some n) (At p k) (teardownSteps g k.id) := by
  have lasts : Lasts p k.thread (At p k) := At.lasts
  have calm {α : Type} {prog : Portal α} (all : prog.All Op.calm) :
      Keeping (ledger p) k.thread (some n) (At p k) prog := calm_keeping lasts At.bold all
  have locked (account : String) := lockOut_keeping (p := p) (n := n) alive g.dbType account
  unfold teardownSteps
  refine Keeping.bind (calm (calm_of_basic (basic_tokensOf g k.id))) fun accessors => ?_
  refine Keeping.bind (calm (calm_of_basic (basic_findAccounts _ _))) fun accounts => ?_
  refine Keeping.bind (Keeping.forEach lasts.stable locked) fun _ => ?_
  refine Keeping.bind (calm (calm_of_basic (basic_listLeases _))) fun listed => ?_
  refine Keeping.bind (Keeping.forEach lasts.stable fun lease => calm (calm_of_basic (basic_revokeLease lease))) fun _ => ?_
  refine Keeping.bind (calm (calm_of_basic (basic_findAccounts _ _))) fun present => ?_
  have dropped (account : String) : Keeping (ledger p) k.thread (some n) (At p k)
      ((lockOutAndTerminate g.dbType account k.id).bind fun _ =>
        (lift (dropStatements g.dbType account)).bind fun statements => run_ g.dbType k.id statements) :=
    Keeping.bind (locked account) fun _ => Keeping.bind (Keeping.ofExcept lasts.stable _) fun statements =>
      run_keeping alive g.dbType statements
  refine Keeping.bind (Keeping.forEach lasts.stable dropped) fun _ => ?_
  refine Keeping.bind (calm (calm_of_basic (basic_findAccounts _ _))) fun left => ?_
  have rest : Keeping (ledger p) k.thread (some n) (At p k)
      ((ask (.setOrder (fromkeys accessors))).bind fun (accessors : List String) =>
        (Interaction.Prog.forEach accessors revokeAccessor).bind fun _ => deleteRole k.id.text) :=
    Keeping.bind (calm (calm_ask (.setOrder _) trivial)) fun accessors =>
      Keeping.bind (Keeping.forEach lasts.stable fun accessor => calm (calm_of_basic (basic_revokeAccessor accessor))) fun _ =>
        calm (calm_deleteRole (not_helper k.id))
  dsimp only
  split
  · exact Keeping.bind (Keeping.raise lasts.stable _) fun _ => rest
  · exact rest

end steps

/-- What a teardown may make of a row at the moment. -/
inductive Ends (r : Grant) (high : Time) : Status → Prop
  | failed : r.status = .issuing → Ends r high .failed
  | revoked : r.status = .revoking → Ends r high .revoked
  | expired {expires : Time} : r.status = .active → r.expiresAt = some expires → expires + seconds 15 < high →
      Ends r high .expired

/-- The same errand, later. -/
structure Errand.Follows (k k' : Errand) : Prop where
  thread : k'.thread = k.thread
  id : k'.id = k.id
  caller : k'.caller = k.caller
  begun : k'.begun = k.begun
  dbType : k'.row.dbType = k.row.dbType

/-- The errand with nothing owed, and the row in one of the states. -/
def Settled (p : Pledge) (k : Errand) (states : Status → Prop) (w : World) : Prop :=
  ∃ k', k.Follows k' ∧ k'.debt = none ∧ states k'.row.status ∧ At p k' w

section teardown
variable {p : Pledge} {n : Nat} {k : Errand} {v w : World} {final : Status} {states : Status → Prop}

theorem Ends.later {r : Grant} {high high' : Time} (le : high ≤ high') (ends : Ends r high final) :
    Ends r high' final := by
  cases ends with
  | failed status => exact .failed status
  | revoked status => exact .revoked status
  | expired status at_expires past => exact .expired status at_expires (past.trans_le le)

theorem Ends.lasts {r : Grant} {t : Nat} : Lasts p t fun w => Ends r w.book.high final :=
  ⟨fun _ _ rely _ ends => ends.later rely.high, fun _ _ calm ends => ends.later calm.high⟩

theorem Settled.lasts : Lasts p k.thread (Settled p k states) := by
  refine ⟨fun v w rely inv held => ?_, fun v w calm held => ?_⟩
  · obtain ⟨k', follows, debt, state, at_k⟩ := held
    rw [← follows.thread] at rely
    exact ⟨k', follows, debt, state, At.lasts.stable v w rely inv at_k⟩
  · obtain ⟨k', follows, debt, state, at_k⟩ := held
    exact ⟨k', follows, debt, state, At.lasts.calm v w calm at_k⟩

theorem Settled.bold : Bold k.thread (Settled p k states) := by
  rintro w ⟨k', follows, -, -, at_k⟩ b begun
  rw [← follows.thread] at begun
  exact at_k.1.inserted begun

/-- A teardown begins. -/
def Errand.tearing (k : Errand) : Errand := { k with watching := some k.id }

theorem begin_teardown : Triple (ledger p) k.thread (some n) (fun w => At p k w ∧ Ends k.row w.book.high final)
    (mark (.teardown k.id final)) (fun _ w => At p k.tearing w ∧ Ends k.row w.book.high final) (fun _ _ => False) := by
  have due : Lasts p k.thread fun w => Ends k.row w.book.high final := Ends.lasts
  have before : Lasts p k.thread fun w => At p k w ∧ Ends k.row w.book.high final := At.lasts.and due
  have after : Lasts p k.thread fun w => At p k.tearing w ∧ Ends k.row w.book.high final :=
    (At.lasts (k := k.tearing)).and due
  refine step_triple before.stable (fun _ => after.stable) (fun _ => (Lasts.const False).stable)
    fun v c answer u held books executed _ base guar => ?_
  cases executed
  obtain ⟨held, ends⟩ := held
  refine ⟨?_, ?_, ⟨⟨held.1.held, held.1.owed, held.1.begun, ?_⟩, held.2⟩, ends⟩
  · exact ⟨base, books.unique, books.rows, books.issued, books.ended, books.helpers, books.smoothly, books.told,
      ⟨books.issues.present, books.issues.sole, books.issues.past⟩, books.high⟩
  · refine ⟨guar, fun id r found => ⟨r, found, Or.inl rfl⟩, fun id absent r found => ?_,
      fun id r r' found found' active => ?_, fun _ _ => rfl, fun _ _ => rfl, Nat.le_refl _, fun _ _ paid => paid,
      fun b begun out => ?_⟩
    · rw [show v.row id = some r from found] at absent
      cases absent
    · rw [show v.row id = some r' from found'] at found
      cases found
      exact Or.inl active
    · rw [At.bold v held b begun] at out
      cases out
  · simp [World.marked, Errand.tearing]

/-- What is left after a teardown that failed. -/
theorem teardownFailed_work {requestId : Option String} {actor : String} {raiseErrors : Bool} {exn : Exc}
    (alive : k.row.status.terminal = false) (debt : k.debt = none) (watching : k.watching = some k.id)
    (same : states k.row.status) (again : states .revoking) :
    Triple (ledger p) k.thread (some n) (At p k) (teardownFailed k.id requestId actor raiseErrors exn)
      (fun _ => Settled p k states) (fun _ => Settled p k states) := by
  let fields : GrantFields := { status := some .revoking, lastError := some (some exn.cls.name) }
  have at_k : Lasts p k.thread (At p k) := At.lasts
  have settled : Lasts p k.thread (Settled p k states) := Settled.lasts
  have raised : Triple (ledger p) k.thread (some n) (At p k) (mark .raised)
      (fun _ w => At p k w ∧ ¬p.untroubled k.id) (fun _ => Settled p k states) := by
    refine calm_triple _ at_k At.bold trivial (fun _ => at_k.and (Lasts.const _)) (fun _ => settled)
      fun v c answer u held held' _ _ executed honours => ?_
    cases executed
    refine ⟨held', fun untroubled => ?_⟩
    obtain ⟨watch, at_t, grant⟩ := Option.map_eq_some_iff.mp (held.1.watch.trans watching)
    exact honours.unfailing k.id untroubled rfl watch at_t grant
  have fits (troubled : ¬p.untroubled k.id) (high : Time) : Fits p k fields high := by
    refine ⟨fun now ok => ⟨ok.together, ok.accessor, nofun, nofun, fun _ => rfl⟩, Or.inr ?_, fun _ => ⟨rfl, rfl, rfl⟩,
      nofun, fun _ => rfl, nofun, fun untroubled => absurd untroubled troubled⟩
    cases status : k.row.status <;> rw [status] at alive
    · exact .interrupt
    · exact .retract
    · exact .retry
    all_goals cases alive
  unfold teardownFailed
  refine Triple.bind raised fun _ => ?_
  rintro w ⟨held, troubled⟩
  have write : Triple (ledger p) k.thread (some n) (fun w => At p k w ∧ True) (updateGrant k.id fields)
      (fun _ w => ∃ now, At p (k.written now fields) w) (fun _ => Settled p k states) :=
    (updateGrant_work (Lasts.const True) debt fun _ _ _ _ => fits troubled _).mono (fun _ held => held)
      (fun _ _ _ held => held) fun _ w _ held => ⟨k, ⟨rfl, rfl, rfl, rfl, rfl⟩, debt, same, held⟩
  refine Triple.bind write (fun _ => Triple.of_forall fun now => ?_) w ⟨held, trivial⟩
  have done (w : World) (held : At p (k.written now fields).paid w) : Settled p k states w :=
    ⟨(k.written now fields).paid, ⟨rfl, rfl, rfl, rfl, rfl⟩, rfl, again, held⟩
  have recorded : Triple (ledger p) k.thread (some n) (At p (k.written now fields))
      (audit requestId (some k.id) actor "teardown" "error" exn.cls.name) (fun _ => Settled p k states)
      (fun _ => Settled p k states) :=
    (audit_work (k := k.written now fields) nofun).mono (fun _ held => held) (fun _ w _ held => done w held)
      fun _ w _ failed => done w failed.1
  refine Triple.bind recorded fun _ => ?_
  cases raiseErrors with
  | true => exact Triple.raise settled.stable fun _ held => held
  | false => exact Triple.ret settled.stable fun _ held => held

/-- What is left after a teardown that is through. -/
theorem teardownDone_work {requestId : Option String} {actor : String} (ends : final.terminal = true)
    (debt : k.debt = none) (same : states k.row.status) (after : states final) :
    Triple (ledger p) k.thread (some n) (fun w => At p k w ∧ Ends k.row w.book.high final)
      (teardownDone k.id final requestId actor) (fun _ => Settled p k states) (fun _ => Settled p k states) := by
  let fields : GrantFields := { status := some final, lastError := some none }
  have fits (v : World) (ends : Ends k.row v.book.high final) (held : At p k v) (books : Ledger p v) :
      Fits p k fields v.book.high := by
    have active : final ≠ .active := by
      rintro rfl
      cases ends
    refine ⟨fun now ok => ⟨ok.together, ok.accessor, fun set => ?_, fun unset => ?_, nofun⟩, Or.inr ?_,
      fun _ => ⟨rfl, rfl, rfl⟩, nofun, fun _ => rfl, fun same => absurd (Option.some.inj same) active,
      fun untroubled now => ?_⟩
    · cases ends with
      | expired status => exact ok.set (Or.inl status)
      | failed => rcases set with same | same <;> cases same
      | revoked => rcases set with same | same <;> cases same
    · cases ends with
      | failed status => exact ok.unset (Or.inl status)
      | expired => rcases unset with same | same <;> cases same
      | revoked => rcases unset with same | same <;> cases same
    · cases ends with
      | failed status => exact status ▸ .fail
      | revoked status => exact status ▸ .finish
      | expired status => exact status ▸ .expire
    · cases ends with
      | failed => exact ⟨nofun, nofun, nofun⟩
      | revoked status => exact absurd status (books.smoothly k.id untroubled k.row held.1.held.1).1
      | expired status at_expires past => exact ⟨nofun, nofun, fun _ => ⟨_, at_expires, past⟩⟩
  have write : Triple (ledger p) k.thread (some n) (fun w => At p k w ∧ Ends k.row w.book.high final)
      (updateGrant k.id fields) (fun _ w => ∃ now, At p (k.written now fields) w) (fun _ => Settled p k states) :=
    (updateGrant_work Ends.lasts debt fits).mono (fun _ held => held)
      (fun _ _ _ held => held) fun _ w _ held => ⟨k, ⟨rfl, rfl, rfl, rfl, rfl⟩, debt, same, held⟩
  unfold teardownDone
  refine Triple.bind write fun _ => Triple.of_forall fun now => ?_
  have done (w : World) (held : At p (k.written now fields).paid w) : Settled p k states w :=
    ⟨(k.written now fields).paid, ⟨rfl, rfl, rfl, rfl, rfl⟩, rfl, after, held⟩
  refine (audit_work (k := k.written now fields) fun d time owes => ?_).mono (fun _ held => held)
    (fun _ w _ held => done w held) fun _ w _ failed => done w failed.1
  have owes : debtOf k.id k.row.issuedBy (some k.caller) fields = some d := owes
  cases final <;> cases ends <;> cases owes <;> simp [Debt.paidBy, Status.value]

/-- `_teardown`. -/
theorem teardown_work {requestId : Option String} {actor : String} {raiseErrors : Bool}
    (alive : k.row.status.terminal = false) (ends : final.terminal = true) (debt : k.debt = none)
    (same : states k.row.status) (again : states .revoking) (onward : states final) :
    Triple (ledger p) k.thread (some n) (fun w => At p k w ∧ Ends k.row w.book.high final)
      (teardown k.id final requestId actor raiseErrors) (fun _ => Settled p k states) (fun _ => Settled p k states) := by
  have after : Lasts p k.thread (At p k.tearing) := At.lasts (k := k.tearing)
  have due : Lasts p k.thread fun w => Ends k.row w.book.high final := Ends.lasts
  have both : Lasts p k.thread fun w => At p k.tearing w ∧ Ends k.row w.book.high final := after.and due
  have settled : Lasts p k.thread (Settled p k states) := Settled.lasts
  have earlier (w : World) (held : Settled p k.tearing states w) : Settled p k states w := by
    obtain ⟨k', follows, rest⟩ := held
    exact ⟨k', ⟨follows.thread, follows.id, follows.caller, follows.begun, follows.dbType⟩, rest⟩
  have begun : Triple (ledger p) k.thread (some n) (fun w => At p k w ∧ Ends k.row w.book.high final)
      (mark (.teardown k.id final)) (fun _ w => At p k.tearing w ∧ Ends k.row w.book.high final)
      (fun _ => Settled p k states) :=
    begin_teardown.mono (fun _ held => held) (fun _ _ _ held => held) fun _ _ _ failed => failed.elim
  have read : Triple (ledger p) k.thread (some n) (fun w => At p k.tearing w ∧ Ends k.row w.book.high final)
      (getGrant k.id)
      (fun (row : Option Grant) w => row ≠ none ∧ At p k.tearing w ∧ Ends k.row w.book.high final)
      (fun _ => Settled p k states) := by
    refine calm_triple _ both At.bold.and trivial (fun _ => (Lasts.const _).and both) (fun _ => settled)
      fun v c answer u held held' _ _ executed _ => ?_
    have executed : settle c anyExc v v (v.row k.id) = some (answer, u) := executed
    cases answer with
    | error e => exact ⟨k.tearing, ⟨rfl, rfl, rfl, rfl, rfl⟩, debt, same, held'.1⟩
    | ok row =>
      rcases settle_cases executed with ⟨answered, -⟩ | ⟨e, failed, -⟩
      · cases answered
        refine ⟨?_, held'⟩
        rw [show v.row k.id = some k.row from held.1.1.held.1]
        exact Option.some_ne_none _
      · cases failed
  unfold teardown
  refine Triple.bind begun fun _ => Triple.bind read fun (row : Option Grant) => Triple.of_fact fun found => ?_
  cases row with
  | none => exact absurd rfl found
  | some g =>
    have steps : Keeping (ledger p) k.thread (some n) (fun w => At p k.tearing w ∧ Ends k.row w.book.high final)
        (teardownSteps g k.id) :=
      Triple.frame (teardownSteps_keeping (k := k.tearing) alive g) due.stable fun _ _ enters ends => ends.later enters.high
    refine Triple.attempt steps (fun _ => ?_) fun exn => ?_
    · exact (teardownDone_work (k := k.tearing) ends debt same onward).mono (fun _ held => held)
        (fun _ w _ held => earlier w held) fun _ w _ held => earlier w held
    · exact (teardownFailed_work (k := k.tearing) alive debt rfl same again).mono (fun _ held => held.1)
        (fun _ w _ held => earlier w held) fun _ w _ held => earlier w held

end teardown
end Vdba
