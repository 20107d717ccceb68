import Vdba.SearchCalls

namespace Vdba
open Interaction (Triple Stable)

theorem isAccount_ne_hole {name : String} (valid : isAccount name = true) : name ≠ nameHole := by
  rintro rfl
  revert valid
  decide

theorem fill_account {name : String} (valid : isAccount name = true) (helper : String) : fill helper name = name :=
  if_neg (isAccount_ne_hole valid)

section statements
variable {terms : Terms} {j : Job} {v u : World} {db : DbType} {text name account : String} {count : Nat} {deed : Deed}

/-- A statement of a helper does its deed to the account it names. -/
theorem World.statement_deed (ran : v.statement db text account count = some u) (acts : act text = some ⟨deed, name⟩)
    (valid : isAccount name = true) : ∃ d, (v.dbs db).apply name count deed = some d ∧ u = v.setDb db d := by
  rcases statement_cases ran with ⟨none, -⟩ | ⟨a, d, acts', applied, same⟩
  · rw [acts] at none
    cases none
  · rw [acts] at acts'
    cases acts'
    rw [fill_account valid] at applied
    exact ⟨d, applied, same⟩

/-- A statement of a helper keeps the discipline. -/
theorem helper_statement {Q : World → Prop} (ran : v.statement db text account count = some u)
    (acts : act text = some ⟨deed, name⟩) (valid : isAccount name = true) (owns : j.id.Owns name)
    (creates : deed ≠ .create) (drops : deed = .drop → db = .clickhouse) (post : Q u) : Effect terms j v u Q := by
  have mild : Mild db text := by
    intro a acts'
    rw [acts] at acts'
    cases acts'
    exact ⟨creates, drops⟩
  refine ⟨World.statement_legal ran mild, World.statement_confined ran fun a acts' => ?_, post⟩
  rw [acts] at acts'
  cases acts'
  rw [fill_account valid]
  exact owns

theorem single_split {α : Type} {x y : α} {before rest : List α} (split : [x] = before ++ y :: rest) :
    y = x ∧ rest = [] := by
  cases before with
  | nil =>
    cases split
    exact ⟨rfl, rfl⟩
  | cons z zs =>
    have lengths := congrArg List.length split
    simp at lengths

end statements

section lockouts
variable {terms : Terms} {j : Job} {limit : Option Nat} {P : World → Prop} {account : String}

theorem closing_down (owns : j.id.Owns account) : Down j (World.Closing account) :=
  fun _ _ lessened => lessened.closing account owns

theorem shut_down (owns : j.id.Owns account) : Down j (World.Shut account) :=
  fun _ _ lessened => lessened.shut account owns

theorem Down.implied {fact : Prop} {Q : World → Prop} (down : Down j Q) : Down j fun w => fact → Q w :=
  fun v w lessened held holds => down v w lessened (held holds)

/-- The lockout commits `NOLOGIN` before anything is counted. -/
theorem lockout_works (tearing : j.Tearing) (hereditary : Hereditary terms j P) (valid : isAccount account = true)
    (owns : j.id.Owns account) (ready : ∀ w, P w → terms.kept account → w.Sought j.id account) :
    Works terms j limit P (run_ .postgres j.id [lockoutText account])
      (fun _ w => P w ∧ (terms.kept account → w.Closing account)) (Fails terms j P) := by
  let I (rest : List String) (w : World) : Prop := P w ∧ (rest = [] → terms.kept account → w.Closing account)
  have hereditaryI (rest : List String) : Hereditary terms j (I rest) :=
    hereditary.and (closing_down owns).implied.implied.hereditary
  have acts := act_lockoutText account
  refine (run_works (I := I) tearing hereditaryI fun helper text rest v u count split busy held inv _ ran => ?_).mono
    (fun w held => ⟨held, fun none => by cases none⟩) (fun _ w held => ⟨held.1, held.2 rfl⟩) fun _ w failed => ?_
  · obtain ⟨before, split⟩ := split
    obtain ⟨rfl, rfl⟩ := single_split split
    have aside : Aside terms j.id v u := World.statement_aside ran
      (fun a acts' => by rw [acts] at acts'; cases acts'; exact ⟨nofun, nofun⟩)
      (fun a acts' => by rw [acts] at acts'; cases acts'; exact nofun) j.id
    refine helper_statement ran acts valid owns nofun nofun ⟨hereditary v u aside held.1, fun _ kept => ?_⟩
    have after := (aside.sought account kept owns (ready v held.1 kept)).2
    refine after.resolve_left fun can => ?_
    obtain ⟨d, applied, rfl⟩ := World.statement_deed ran acts valid
    obtain ⟨accounts, locked⟩ := Database.apply_lockout applied
    simp only [Event.canLogin, World.setDb_self, Bool.and_eq_true, decide_eq_true_eq] at can
    rw [accounts] at can
    rw [locked can.1] at can
    exact absurd can.2 Bool.false_ne_true
  · obtain ⟨⟨rest, held⟩, rough⟩ := failed
    exact ⟨held.1, rough⟩

theorem terminate_works (tearing : j.Tearing) (hereditary : Hereditary terms j P) (valid : isAccount account = true)
    (owns : j.id.Owns account) :
    Works terms j limit P (run_ .postgres j.id [terminateText account]) (fun _ => P) (Fails terms j P) := by
  have acts := act_terminateText account
  refine (run_works (I := fun _ => P) tearing (fun _ => hereditary)
    fun helper text rest v u count split busy held inv _ ran => ?_).mono
    (fun _ held => held) (fun _ _ held => held) fun _ _ failed => ⟨failed.1.choose_spec, failed.2⟩
  obtain ⟨before, split⟩ := split
  obtain ⟨rfl, rfl⟩ := single_split split
  have aside : Aside terms j.id v u := World.statement_aside ran
    (fun a acts' => by rw [acts] at acts'; cases acts'; exact ⟨nofun, nofun⟩)
    (fun a acts' => by rw [acts] at acts'; cases acts'; exact nofun) j.id
  exact helper_statement ran acts valid owns nofun nofun (hereditary v u aside held)

/-- No backend of a locked-out role: it is shut. -/
theorem shut_of_backends {w : World} (closing : w.Closing account) (none : w.backends account = 0) :
    w.Shut account := by
  obtain ⟨locked, counted⟩ := closing
  refine ⟨?_, by simp [Event.canLogin, locked]⟩
  rcases counted with present | zero
  · rwa [World.backends, if_pos present] at none
  · exact zero

theorem pgBackends_works (tearing : j.Tearing) (hereditary : Hereditary terms j P) (owns : j.id.Owns account)
    (closing : ∀ w, P w → terms.kept account → w.Closing account) :
    Works terms j limit P (pgBackends account) (fun n w => P w ∧ (n = 0 → terms.kept account → w.Shut account))
      (Fails terms j P) := by
  have keepsP := hereditary.keeps tearing
  have connected : Works terms j limit P pgConnect (fun _ => P) (Fails terms j P) :=
    (connect_works keepsP : Works terms j limit P (connect_ .postgres) _ _)
  refine connected.bind fun _ => ?_
  refine Works.quiet (fun c w => (rfl : _ = settleIf true c anyExc w w (w.backends account))) (fun _ _ => id) keepsP
    (fun n => keepsP.and (shut_down owns).implied.implied.keeps) fun v c _ held _ _ => ⟨held, fun none kept => ?_⟩
  exact shut_of_backends (closing v held kept) none

theorem timed_later {deadline bound now later : Nat} (timed : deadline + 300000 ≤ bound + now) (after : now ≤ later) :
    deadline + 300000 ≤ bound + later := by omega

/-- A round that began before the deadline and slept has used up part of the bound. -/
theorem timed_round {deadline bound now clock : Nat} (timed : deadline + 300000 ≤ bound + now) (early : ¬now > deadline)
    (after : now ≤ clock) :
    deadline + 300000 ≤ bound - 300000 + (clock + 300000) ∧ bound - 300000 < bound := by omega

/-- Enough time is left for the rounds of a loop that are to be followed to its end. -/
def Timed (limit : Option Nat) (deadline bound : Nat) (w : World) : Prop :=
  limit = none → deadline + 300000 ≤ bound + w.clock

/-- The loop ends when no backend is left, at the latest after its deadline. -/
theorem terminateLoop_works {deadline : Time} (tearing : j.Tearing) (hereditary : Hereditary terms j P)
    (valid : isAccount account = true) (owns : j.id.Owns account)
    (closing : ∀ w, P w → terms.kept account → w.Closing account) (timed : j.deadline = some deadline)
    (monotone : limit = none → terms.monotone) :
    Works terms j limit P (terminateLoop account j.id deadline)
      (fun _ w => P w ∧ (terms.kept account → w.Shut account)) (Fails terms j P) := by
  have keepsP := hereditary.keeps tearing
  have later (bound : Nat) : Hereditary terms j (Timed limit deadline bound) :=
    fun _ _ aside held total => timed_later (held total) (aside.clock (monotone total))
  have hereditaryI (bound : Nat) : Hereditary terms j fun w => P w ∧ Timed limit deadline bound w :=
    hereditary.and (later bound)
  have keepsI (bound : Nat) := (hereditaryI bound).keeps tearing
  have keepsE : Keeps terms j fun w => P w ∧ (terms.kept account → w.Shut account) :=
    keepsP.and (shut_down owns).implied.keeps
  have weaker (bound : Nat) (e : Exc) (w : World) (failed : Fails terms j (fun w => P w ∧ Timed limit deadline bound w) e w) :
      Fails terms j P e w := ⟨failed.1.1, failed.2⟩
  have loop (bound : Nat) : Works terms j limit (fun w => P w ∧ Timed limit deadline bound w)
      (terminateLoop account j.id deadline) (fun _ w => P w ∧ (terms.kept account → w.Shut account)) (Fails terms j P) := by
    refine Works.while_ (fun bound w => P w ∧ Timed limit deadline bound w)
      (fun bound w => P w ∧ Timed limit deadline bound w) keepsE keepsI (fun bound => ?_) (fun bound => ?_) bound
    · refine ((pgBackends_works tearing (hereditaryI bound) owns fun w held => closing w held.1).mono (fun _ held => held)
        (fun _ _ held => held) (weaker bound)).bind fun n => ?_
      refine Works.ret ((keepsI bound).and (shut_down owns).implied.implied.keeps) fun w held => ?_
      by_cases more : n > 0
      · simp only [more, decide_true, if_true]
        exact held.1
      · simp only [more, decide_false, Bool.false_eq_true, if_false]
        exact ⟨held.1.1, held.2 (Nat.eq_zero_of_not_pos more)⟩
    · let T (now : Time) (w : World) : Prop :=
        (P w ∧ (limit = none → now ≤ w.clock)) ∧ (limit = none → deadline + 300000 ≤ bound + now) ∧
          (terms.smooth j.id → now ≤ deadline)
      have after (now : Time) : Hereditary terms j fun w => limit = none → now ≤ w.clock :=
        fun _ _ aside held total => (held total).trans (aside.clock (monotone total))
      have hereditaryT (now : Time) : Hereditary terms j (T now) :=
        (hereditary.and (after now)).and (Down.const _).hereditary
      have keepsT (now : Time) := (hereditaryT now).keeps tearing
      refine (Works.time (keepsI bound) keepsT fun v held inTime => ?_).bind fun now => ?_
      · exact ⟨⟨held.1, fun _ => Nat.le_refl _⟩, held.2, fun smooth => inTime smooth deadline timed⟩
      by_cases late : now > deadline
      · simp only [late, if_true]
        refine Works.raise (keepsT now) fun w held => ⟨held.1.1, fun smooth => ?_⟩
        exact absurd (held.2.2 smooth) (Nat.not_le.mpr late)
      simp only [late, if_false]
      have built : terminateStatements .postgres account = .ok [terminateText account] := by
        simp [terminateStatements, validAccount, valid]
      rw [built]
      refine ((terminate_works tearing (hereditaryT now) valid owns).mono (fun _ held => held) (fun _ _ held => held)
        fun _ w failed => (⟨failed.1.1.1, failed.2⟩ : P w ∧ _)).bind fun _ => ?_
      let S (w : World) : Prop := ∃ lower, (P w ∧ Timed limit deadline lower w) ∧ (limit = none → lower < bound)
      have keepsS : Keeps terms j S := keeps_exists fun lower => (keepsI lower).and (Keeps.const _)
      refine Works.sleep (keepsT now) keepsS fun v held => ⟨bound - 300000, ⟨?_, fun total => ?_⟩, fun total => ?_⟩
      · have aside : Aside terms j.id v (v.at_ (v.clock + 300000)) :=
          { Aside.refl v with clock := fun _ => Nat.le_add_right _ _ }
        exact hereditary v _ aside held.1.1
      · exact (timed_round (held.2.1 total) late (held.1.2 total)).1
      · exact (timed_round (held.2.1 total) late (held.1.2 total)).2
  refine (loop (deadline + 300000)).mono (fun w held => ⟨held, fun _ => ?_⟩) (fun _ _ held => held) fun _ _ failed => failed
  exact Nat.le_add_right _ _

/-- The job after one of its steps raised. -/
def Job.raised (j : Job) : Job :=
  { j with watch := j.watch.map fun k => { k with raised := true }, deadline := none }

theorem Job.Tearing.raised (tearing : j.Tearing) : j.raised.Tearing := by
  obtain ⟨k, watch, grant⟩ := tearing
  exact ⟨{ k with raised := true }, by simp [Job.raised, watch], grant⟩

theorem marked_aside (w : World) (t : Nat) {m : Mark} (id : GrantId) (own : ∀ id final, m ≠ .teardown id final) :
    Aside terms id w (w.marked t m) := by
  cases m with
  | teardown id final => exact absurd rfl (own id final)
  | raised => exact { Aside.refl w with }
  | lockedOut id account => exact { Aside.refl w with }
  | deadline time => exact { Aside.refl w with }
  | leftBehind role => exact Aside.refl w

/-- A mark of the thread's own; it may change what the job records. -/
theorem mark_triple {j' : Job} {m : Mark} {P' : World → Prop} {X : Exc → World → Prop} (thread : j'.thread = j.thread)
    (keepsP : Keeps terms j P) (keepsP' : Keeps terms j' P')
    (post : ∀ w, Busy j w → P w → Inv terms w → Busy j' (w.marked j.thread m) ∧ P' (w.marked j.thread m))
    (watching : ∀ w k, Busy j w → P w → Inv terms w → (w.marked j.thread m).watch j.thread = some k →
      ∃ r caller, w.row k.grant = some r ∧ w.locks r.dbType = some ⟨j.thread, k.grant, caller⟩ ∧
        (k.raised = true → r.status.terminal = false) ∧
        (k.wrote = false → (terms.fresh → r.status.terminal = false) ∧ (caller = .reconcile → Due terms r k.final w)))
    (owned : ∀ id final, m = .teardown id final → id = j.id)
    (lockedOut : ∀ w id name, Busy j w → P w → Inv terms w → m = .lockedOut id name →
      id = j.id ∧ id.Owns name ∧ (terms.kept name → w.Shut name)) :
    Triple (portal terms) j.thread limit (fun w => Busy j w ∧ P w) (mark m) (fun _ w => Busy j' w ∧ P' w) X := by
  have stable' : Stable (portal terms) j.thread fun w => Busy j' w ∧ P' w := by
    rw [← thread]
    exact keepsP'.stable
  have run : Triple (portal terms) j.thread limit (fun w => Busy j w ∧ P w) (mark m) (fun _ w => Busy j' w ∧ P' w)
      fun _ _ => False := by
    refine Triple.perform keepsP.stable (fun _ => stable') (fun _ _ _ _ _ failed => failed) ?_
    rintro v ⟨busy, held⟩ inv answer u ⟨c, executed, allowed⟩
    cases executed
    refine ⟨World.mark_inv inv (fun k watch => watching v k busy held inv watch) fun id name same => ?_,
      ⟨World.mark_guar inv (fun id final same => ?_) fun id name same => ?_, allowed.solo⟩, post v busy held inv⟩
    · obtain ⟨rfl, owns, shut⟩ := lockedOut v id name busy held inv same
      exact ⟨by rw [busy.1.1]; exact nofun, owns, shut⟩
    · rw [owned id final same]
      exact busy.1.holds
    · obtain ⟨rfl, -⟩ := lockedOut v id name busy held inv same
      exact busy.1.holds
  exact run.mono (fun _ held => held) (fun _ _ _ held => held) fun _ _ _ failed => failed.elim

theorem deadline_triple {X : Exc → World → Prop} (tearing : j.Tearing) (hereditary : Hereditary terms j P)
    (deadline : Option Time) :
    Triple (portal terms) j.thread limit (fun w => Busy j w ∧ P w) (mark (.deadline deadline))
      (fun _ w => Busy { j with deadline := deadline } w ∧ P w) X := by
  have keeps' : Keeps terms { j with deadline := deadline } P := Hereditary.keeps hereditary tearing
  refine mark_triple rfl (hereditary.keeps tearing) keeps' (fun w busy held _ => ⟨⟨busy.1, busy.2.1, ?_, busy.2.2.2⟩, ?_⟩)
    (fun w k _ _ inv watch => inv.watching _ k watch) (fun _ _ same => by cases same) fun _ _ _ _ _ _ same => by cases same
  · simp [World.marked]
  · exact hereditary w _ (marked_aside w _ _ fun _ _ same => by cases same) held

theorem raised_triple {X : Exc → World → Prop} (tearing : j.Tearing) (hereditary : Hereditary terms j P)
    (alive : j.row.status.terminal = false) :
    Triple (portal terms) j.thread limit (fun w => Busy j w ∧ P w) (mark .raised)
      (fun _ w => Busy j.raised w ∧ P w) X := by
  have keeps' : Keeps terms j.raised P := Hereditary.keeps hereditary tearing.raised
  refine mark_triple rfl (hereditary.keeps tearing) keeps' (fun w busy held _ => ⟨⟨busy.1, ?_, ?_, busy.2.2.2⟩, ?_⟩)
    (fun w k busy _ inv watch => ?_) (fun _ _ same => by cases same) fun _ _ _ _ _ _ same => by cases same
  · simp [World.marked, Job.raised, busy.2.1]
  · simp [World.marked, Job.raised]
  · exact hereditary w _ (marked_aside w _ _ fun _ _ same => by cases same) held
  · simp only [World.marked, Function.update_self, Option.map_eq_some_iff] at watch
    obtain ⟨old, watch, rfl⟩ := watch
    have grant := busy.1.watch inv watch
    obtain ⟨r, caller, row, lock, -, running⟩ := inv.watching _ old watch
    refine ⟨r, caller, row, lock, fun _ => ?_, running⟩
    rw [grant, busy.1.1] at row
    cases row
    exact alive

theorem lockedOut_works {X : Exc → World → Prop} (tearing : j.Tearing) (hereditary : Hereditary terms j P)
    (owns : j.id.Owns account) (shut : ∀ w, P w → terms.kept account → w.Shut account) :
    Works terms j limit P (mark (.lockedOut j.id account)) (fun _ => P) X := by
  have keeps := hereditary.keeps tearing
  refine mark_triple rfl keeps keeps
    (fun w busy held _ => ⟨busy, hereditary w _ (marked_aside w _ _ fun _ _ same => by cases same) held⟩)
    (fun w k _ _ inv watch => inv.watching _ k watch) (fun _ _ same => by cases same) fun w id name _ held _ same => ?_
  cases same
  exact ⟨rfl, owns, shut w held⟩

/-- Where a step raised: calls did not go well. -/
def Broken (terms : Terms) (j : Job) (_ : Exc) (w : World) : Prop := (Busy j w ∨ Busy j.raised w) ∧ ¬terms.smooth j.id

theorem Works.broken {α : Type} {p : Portal α} {E : α → World → Prop}
    (run : Works terms j limit P p E (Fails terms j P)) :
    Triple (portal terms) j.thread limit (fun w => Busy j w ∧ P w) p (fun a w => Busy j w ∧ E a w) (Broken terms j) :=
  run.leaves (fun _ _ busy held => ⟨busy, held⟩) fun _ _ busy failed => ⟨Or.inl busy, failed.2⟩

/-- Where a lockout raised. -/
def Overdue (terms : Terms) (j : Job) (_ : Exc) (w : World) : Prop :=
  (∃ deadline, Busy { j with deadline := deadline } w) ∧ ¬terms.smooth j.id

theorem Works.overdue {α : Type} {p : Portal α} {E : α → World → Prop} {d : Option Time}
    (run : Works terms { j with deadline := d } limit P p E (Fails terms j P)) :
    Triple (portal terms) j.thread limit (fun w => Busy { j with deadline := d } w ∧ P w) p
      (fun a w => Busy { j with deadline := d } w ∧ E a w) (Overdue terms j) :=
  run.leaves (fun _ _ busy held => ⟨busy, held⟩) fun _ _ busy failed => ⟨⟨d, busy⟩, failed.2⟩

/-- `_lock_out_and_terminate`, up to its return. -/
theorem lockOutPostgres_triple (tearing : j.Tearing) (hereditary : Hereditary terms j P) (idle : j.deadline = none)
    (valid : isAccount account = true) (owns : j.id.Owns account)
    (ready : ∀ w, P w → terms.kept account → w.Sought j.id account) (monotone : limit = none → terms.monotone) :
    Triple (portal terms) j.thread limit (fun w => Busy j w ∧ P w) (lockOutPostgres account j.id)
      (fun _ w => Busy j w ∧ P w ∧ (terms.kept account → w.Shut account)) (Overdue terms j) := by
  have same : { j with deadline := none } = j := by
    rw [← idle]
  have closing : Hereditary terms j fun w => P w ∧ (terms.kept account → w.Closing account) :=
    hereditary.and (closing_down owns).implied.hereditary
  have keeps := closing.keeps tearing
  have shut : Hereditary terms j fun w =>
      (P w ∧ (terms.kept account → w.Closing account)) ∧ (terms.kept account → w.Shut account) :=
    closing.and (shut_down owns).implied.hereditary
  have built : lockoutStatements .postgres account = .ok [lockoutText account] := by
    simp [lockoutStatements, validAccount, valid]
  have late {α : Type} {p : Portal α} {P : World → Prop} {E : α → World → Prop} {d : Option Time}
      (run : Works terms { j with deadline := d } limit P p E (Fails terms j P)) := run.overdue
  unfold lockOutPostgres
  rw [built]
  simp only [Interaction.Prog.bind_eq, lift_ok_bind]
  refine Triple.bind (late (lockout_works tearing hereditary valid owns ready)) fun _ => ?_
  refine Triple.bind (late (Works.time keeps (fun _ => keeps) fun v held _ => held)) fun start => ?_
  refine Triple.bind (deadline_triple tearing closing _) fun _ => ?_
  refine Triple.bind (late (terminateLoop_works tearing closing valid owns (fun w held => held.2) rfl monotone)) fun _ => ?_
  refine (deadline_triple (j := { j with deadline := some (start + seconds 20) }) tearing shut none).mono
    (fun _ held => held) (fun _ _ _ held => ?_) fun _ _ _ failed => failed
  exact ⟨same ▸ held.1, held.2.1.1, held.2.2⟩

/-- `_lock_out_and_terminate`: at its return the account is shut, and if it raises the teardown is marked. -/
theorem lockOutAndTerminate_triple {db : DbType} (tearing : j.Tearing) (hereditary : Hereditary terms j P)
    (idle : j.deadline = none) (alive : j.row.status.terminal = false)
    (valid : isAccount account = true) (owns : j.id.Owns account)
    (ready : ∀ w, P w → terms.kept account → db = .postgres → w.Sought j.id account)
    (monotone : limit = none → terms.monotone) :
    Triple (portal terms) j.thread limit (fun w => Busy j w ∧ P w) (lockOutAndTerminate db account j.id)
      (fun _ w => Busy j w ∧ P w ∧ (terms.kept account → db = .postgres → w.Shut account)) (Broken terms j) := by
  have keeps := hereditary.keeps tearing
  unfold lockOutAndTerminate
  by_cases other : db ≠ .postgres
  · rw [if_pos other]
    exact (Works.ret (X := fun _ _ => False) keeps fun _ held => held).leaves
      (fun _ _ busy held => ⟨busy, held, fun _ postgres => absurd postgres other⟩) fun _ _ _ failed => failed.elim
  rw [if_neg other]
  have postgres : db = .postgres := by simpa using other
  have shut : Hereditary terms j fun w => P w ∧ (terms.kept account → db = .postgres → w.Shut account) :=
    hereditary.and (shut_down owns).implied.implied.hereditary
  have locked : Triple (portal terms) j.thread limit (fun w => Busy j w ∧ P w) (lockOutPostgres account j.id)
      (fun _ w => Busy j w ∧ P w ∧ (terms.kept account → w.Shut account)) (Overdue terms j) :=
    lockOutPostgres_triple tearing hereditary idle valid owns (fun w held kept => ready w held kept postgres) monotone
  have marked : Triple (portal terms) j.thread limit
      (fun w => Busy j w ∧ P w ∧ (terms.kept account → w.Shut account)) (mark (.lockedOut j.id account))
      (fun _ w => Busy j w ∧ P w ∧ (terms.kept account → db = .postgres → w.Shut account)) (Overdue terms j) := by
    have run : Works terms j limit (fun w => P w ∧ (terms.kept account → db = .postgres → w.Shut account))
        (mark (.lockedOut j.id account)) _ (fun _ _ => False) :=
      lockedOut_works tearing shut owns fun w held kept => held.2 kept postgres
    exact (run.leaves (fun _ _ busy held => ⟨busy, held⟩) fun _ _ _ failed => failed.elim).mono
      (fun _ held => ⟨held.1, held.2.1, fun kept _ => held.2.2 kept⟩) (fun _ _ _ held => held) fun _ _ _ failed => failed
  refine Triple.onError (Triple.bind locked fun _ => marked) (fun _ => (shut.keeps tearing).stable) fun exn => ?_
  have handled (deadline : Option Time) (rough : ¬terms.smooth j.id) :
      Triple (portal terms) j.thread limit (fun w => Busy { j with deadline := deadline } w ∧ True)
        ((mark .raised).bind fun _ => .raise exn)
        (fun (_ : Unit) w => Busy j w ∧ P w ∧ (terms.kept account → db = .postgres → w.Shut account)) (Broken terms j) := by
    refine Triple.bind (raised_triple (j := { j with deadline := deadline }) (P := fun _ => True) tearing
      (fun _ _ _ held => held) alive) fun _ => ?_
    exact Triple.raise (Keeps.const (j := Job.raised { j with deadline := deadline }) True).stable fun w held =>
      ⟨Or.inr held.1, rough⟩
  rintro w ⟨⟨deadline, busy⟩, rough⟩
  exact handled deadline rough w ⟨busy, trivial⟩

end lockouts
end Vdba
