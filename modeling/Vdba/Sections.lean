import Vdba.Teardown

namespace Vdba
open Interaction (Triple Stable)

/-- The thread holds no lock and has nothing in flight. -/
def World.Resting (t : Nat) (w : World) : Prop := w.Idle t ∧ ∀ id, (t, id) ∉ w.inflight

/-- The assertion is about the rows only. -/
def OnRows (P : World → Prop) : Prop := ∀ v w : World, (∀ id, w.row id = v.row id) → P v → P w

/-- A call that changes neither rows nor objects nor locks. -/
def Op.reading : Op → Bool
  | .now | .tokenHex _ | .bogusArmed | .inflightHas _ | .getGrant _ | .listByStatus _ | .addAudit _
  | .auditExists .. | .purgeSessions _ | .client | .relogin | .introspectCredentials _ | .revokeSelf _
  | .connect .. | .pgTables | .pgSequences | .chTables | .accountsWithPrefix .. | .respond _ => true
  | _ => false

section sections
variable {terms : Terms} {t : Nat} {limit : Option Nat} {P : World → Prop} {v w : World} {id : GrantId} {db : DbType}
  {caller : Caller}

theorem World.Resting.rely (resting : v.Resting t) (rely : Rely terms t v w) : w.Resting t :=
  ⟨resting.1.rely rely, fun id member => resting.2 id (rely.inflight id member)⟩

theorem World.Resting.frame (resting : v.Resting t) (frame : Frame terms v w) : w.Resting t := by
  refine ⟨fun db h lock => resting.1 db h (by rw [← frame.locks, lock]), fun id member => resting.2 id ?_⟩
  rwa [← frame.inflight]

theorem OnRows.const (fact : Prop) : OnRows fun _ => fact := fun _ _ _ held => held

theorem resting_stable (stable : Stable (portal terms) t P) :
    Stable (portal terms) t fun w => w.Resting t ∧ P w :=
  fun v w rely inv held => ⟨held.1.rely rely.1, stable v w rely inv held.2⟩

theorem stable_const (fact : Prop) : Stable (portal terms) t fun _ => fact := fun _ _ _ _ held => held

theorem same_of_store {store : Store} {book : Logbook} (grants : store.grants = v.store.grants) :
    Same terms v { v with store := store, book := book } := by
  refine { (Same.refl v : Same terms v v) with row := fun id => ?_ }
  unfold World.row Store.getGrant
  rw [grants]

theorem exec_reading {op : Op} {c : Choice} {answer : Except Exc (Ans op)} (reading : op.reading = true)
    (executed : exec t op c v = some (answer, w)) : Same terms v w := by
  have settled {α : Type} {honest : World → Exc → Bool} {value : α} {answer : Except Exc α}
      (done : settle c honest v v value = some (answer, w)) : Same terms v w := by
    rcases settle_cases done with ⟨-, rfl, -⟩ | ⟨-, -, -, ⟨rfl, -⟩ | rfl, -⟩ <;> exact Same.refl w
  have stored {α : Type} (store : Store) (book : Logbook) (grants : store.grants = v.store.grants) {value : α}
      {answer : Except Exc α} (done : settle c anyExc v { v with store := store, book := book } value = some (answer, w)) :
      Same terms v w := by
    rcases settle_cases done with ⟨-, rfl, -⟩ | ⟨-, -, -, ⟨rfl, -⟩ | rfl, -⟩
    · exact same_of_store grants
    · exact Same.refl w
    · exact same_of_store grants
  cases op <;> simp only [Op.reading, Bool.false_eq_true] at reading
  case now => cases executed; exact Same.refl _
  case bogusArmed => cases executed; exact Same.refl _
  case inflightHas => cases executed; exact Same.refl _
  case tokenHex =>
    simp only [exec, Option.dite_none_right_eq_some, Option.some.injEq, Prod.mk.injEq] at executed
    obtain ⟨-, -, rfl⟩ := executed
    exact Same.refl _
  case accountsWithPrefix db pfx =>
    have executed : settleIf (c.names.isPerm (v.accountsWith db pfx)) c anyExc v (v.searched t c.names) c.names =
        some (answer, w) := executed
    rcases settleIf_cases executed with ⟨-, rfl, -⟩ | ⟨-, -, -, rfl | ⟨rfl, -⟩, -⟩
    · exact v.searched_same t c.names
    · exact Same.refl w
    · exact v.searched_same t c.names
  case addAudit row => exact stored (v.store.addAudit row) (v.book.pays t row) rfl executed
  case purgeSessions now => exact stored (v.store.purgeSessions now).2 v.book rfl executed
  case respond response => cases executed; exact same_of_store rfl
  all_goals exact settled executed

/-- A call outside of any lock. -/
theorem rest_ask {op : Op} {E : Ans op → World → Prop} {X : Exc → World → Prop} (stable : Stable (portal terms) t P)
    (stableE : ∀ a, Stable (portal terms) t (E a)) (stableX : ∀ e, Stable (portal terms) t (X e))
    (step : ∀ v c answer u, v.Resting t → P v → Inv terms v → exec t op c v = some (answer, u) →
      Allowed terms t op c v → Same terms v u ∧
        match answer with
        | .ok a => E a u
        | .error e => X e u) :
    Triple (portal terms) t limit (fun w => w.Resting t ∧ P w) (ask op) (fun a w => w.Resting t ∧ E a w)
      (fun e w => w.Resting t ∧ X e w) := by
  refine Triple.perform (resting_stable stable) (fun a => resting_stable (stableE a))
    (fun e => resting_stable (stableX e)) ?_
  rintro v ⟨resting, held⟩ inv answer u ⟨c, executed, allowed⟩
  obtain ⟨same, post⟩ := step v c answer u resting held inv executed allowed
  refine ⟨same.legal.inv inv, ⟨same.guar inv t, allowed.solo⟩, ?_⟩
  cases answer with
  | ok a => exact ⟨resting.frame same.toFrame, post⟩
  | error e => exact ⟨resting.frame same.toFrame, post⟩

/-- Code that reads and records only, outside of any lock. -/
def Plain (terms : Terms) (t : Nat) (limit : Option Nat) (P : World → Prop) {α : Type} (p : Portal α) : Prop :=
  Triple (portal terms) t limit (fun w => w.Resting t ∧ P w) p (fun _ w => w.Resting t ∧ P w)
    (fun _ w => w.Resting t ∧ P w)

/-- An assertion about rows that the others do not make false. -/
structure Lasting (terms : Terms) (t : Nat) (P : World → Prop) : Prop where
  stable : Stable (portal terms) t P
  onRows : OnRows P

theorem Lasting.const (fact : Prop) : Lasting terms t fun _ => fact := ⟨stable_const fact, OnRows.const fact⟩

namespace Plain
variable {α β : Type} {p : Portal α}

theorem ret (lasting : Lasting terms t P) (value : α) : Plain terms t limit P (.ret value : Portal α) :=
  Triple.ret (resting_stable lasting.stable) fun _ held => held

theorem raise (lasting : Lasting terms t P) (exn : Exc) : Plain terms t limit P (.raise exn : Portal α) :=
  Triple.raise (resting_stable lasting.stable) fun _ held => held

theorem bind {f : α → Portal β} (first : Plain terms t limit P p) (rest : ∀ a, Plain terms t limit P (f a)) :
    Plain terms t limit P (p.bind f) := Triple.bind first rest

theorem ask {op : Op} (lasting : Lasting terms t P) (reading : op.reading = true) :
    Plain terms t limit P (Vdba.ask op) := by
  refine rest_ask lasting.stable (fun _ => lasting.stable) (fun _ => lasting.stable)
    fun v c answer u _ held _ executed _ => ?_
  have same : Same terms v u := exec_reading reading executed
  have kept := lasting.onRows v u same.row held
  refine ⟨same, ?_⟩
  cases answer with
  | ok a => exact kept
  | error e => exact kept

theorem onError {handler : Exc → Portal α} (lasting : Lasting terms t P) (first : Plain terms t limit P p)
    (handled : ∀ exn, Plain terms t limit P (handler exn)) : Plain terms t limit P (p.onError handler) :=
  Triple.onError first (fun _ => resting_stable lasting.stable) handled

theorem attempt {f : Except Exc α → Portal β} (first : Plain terms t limit P p)
    (rest : ∀ outcome, Plain terms t limit P (f outcome)) : Plain terms t limit P (p.attempt.bind f) :=
  Triple.attempt first (fun a => rest (.ok a)) fun e => rest (.error e)

theorem forEach {f : α → Portal Unit} {xs : List α} (lasting : Lasting terms t P)
    (round : ∀ x, Plain terms t limit P (f x)) : Plain terms t limit P (Interaction.Prog.forEach xs f) :=
  Triple.forEach (X := fun (_ : Exc) (w : World) => w.Resting t ∧ P w) (fun _ w => w.Resting t ∧ P w)
    (resting_stable lasting.stable) fun x _ _ => round x

theorem quietly {p : Portal Unit} (lasting : Lasting terms t P) (run : Plain terms t limit P p) :
    Plain terms t limit P (Vdba.quietly p) := onError lasting run fun _ => ret lasting ()

theorem call {fn : Portal α} (lasting : Lasting terms t P) (run : Plain terms t limit P fn) :
    Plain terms t limit P (Service.call fn) := by
  refine onError lasting (bind (ask lasting rfl) fun _ => run) fun exn => ?_
  cases exn.cls
  case forbidden => exact bind (ask lasting rfl) fun _ => run
  all_goals exact raise lasting _

theorem lift (lasting : Lasting terms t P) (result : Except Exc α) : Plain terms t limit P (Vdba.lift result) := by
  cases result with
  | ok value => exact ret lasting value
  | error exn => exact raise lasting exn

theorem connect (lasting : Lasting terms t P) (db : DbType) : Plain terms t limit P (connect_ db) := by
  cases db
  · exact bind (call lasting (ask lasting rfl)) fun _ => ask lasting rfl
  · exact bind (call lasting (ask lasting rfl)) fun _ => ask lasting rfl

theorem catalog (lasting : Lasting terms t P) (db : DbType) : Plain terms t limit P (Vdba.catalog db) := by
  cases db
  · exact bind (connect lasting .postgres) fun _ => bind (ask lasting rfl) fun _ => bind (ask lasting rfl) fun _ =>
      ret lasting _
  · exact bind (connect lasting .clickhouse) fun _ => bind (ask lasting rfl) fun _ => ret lasting _

theorem mutateStatements (lasting : Lasting terms t P) (cfg : Config) (creation : List String) :
    Plain terms t limit P (Vdba.mutateStatements cfg creation) := by
  unfold Vdba.mutateStatements
  split
  · refine bind (ask lasting rfl) fun (armed : Bool) => ?_
    split
    · exact ret lasting _
    · exact ret lasting _
  · exact ret lasting _

theorem publicGrant (lasting : Lasting terms t P) (id : GrantId) : Plain terms t limit P (Vdba.publicGrant id) := by
  refine bind (ask lasting rfl) fun (row : Option Grant) => ?_
  cases row with
  | none => exact raise lasting _
  | some g => exact ret lasting _

theorem reportName (lasting : Lasting terms t P) (live : List String) (name : String) :
    Plain terms t limit P (Vdba.reportName live name) := by
  unfold Vdba.reportName
  split
  · exact ret lasting _
  · refine bind (ask lasting rfl) fun (seen : Bool) => ?_
    split
    · exact ret lasting _
    · exact bind (ask lasting rfl) fun _ => ask lasting rfl

theorem reportOrphans (lasting : Lasting terms t P) : Plain terms t limit P Vdba.reportOrphans := by
  refine bind (ask lasting rfl) fun (rows : List Grant) => ?_
  split
  · exact ret lasting _
  · refine forEach lasting fun db => attempt (bind (connect lasting db) fun _ => ask lasting rfl) fun outcome => ?_
    cases outcome with
    | error exn => exact ret lasting _
    | ok names => exact forEach lasting fun name => reportName lasting _ name

end Plain

/-- The lock of the database is held for the grant, nothing is under way yet. -/
structure Entered (t : Nat) (db : DbType) (id : GrantId) (caller : Caller) (w : World) : Prop where
  lock : w.locks db = some ⟨t, id, caller⟩
  watch : w.watch t = none
  inflight : ∀ other, (t, other) ∈ w.inflight → other = id

theorem Entered.stable : Stable (portal terms) t (Entered t db id caller) := fun v w rely _ entered =>
  ⟨(rely.1.locks db _ rfl).mpr entered.lock, by rw [rely.1.watch, entered.watch],
    fun other member => entered.inflight other (rely.1.inflight other member)⟩

/-- A change of the set of grants in flight by its own thread. -/
theorem flight_inv {inflight : List (Nat × GrantId)} (inv : Inv terms v)
    (others : ∀ u other, u ≠ t → (u, other) ∈ inflight → (u, other) ∈ v.inflight) :
    Inv terms { v with inflight := inflight } ∧ Guar terms t v { v with inflight := inflight } := by
  refine ⟨?_, ?_⟩
  · exact World.inv_of_locks inv rfl rfl rfl rfl rfl inv.holders inv.single
      (fun u k watch => inv.watching u k watch) (fun _ _ member => Or.inl member) inv.quiet inv.solo
  · exact World.guar_of_locks inv rfl rfl rfl (fun _ _ _ => Iff.rfl) (fun _ _ => rfl) (fun _ _ => rfl) others
      (fun _ _ _ member => member) (fun _ _ _ member => member) rfl rfl

/-- What the code knows of the row before it takes the lock. -/
def Placed (id : GrantId) (db : DbType) (caller : Caller) (w : World) : Prop :=
  caller ≠ .issue → ∃ r, w.row id = some r ∧ r.dbType = db

theorem Placed.lasting : Lasting terms t (Placed id db caller) := by
  refine ⟨fun v w rely _ placed other => ?_, fun v w rows placed other => ?_⟩
  · obtain ⟨r, found, type⟩ := placed other
    obtain ⟨r', found', type', -⟩ := rely.1.row id r found
    exact ⟨r', found', by rw [type', type]⟩
  · rw [rows]
    exact placed other

theorem Lasting.and {Q : World → Prop} (left : Lasting terms t P) (right : Lasting terms t Q) :
    Lasting terms t fun w => P w ∧ Q w :=
  ⟨fun v w rely inv held => ⟨left.stable v w rely inv held.1, right.stable v w rely inv held.2⟩,
    fun v w rows held => ⟨left.onRows v w rows held.1, right.onRows v w rows held.2⟩⟩

/-- Under the lock a revocation deals with a row that is not finished, if that is taken for granted. -/
def Fresh (terms : Terms) (id : GrantId) (caller : Caller) (w : World) : Prop :=
  terms.fresh → ∀ actor read, caller = .revoke actor read → ∀ r, w.row id = some r → r.status.terminal = false

theorem fresh_stable : Stable (portal terms) t fun w =>
    Entered t db id caller w ∧ Placed id db caller w ∧ Fresh terms id caller w := by
  rintro v w rely inv ⟨entered, placed, fresh⟩
  refine ⟨Entered.stable v w rely inv entered, Placed.lasting.stable v w rely inv placed,
    fun fresh' actor read same r found => ?_⟩
  obtain ⟨old, at_old, type⟩ := placed (by rw [same]; exact nofun)
  obtain ⟨r', found', -, kept⟩ := rely.1.row id old at_old
  rw [found] at found'
  cases found'
  rw [kept ⟨old, caller, at_old, by rw [type]; exact entered.lock⟩]
  exact fresh fresh' actor read same old at_old

/-- `_begin` takes the lock, or raises with nothing changed; a thread that runs alone always gets it. -/
theorem begin_triple (lasting : Lasting terms t P) (placed : ∀ w, P w → Placed id db caller w)
    (loud : ¬terms.quiet id) :
    Triple (portal terms) t limit (fun w => w.Resting t ∧ P w) (begin_ db id caller)
      (fun _ w => (Entered t db id caller w ∧ Placed id db caller w ∧ Fresh terms id caller w) ∧ P w)
      (fun _ w => (w.Resting t ∧ P w) ∧ terms.solo ≠ some t) := by
  let Q (acquired : Bool) (w : World) : Prop :=
    if acquired = true then (Entered t db id caller w ∧ Placed id db caller w ∧ Fresh terms id caller w) ∧ P w
    else (w.Resting t ∧ P w) ∧ terms.solo ≠ some t
  have entered_stable : Stable (portal terms) t fun w =>
      (Entered t db id caller w ∧ Placed id db caller w ∧ Fresh terms id caller w) ∧ P w :=
    fun v w rely inv held => ⟨fresh_stable v w rely inv held.1, lasting.stable v w rely inv held.2⟩
  have busy_stable : Stable (portal terms) t fun w => (w.Resting t ∧ P w) ∧ terms.solo ≠ some t :=
    fun v w rely inv held => ⟨resting_stable lasting.stable v w rely inv held.1, held.2⟩
  have lock : Triple (portal terms) t limit (fun w => w.Resting t ∧ P w) (ask (.lockAcquire db id caller))
      (fun (acquired : Bool) => Q acquired) (fun _ w => (w.Resting t ∧ P w) ∧ terms.solo ≠ some t) := by
    refine Triple.perform (resting_stable lasting.stable) (fun (acquired : Bool) => ?_) (fun _ => busy_stable) ?_
    · cases acquired with
      | true => exact entered_stable
      | false => exact busy_stable
    rintro v ⟨resting, held⟩ inv answer u ⟨c, executed, allowed⟩
    change exec t (.lockAcquire db id caller) c v = some (answer, u) at executed
    cases free : v.locks db with
    | none =>
      simp only [exec, free] at executed
      cases executed
      have rows : ∀ other, (v.acquired t db id caller).row other = v.row other := fun _ => rfl
      refine ⟨World.acquire_inv inv resting.1 free (placed v held) loud fun u only => allowed.solo u only,
        ⟨World.acquire_guar inv free, allowed.solo⟩, ⟨⟨?_, ?_, ?_⟩, placed v held, fun fresh actor read same r found => ?_⟩,
        lasting.onRows v _ rows held⟩
      · simp
      · exact resting.1.watch inv
      · exact fun other member => absurd member (resting.2 other)
      · subst same
        exact allowed.decided fresh db id actor read rfl free r found
    | some h =>
      simp only [exec, free, Option.ite_none_right_eq_some, Option.some.injEq, Prod.mk.injEq] at executed
      obtain ⟨-, rfl, rfl⟩ := executed
      refine ⟨inv, ⟨(Same.refl v).guar inv t, allowed.solo⟩, ⟨resting, held⟩, fun only => ?_⟩
      exact resting.1 db h free (inv.solo t only db h free)
  unfold begin_
  refine Triple.bind lock fun (acquired : Bool) => ?_
  cases acquired with
  | false => exact Triple.raise busy_stable fun _ held => held
  | true =>
    refine Triple.perform entered_stable (fun _ => entered_stable) (fun _ => busy_stable) ?_
    rintro v ⟨⟨entered, placed, fresh⟩, held⟩ inv answer u ⟨c, executed, allowed⟩
    cases executed
    have listed (u : Nat) (other : GrantId) (member : (u, other) ∈ (t, id) :: v.inflight) :
        (u = t ∧ other = id) ∨ (u, other) ∈ v.inflight := by
      rcases List.mem_cons.mp member with same | member
      · cases same
        exact Or.inl ⟨rfl, rfl⟩
      · exact Or.inr member
    obtain ⟨inv', guar⟩ := flight_inv (t := t) inv fun u other differs member =>
      (listed u other member).resolve_left fun same => differs same.1
    refine ⟨inv', ⟨guar, allowed.solo⟩, ⟨⟨entered.lock, entered.watch, fun other member => ?_⟩, placed, fresh⟩,
      lasting.onRows v _ (fun _ => rfl) held⟩
    rcases listed t other member with ⟨-, same⟩ | member
    · exact same
    · exact entered.inflight other member

/-- `_end` gives the lock back. -/
theorem end_triple {X : Exc → World → Prop} (lasting : Lasting terms t P) :
    Triple (portal terms) t limit (fun w => (w.locks db = some ⟨t, id, caller⟩ ∧
        ∀ other, (t, other) ∈ w.inflight → other = id) ∧ P w) (end_ db id) (fun _ w => w.Resting t ∧ P w) X := by
  have locked : Stable (portal terms) t fun w => (w.locks db = some ⟨t, id, caller⟩ ∧
      ∀ other, (t, other) ∈ w.inflight → other = id) ∧ P w := fun v w rely inv held =>
    ⟨⟨(rely.1.locks db _ rfl).mpr held.1.1, fun other member => held.1.2 other (rely.1.inflight other member)⟩,
      lasting.stable v w rely inv held.2⟩
  have away : Stable (portal terms) t fun w => (w.locks db = some ⟨t, id, caller⟩ ∧
      ∀ other, (t, other) ∉ w.inflight) ∧ P w := fun v w rely inv held =>
    ⟨⟨(rely.1.locks db _ rfl).mpr held.1.1, fun other member => held.1.2 other (rely.1.inflight other member)⟩,
      lasting.stable v w rely inv held.2⟩
  have never : ∀ e : Exc, Stable (portal terms) t fun _ => False := fun _ => stable_const False
  have discard : Triple (portal terms) t limit (fun w => (w.locks db = some ⟨t, id, caller⟩ ∧
      ∀ other, (t, other) ∈ w.inflight → other = id) ∧ P w) (ask (.inflightDiscard id))
      (fun _ w => (w.locks db = some ⟨t, id, caller⟩ ∧ ∀ other, (t, other) ∉ w.inflight) ∧ P w) fun _ _ => False := by
    refine Triple.perform locked (fun _ => away) never ?_
    rintro v ⟨⟨lock, listed⟩, held⟩ inv answer u ⟨c, executed, allowed⟩
    cases executed
    obtain ⟨inv', guar⟩ := flight_inv (t := t) inv fun u other _ member =>
      (List.mem_filter.mp (member : (u, other) ∈ v.inflight.filter (·.2 ≠ id))).1
    refine ⟨inv', ⟨guar, allowed.solo⟩, ⟨lock, fun other member => ?_⟩, lasting.onRows v _ (fun _ => rfl) held⟩
    obtain ⟨member, differs⟩ := List.mem_filter.mp (member : (t, other) ∈ v.inflight.filter (·.2 ≠ id))
    exact absurd (listed other member) (by simpa using differs)
  have release : Triple (portal terms) t limit (fun w => (w.locks db = some ⟨t, id, caller⟩ ∧
      ∀ other, (t, other) ∉ w.inflight) ∧ P w) (ask (.lockRelease db)) (fun _ w => w.Resting t ∧ P w)
      fun _ _ => False := by
    refine Triple.perform away (fun _ => resting_stable lasting.stable) never ?_
    rintro v ⟨⟨lock, none⟩, held⟩ inv answer u ⟨c, executed, allowed⟩
    cases executed
    exact ⟨World.release_inv inv lock, ⟨World.release_guar inv lock, allowed.solo⟩,
      ⟨World.release_idle inv lock, none⟩, lasting.onRows v _ (fun _ => rfl) held⟩
  have run : Triple (portal terms) t limit _ (end_ db id) (fun _ w => w.Resting t ∧ P w) fun _ _ => False :=
    Triple.bind discard fun _ => release
  exact run.mono (fun _ held => held) (fun _ _ _ held => held) fun _ _ _ failed => failed.elim

end sections
end Vdba
