import Vdba.LedgerTeardown

namespace Vdba
open Interaction (Triple Stable Keeping)

/-- An issue has the lock and has not inserted its row. -/
structure Opening (p : Pledge) (t : Nat) (db : DbType) (id : GrantId) (w : World) : Prop where
  lock : w.locks db = some ⟨t, id, .issue⟩
  owed : p.recorded → w.book.owed t = none
  begun : w.book.begun t = some ⟨id, false, none⟩
  unwatched : w.watch t = none

/-- The errand of a call that has just got the lock. -/
def Errand.fresh (t : Nat) (id : GrantId) (caller : Caller) (r : Grant) : Errand :=
    ⟨t, id, r, caller, none, none, none, nofun⟩

/-- What a call knows when it has got the lock of a row that is there. -/
def Entering (p : Pledge) (t : Nat) (db : DbType) (id : GrantId) (caller : Caller) (w : World) : Prop :=
  ∃ r, (r.dbType = db ∧ ∀ actor read, caller = .revoke actor read → ¬p.untroubled id) ∧
    At p (Errand.fresh t id caller r) w

section locks
variable {p : Pledge} {n t : Nat} {db : DbType} {id : GrantId} {caller : Caller} {k : Errand} {v w : World}

theorem Opening.lasts : Lasts p t (Opening p t db id) := by
  refine ⟨fun v w rely _ opening => ?_, fun v w calm opening => ?_⟩
  · exact ⟨(rely.base.locks db _ rfl).mpr opening.lock, fun recorded => by rw [rely.owed, opening.owed recorded],
      by rw [rely.begun, opening.begun], by rw [rely.base.watch, opening.unwatched]⟩
  · have watch := calm.watch t
    rw [opening.unwatched, Option.map_none, Option.map_eq_none_iff] at watch
    exact ⟨by rw [calm.locks, opening.lock], fun recorded => by rw [calm.owed, opening.owed recorded],
      by rw [calm.begun, opening.begun], watch⟩

theorem Placed.ledger_lasts : Lasts p t fun w => ∃ r, w.row id = some r ∧ r.dbType = db := by
  refine ⟨fun v w rely _ ⟨r, found, type⟩ => ?_, fun v w calm ⟨r, found, type⟩ => ⟨r, by rw [calm.row, found], type⟩⟩
  obtain ⟨r', found', persists⟩ := rely.rows id r found
  exact ⟨r', found', persists.dbType.trans type⟩

/-- The lock is free: nobody tends a row of its database. -/
theorem Tended.elsewhere (tended : Tended id v) (free : v.locks db = none) :
    ∀ r, v.row id = some r → r.dbType ≠ db := by
  rintro r found rfl
  obtain ⟨u, r', caller, held, -⟩ := tended
  rw [held.1] at found
  cases found
  rw [held.2] at free
  cases free

theorem acquired_ledger (books : Ledger p v) (idle : v.Idle t) (free : v.locks db = none)
    (base : Inv {} (v.acquired t db id caller)) : Ledger p (v.acquired t db id caller) := by
  have begun (u : Nat) (other : u ≠ t) : (v.acquired t db id caller).book.begun u = v.book.begun u := by
    cases caller with
    | issue => exact Function.update_of_ne other _ _
    | revoke => rfl
    | reconcile => rfl
  have mine (b : Begun) (begins : (v.acquired t db id caller).book.begun t = some b) (inserted : b.inserted = true) :
      v.book.begun t = some b := by
    cases caller with
    | issue =>
      have same : (v.acquired t db id .issue).book.begun t = some ⟨id, false, none⟩ := Function.update_self ..
      rw [same] at begins
      cases begins
      cases inserted
    | revoke => exact begins
    | reconcile => exact begins
  have before (u : Nat) (b : Begun) (begins : (v.acquired t db id caller).book.begun u = some b)
      (inserted : b.inserted = true) : v.book.begun u = some b := by
    by_cases own : u = t
    · subst own
      exact mine b begins inserted
    · rwa [begun u own] at begins
  have book : (v.acquired t db id caller).book.owed = v.book.owed ∧ (v.acquired t db id caller).book.told = v.book.told ∧
      (v.acquired t db id caller).book.high = v.book.high := by
    cases caller <;> exact ⟨rfl, rfl, rfl⟩
  obtain ⟨owed, told, high⟩ := book
  have paid {d : Debt} (paid : Paid d v) : Paid d (v.acquired t db id caller) := by
    unfold Paid
    rw [owed]
    exact paid
  refine ⟨base, books.unique, books.rows, fun recorded id r found named => paid (books.issued recorded id r found named),
    fun recorded id r found past => paid (books.ended recorded id r found past), fun tidy other some_left => ?_,
    fun id untroubled r found => ?_, fun response member => ?_, ⟨fun u b begins inserted => ?_,
    fun u x b c first second one two => ?_, fun u b status begins inserted => ?_⟩, ?_⟩
  · obtain ⟨u, r, caller', held, alive, inserted⟩ := books.helpers tidy other some_left
    have other_db : r.dbType ≠ db := (books.helpers tidy other some_left).elsewhere free r held.1
    have apart : u ≠ t := fun own => idle _ _ held.2 own
    refine ⟨u, r, caller', ⟨held.1, ?_⟩, alive, fun b begins => inserted b (by rwa [begun u apart] at begins)⟩
    exact World.acquired_locks.mpr (Or.inr ⟨other_db, held.2⟩)
  · rw [high]
    exact books.smoothly id untroubled r found
  · rw [told] at member
    exact books.told response member
  · exact books.issues.present u b (before u b begins inserted) inserted
  · exact books.issues.sole u x b c (before u b first one) (before x c second two) one two
  · exact books.issues.past u b status (before u b begins inserted) inserted
  · rw [high]
    exact books.high

theorem acquired_enters (guar : Guar {} t v (v.acquired t db id caller)) :
    Enters p t v (v.acquired t db id caller) := by
  have book : (v.acquired t db id caller).book.owed = v.book.owed ∧ (v.acquired t db id caller).book.high = v.book.high ∧
      ∀ u, u ≠ t → (v.acquired t db id caller).book.begun u = v.book.begun u := by
    cases caller with
    | issue => exact ⟨rfl, rfl, fun u other => Function.update_of_ne other _ _⟩
    | revoke => exact ⟨rfl, rfl, fun _ _ => rfl⟩
    | reconcile => exact ⟨rfl, rfl, fun _ _ => rfl⟩
  obtain ⟨owed, high, begun⟩ := book
  refine ⟨guar, fun id r found => ⟨r, found, Or.inl rfl⟩, fun id' absent r found => ?_,
    fun id' r r' found found' active => ?_, fun u _ => by rw [owed], begun, high.ge, fun _ d paid => ?_,
    fun b _ _ => ⟨rfl, { Untouched.refl b.grant v with }⟩⟩
  · rw [show v.row id' = some r from found] at absent
    cases absent
  · rw [show v.row id' = some r' from found'] at found
    cases found
    exact Or.inl active
  · unfold Paid
    rw [owed]
    exact paid

theorem released_ledger (books : Ledger p v) (base : Inv {} (v.released t db)) (inv : Inv {} v)
    (lock : v.locks db = some ⟨t, id, caller⟩)
    (done : p.tidy → ∀ r, v.row id = some r → (∀ b, v.book.begun t = some b → b.inserted = true) → Helperless id v) :
    Ledger p (v.released t db) := by
  have begun (u : Nat) (other : u ≠ t) : (v.released t db).book.begun u = v.book.begun u :=
    Function.update_of_ne other _ _
  have mine (b : Begun) (begins : (v.released t db).book.begun t = some b) :
      ∃ x, v.book.begun t = some x ∧ b = { x with left := (v.row x.grant).map (·.status) } := by
    have same : (v.released t db).book.begun t =
        (v.book.begun t).map fun x => { x with left := (v.row x.grant).map (·.status) } := Function.update_self ..
    rw [same] at begins
    obtain ⟨x, at_x, rfl⟩ := Option.map_eq_some_iff.mp begins
    exact ⟨x, at_x, rfl⟩
  have before (u : Nat) (b : Begun) (begins : (v.released t db).book.begun u = some b) :
      ∃ x, v.book.begun u = some x ∧ b.grant = x.grant ∧ b.inserted = x.inserted := by
    by_cases own : u = t
    · subst own
      obtain ⟨x, at_x, rfl⟩ := mine b begins
      exact ⟨x, at_x, rfl, rfl⟩
    · exact ⟨b, by rwa [begun u own] at begins, rfl, rfl⟩
  refine ⟨base, books.unique, books.rows, books.issued, books.ended, fun tidy other some_left => ?_, books.smoothly,
    books.told, ⟨fun u b begins inserted => ?_, fun u y b c first second one two same => ?_,
    fun u b status begins inserted left apart r found => ?_⟩, books.high⟩
  · obtain ⟨u, r, caller', held, alive, inserted⟩ := books.helpers tidy other some_left
    have apart : u ≠ t := by
      rintro rfl
      have here : r.dbType = db := inv.single _ _ _ _ held.2 lock rfl
      obtain ⟨found, own⟩ := held
      rw [here, lock] at own
      cases own
      exact some_left (done tidy r found inserted)
    refine ⟨u, r, caller', ⟨held.1, World.released_locks.mpr ⟨?_, held.2⟩⟩, alive, fun b begins =>
      inserted b (by rwa [begun u apart] at begins)⟩
    rintro same
    have held := held.2
    rw [same, lock] at held
    cases held
    exact apart rfl
  · obtain ⟨x, at_x, grant, same⟩ := before u b begins
    have present := books.issues.present u x at_x (by rw [← same, inserted])
    rwa [← grant] at present
  · obtain ⟨x, at_x, grant, same_x⟩ := before u b first
    obtain ⟨z, at_z, grant', same_z⟩ := before y c second
    exact books.issues.sole u y x z at_x at_z (by rw [← same_x, one]) (by rw [← same_z, two])
      (by rw [← grant, ← grant', same])
  · by_cases own : u = t
    · subst own
      obtain ⟨x, at_x, rfl⟩ := mine b begins
      have found : v.row x.grant = some r := found
      have left : (v.row x.grant).map (·.status) = some status := left
      rw [found, Option.map_some, Option.some.injEq] at left
      rw [left]
      exact apart
    · exact books.issues.past u b status (by rwa [begun u own] at begins) inserted left apart r found

theorem released_enters (guar : Guar {} t v (v.released t db)) : Enters p t v (v.released t db) := by
  refine ⟨guar, fun id r found => ⟨r, found, Or.inl rfl⟩, fun id absent r found => ?_,
    fun id r r' found found' active => ?_, fun _ _ => rfl, fun u other => Function.update_of_ne other _ _, Nat.le_refl _,
    fun _ _ paid => paid, fun b _ _ => ⟨rfl, { Untouched.refl b.grant v with }⟩⟩
  · rw [show v.row id = some r from found] at absent
    cases absent
  · rw [show v.row id = some r' from found'] at found
    cases found
    exact Or.inl active

theorem Entering.lasts : Lasts p t (Entering p t db id caller) :=
  Lasts.exists fun r => (Lasts.const _).and (At.lasts (k := Errand.fresh t id caller r))

theorem Entering.bold : Bold t (Entering p t db id caller) := fun _ held _ begun => by
  obtain ⟨r, -, at_k⟩ := held
  exact at_k.1.inserted begun

/-- The lock for a row that is there. -/
theorem lockAcquire_work (other : caller ≠ .issue) :
    Triple (ledger p) t (some n) (fun w => Rests p t none w ∧ ∃ r, w.row id = some r ∧ r.dbType = db)
      (ask (.lockAcquire db id caller))
      (fun (acquired : Bool) w => if acquired = true then Entering p t db id caller w else Rests p t none w)
      (fun _ => Rests p t none) := by
  have rests : Lasts p t (Rests p t none) := Rests.lasts
  have placed : Lasts p t fun w => Rests p t none w ∧ ∃ r, w.row id = some r ∧ r.dbType = db :=
    rests.and Placed.ledger_lasts
  have answered (acquired : Bool) : Lasts p t fun w =>
      if acquired = true then Entering p t db id caller w else Rests p t none w := by
    cases acquired with
    | true => exact Entering.lasts
    | false => exact rests
  refine step_triple placed.stable (fun acquired => (answered acquired).stable) (fun _ => rests.stable)
    fun v c answer u held books executed honours base guar => ?_
  obtain ⟨⟨idle, owed, begun⟩, r, found, type⟩ := held
  have kept : Enters p t v v := (Level.refl v).enters (by
    have same : Same {} v v := Same.refl v
    exact same.guar books.base t) fun b _ _ => Untouched.refl b.grant v
  simp only [exec] at executed
  split at executed
  · rename_i free
    cases executed
    refine ⟨acquired_ledger books idle free base, acquired_enters guar, r, ⟨type, fun actor read same untroubled => ?_⟩,
      ⟨⟨found, ?_⟩, fun recorded => ?_, ?_, ?_⟩, fun tidy => ?_⟩
    · exact honours.unrevoked id untroubled db actor read (by rw [same])
    · exact World.acquired_locks.mpr (Or.inl ⟨type, rfl⟩)
    · cases caller with
      | issue => exact absurd rfl other
      | revoke => exact owed recorded
      | reconcile => exact owed recorded
    · cases caller with
      | issue => exact absurd rfl other
      | revoke => exact begun
      | reconcile => exact begun
    · have unwatched : v.watch t = none := idle.watch books.base
      exact Option.map_eq_none_iff.mpr unwatched
    · by_contra some_left
      exact (books.helpers tidy id some_left).elsewhere free r found type
  · simp only [Option.ite_none_right_eq_some, Option.some.injEq, Prod.mk.injEq] at executed
    obtain ⟨-, rfl, rfl⟩ := executed
    exact ⟨books, kept, idle, owed, begun⟩

theorem begin_work (other : caller ≠ .issue) :
    Triple (ledger p) t (some n) (fun w => Rests p t none w ∧ ∃ r, w.row id = some r ∧ r.dbType = db)
      (begin_ db id caller) (fun _ => Entering p t db id caller) (fun _ => Rests p t none) := by
  have rests : Lasts p t (Rests p t none) := Rests.lasts
  have entering : Lasts p t (Entering p t db id caller) := Entering.lasts
  refine Triple.bind (lockAcquire_work other) fun (acquired : Bool) => ?_
  cases acquired with
  | true =>
    refine calm_triple _ entering Entering.bold trivial (fun _ => entering) (fun _ => rests)
      fun v c answer u _ held _ _ executed _ => ?_
    cases executed
    exact held
  | false => exact Triple.raise rests.stable fun _ held => held

/-- The lock for an issue. -/
theorem begin_opening :
    Triple (ledger p) t (some n) (Rests p t none) (begin_ db id .issue) (fun _ => Opening p t db id)
      (fun _ => Rests p t none) := by
  have rests : Lasts p t (Rests p t none) := Rests.lasts
  have opening : Lasts p t (Opening p t db id) := Opening.lasts
  have answered (acquired : Bool) : Lasts p t fun w =>
    if acquired = true then Opening p t db id w else Rests p t none w := by
    cases acquired with
    | true => exact opening
    | false => exact rests
  have acquire : Triple (ledger p) t (some n) (Rests p t none) (ask (.lockAcquire db id .issue))
      (fun (acquired : Bool) w => if acquired = true then Opening p t db id w else Rests p t none w)
      (fun _ => Rests p t none) := by
    refine step_triple rests.stable (fun acquired => (answered acquired).stable) (fun _ => rests.stable)
      fun v c answer u held books executed honours base guar => ?_
    simp only [exec] at executed
    split at executed
    · rename_i free
      cases executed
      refine ⟨acquired_ledger books held.1 free base, acquired_enters guar,
        World.acquired_locks.mpr (Or.inl ⟨rfl, rfl⟩),
        held.2.1, Function.update_self .., held.1.watch books.base⟩
    · simp only [Option.ite_none_right_eq_some, Option.some.injEq, Prod.mk.injEq] at executed
      obtain ⟨-, rfl, rfl⟩ := executed
      exact ⟨books, (Level.refl _).enters guar fun b _ _ => Untouched.refl b.grant _, held⟩
  refine Triple.bind acquire fun (acquired : Bool) => ?_
  cases acquired with
  | true =>
    refine step_triple opening.stable (fun _ => opening.stable) (fun _ => rests.stable)
      fun v c answer u held books executed honours base guar => ?_
    cases executed
    have quiet : Calm v { v with inflight := (t, id) :: v.inflight } := { Calm.refl v with }
    exact ⟨quiet.ledger books base, quiet.enters guar fun b _ _ => { Untouched.refl b.grant v with },
      opening.calm _ _ quiet held⟩
  | false => exact Triple.raise rests.stable fun _ held => held

/-- The end of an errand that owes nothing. -/
theorem end_work (debt : k.debt = none) :
    Triple (ledger p) k.thread (some n) (At p k) (end_ k.row.dbType k.id)
      (fun _ => Rests p k.thread (k.begun.map fun b => { b with left := some k.row.status })) (fun _ _ => False) := by
  have at_k : Lasts p k.thread (At p k) := At.lasts
  have rests : Lasts p k.thread (Rests p k.thread (k.begun.map fun b => { b with left := some k.row.status })) :=
    Rests.lasts
  have discard : Triple (ledger p) k.thread (some n) (At p k) (ask (.inflightDiscard k.id)) (fun _ => At p k)
      (fun _ _ => False) := by
    refine calm_triple _ at_k At.bold trivial (fun _ => at_k) (fun _ => Lasts.const False)
      fun v c answer u _ held _ _ executed _ => ?_
    cases executed
    exact held
  refine Triple.bind discard fun _ => ?_
  refine step_triple at_k.stable (fun _ => rests.stable) (fun _ => (Lasts.const False).stable)
    fun v c answer u held books executed _ base guar => ?_
  cases executed
  have lock := held.1.held.2
  refine ⟨released_ledger books base books.base lock fun tidy _ _ _ => held.2 tidy, released_enters guar,
    World.release_idle books.base lock, fun recorded => (held.1.owed recorded).trans debt, ?_⟩
  have begun : (v.released k.thread k.row.dbType).book.begun k.thread =
      (v.book.begun k.thread).map fun x => { x with left := (v.row x.grant).map (·.status) } := Function.update_self ..
  refine begun.trans ?_
  rw [held.1.begun]
  cases same : k.begun with
  | none => rfl
  | some b =>
    have own : b.grant = k.id := by rw [k.bold b same]
    rw [Option.map_some, Option.map_some, own, held.1.held.1]
    rfl

/-- The end of an issue that has not inserted its row. -/
theorem end_opening :
    Triple (ledger p) t (some n) (Opening p t db id) (end_ db id) (fun _ w => ∃ left, Rests p t (some ⟨id, false, left⟩) w)
      (fun _ _ => False) := by
  have opening : Lasts p t (Opening p t db id) := Opening.lasts
  have rests : Lasts p t fun w => ∃ left, Rests p t (some ⟨id, false, left⟩) w := Lasts.exists fun _ => Rests.lasts
  have discard : Triple (ledger p) t (some n) (Opening p t db id) (ask (.inflightDiscard id)) (fun _ => Opening p t db id)
      (fun _ _ => False) := by
    refine step_triple opening.stable (fun _ => opening.stable) (fun _ => (Lasts.const False).stable)
      fun v c answer u held books executed honours base guar => ?_
    cases executed
    have quiet : Calm v { v with inflight := v.inflight.filter (·.2 ≠ id) } := { Calm.refl v with }
    exact ⟨quiet.ledger books base, quiet.enters guar fun b _ _ => { Untouched.refl b.grant v with },
      opening.calm _ _ quiet held⟩
  refine Triple.bind discard fun _ => ?_
  refine step_triple opening.stable (fun _ => rests.stable) (fun _ => (Lasts.const False).stable)
    fun v c answer u held books executed _ base guar => ?_
  cases executed
  refine ⟨released_ledger books base books.base held.lock fun _ _ _ inserted => ?_, released_enters guar,
    (v.row id).map (·.status), World.release_idle books.base held.lock, held.owed, ?_⟩
  · cases inserted _ held.begun
  · have begun : (v.released t db).book.begun t =
        (v.book.begun t).map fun x => { x with left := (v.row x.grant).map (·.status) } := Function.update_self ..
    refine begun.trans ?_
    rw [held.begun]
    rfl

end locks
end Vdba
