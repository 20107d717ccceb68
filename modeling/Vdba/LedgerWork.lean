import Vdba.GrantCalls
import Vdba.Ledger

namespace Vdba
open Interaction (Triple Stable Keeping)

/-- A row a thread has to itself, and what the records have of the thread. -/
structure Errand where
  thread : Nat
  id : GrantId
  row : Grant
  caller : Caller
  watching : Option GrantId
  debt : Option Debt
  begun : Option Begun
  bold : ∀ b, begun = some b → b = ⟨id, true, none⟩

/-- The thread is on its errand. -/
structure Errand.Runs (p : Pledge) (k : Errand) (w : World) : Prop where
  held : w.Held k.thread k.id k.row k.caller
  owed : p.recorded → w.book.owed k.thread = k.debt
  begun : w.book.begun k.thread = k.begun
  watch : (w.watch k.thread).map (·.grant) = k.watching

/-- There is no helper. -/
def At (p : Pledge) (k : Errand) (w : World) : Prop := k.Runs p w ∧ (p.tidy → Helperless k.id w)

/-- One helper is at work. -/
def Helping (p : Pledge) (k : Errand) (suffix : Hex 2) (w : World) : Prop :=
  k.Runs p w ∧ (p.tidy → ∀ other, other ≠ suffix → w.vault.roles (k.id.helper other) = none)

/-- The thread holds no lock and owes nothing. -/
def Rests (p : Pledge) (t : Nat) (b : Option Begun) (w : World) : Prop :=
  w.Idle t ∧ (p.recorded → w.book.owed t = none) ∧ w.book.begun t = b

/-- An assertion that neither the others nor calm calls make false. -/
structure Lasts (p : Pledge) (t : Nat) (P : World → Prop) : Prop where
  stable : Stable (ledger p) t P
  calm : ∀ v w, Calm v w → P v → P w

section work
variable {p : Pledge} {t n : Nat} {k : Errand} {b : Option Begun} {v w : World} {P Q : World → Prop} {suffix : Hex 2}

theorem Lasts.and (left : Lasts p t P) (right : Lasts p t Q) : Lasts p t fun w => P w ∧ Q w :=
  ⟨fun v w rely inv held => ⟨left.stable v w rely inv held.1, right.stable v w rely inv held.2⟩,
    fun v w calm held => ⟨left.calm v w calm held.1, right.calm v w calm held.2⟩⟩

theorem Lasts.const (fact : Prop) : Lasts p t fun _ => fact := ⟨fun _ _ _ _ held => held, fun _ _ _ held => held⟩

theorem Lasts.imp {fact : Prop} (lasts : Lasts p t P) : Lasts p t fun w => fact → P w :=
  ⟨fun v w rely inv held holds => lasts.stable v w rely inv (held holds),
    fun v w calm held holds => lasts.calm v w calm (held holds)⟩

theorem Lasts.exists {ι : Type} {P : ι → World → Prop} (lasts : ∀ i, Lasts p t (P i)) : Lasts p t fun w => ∃ i, P i w :=
  ⟨fun v w rely inv ⟨i, held⟩ => ⟨i, (lasts i).stable v w rely inv held⟩,
    fun v w calm ⟨i, held⟩ => ⟨i, (lasts i).calm v w calm held⟩⟩

theorem Lasts.or (left : Lasts p t P) (right : Lasts p t Q) : Lasts p t fun w => P w ∨ Q w :=
  ⟨fun v w rely inv held => held.imp (left.stable v w rely inv) (right.stable v w rely inv),
    fun v w calm held => held.imp (left.calm v w calm) (right.calm v w calm)⟩

theorem roles_upheld {id : GrantId} (rely : Upholds t v w) (holds : v.Holds t id) (suffix : Hex 2) :
    w.vault.roles (id.helper suffix) = v.vault.roles (id.helper suffix) :=
  (rely.base.objects id holds).roles _ (id.owns_helper suffix)

theorem Errand.Runs.rely (runs : k.Runs p v) (rely : Upholds k.thread v w) : k.Runs p w where
  held := runs.held.rely rely.base
  owed recorded := by rw [rely.owed, runs.owed recorded]
  begun := by rw [rely.begun, runs.begun]
  watch := by rw [rely.base.watch, runs.watch]

theorem Errand.Runs.level (runs : k.Runs p v) (level : Level v w) : k.Runs p w where
  held := level.held.mpr runs.held
  owed recorded := by rw [level.owed, runs.owed recorded]
  begun := by rw [level.begun, runs.begun]
  watch := by rw [level.watch, runs.watch]

theorem At.lasts : Lasts p k.thread (At p k) := by
  refine ⟨fun v w rely _ held => ?_, fun v w calm held => ?_⟩
  · refine ⟨held.1.rely rely, fun tidy suffix => ?_⟩
    rw [roles_upheld rely held.1.held.holds, held.2 tidy suffix]
  · exact ⟨held.1.level calm.toLevel, fun tidy => calm.helperless.mpr (held.2 tidy)⟩

theorem Helping.lasts : Lasts p k.thread (Helping p k suffix) := by
  refine ⟨fun v w rely _ held => ?_, fun v w calm held => ?_⟩
  · refine ⟨held.1.rely rely, fun tidy other differs => ?_⟩
    rw [roles_upheld rely held.1.held.holds, held.2 tidy other differs]
  · refine ⟨held.1.level calm.toLevel, fun tidy other differs => ?_⟩
    rw [calm.helpers, held.2 tidy other differs]

theorem Rests.rely (rests : Rests p t b v) (rely : Upholds t v w) : Rests p t b w :=
  ⟨rests.1.rely rely.base, fun recorded => by rw [rely.owed, rests.2.1 recorded], by rw [rely.begun, rests.2.2]⟩

theorem Rests.lasts : Lasts p t (Rests p t b) := by
  refine ⟨fun v w rely _ held => held.rely rely, fun v w calm held => ?_⟩
  · refine ⟨fun db h lock => held.1 db h (by rwa [calm.locks] at lock), fun recorded => ?_,
      by rw [calm.begun, held.2.2]⟩
    rw [calm.owed, held.2.1 recorded]

theorem At.helping (at_k : At p k w) : Helping p k suffix w := ⟨at_k.1, fun tidy other _ => at_k.2 tidy other⟩

/-- The thread has inserted the row it has begun with, if it has begun with one. -/
def Bold (t : Nat) (P : World → Prop) : Prop := ∀ w, P w → ∀ b, w.book.begun t = some b → b.inserted = true

theorem Errand.inserted {b : Begun} (begun : k.begun = some b) : b.inserted = true := by rw [k.bold b begun]

theorem Errand.Runs.inserted (runs : k.Runs p w) {b : Begun} (begun : w.book.begun k.thread = some b) :
    b.inserted = true := Errand.inserted (runs.begun.symm.trans begun)

theorem At.bold : Bold k.thread (At p k) := fun _ held _ begun => held.1.inserted begun

theorem Helping.bold : Bold k.thread (Helping p k suffix) := fun _ held _ begun => held.1.inserted begun

theorem Rests.bold (inserted : ∀ x, b = some x → x.inserted = true) : Bold t (Rests p t b) := fun _ held x begun =>
  inserted x (held.2.2.symm.trans begun)

theorem Rests.bold_none : Bold t (Rests p t none) := Rests.bold fun _ same => by cases same

theorem Bold.and (bold : Bold t P) : Bold t fun w => P w ∧ Q w := fun w held => bold w held.1

/-- Calm code keeps what lasts. -/
theorem calm_keeping {α : Type} {prog : Portal α} (lasts : Lasts p t P) (bold : Bold t P) (all : prog.All Op.calm) :
    Keeping (ledger p) t (some n) P prog := by
  refine Keeping.of_all lasts.stable all fun op calm v held books answer u stepped => ?_
  obtain ⟨⟨c, executed, -⟩, base, guar⟩ := stepped
  have quiet : Calm v u := exec_calm calm executed
  refine ⟨quiet.ledger books base, quiet.enters guar fun b begun out => ?_, lasts.calm v u quiet held⟩
  rw [bold v held b begun] at out
  cases out

/-- One call that is not calm, or of which more is to be known. -/
theorem step_triple {op : Op} {E : Ans op → World → Prop} {X : Exc → World → Prop} (stable : Stable (ledger p) t P)
    (stableE : ∀ a, Stable (ledger p) t (E a)) (stableX : ∀ e, Stable (ledger p) t (X e))
    (step : ∀ v c answer u, P v → Ledger p v → exec t op c v = some (answer, u) → Honours p t op c v → Inv {} u →
      Guar {} t v u → Ledger p u ∧ Enters p t v u ∧
        match answer with
        | .ok a => E a u
        | .error e => X e u) : Triple (ledger p) t (some n) P (ask op) E X := by
  refine Triple.perform stable stableE stableX fun v held books answer u stepped => ?_
  obtain ⟨⟨c, executed, honours⟩, base, guar⟩ := stepped
  obtain ⟨books', enters, post⟩ := step v c answer u held books executed honours base guar
  refine ⟨books', enters, ?_⟩
  cases answer with
  | ok a => exact post
  | error e => exact post

/-- A call that changes nothing of the records, with what its answer tells. -/
theorem calm_triple (op : Op) {E : Ans op → World → Prop} {X : Exc → World → Prop} (lasts : Lasts p t P)
    (bold : Bold t P)
    (calm : op.calm) (lastsE : ∀ a, Lasts p t (E a)) (lastsX : ∀ e, Lasts p t (X e))
    (post : ∀ v c answer u, P v → P u → Calm v u → Ledger p v → exec t op c v = some (answer, u) → Honours p t op c v →
      match answer with
      | .ok a => E a u
      | .error e => X e u) : Triple (ledger p) t (some n) P (ask op) E X := by
  refine step_triple lasts.stable (fun a => (lastsE a).stable) (fun e => (lastsX e).stable)
    fun v c answer u held books executed honours base guar => ?_
  have quiet : Calm v u := exec_calm calm executed
  refine ⟨quiet.ledger books base, quiet.enters guar fun b begun out => ?_,
    post v c answer u held (lasts.calm v u quiet held) quiet books executed honours⟩
  rw [bold v held b begun] at out
  cases out

end work

section calm
open Interaction.Prog

theorem calm_ask (op : Op) (calm : op.calm) : (ask op).All Op.calm := All.perform calm

theorem calm_of_basic {α : Type} {prog : Portal α} (all : prog.All Op.basic) : prog.All Op.calm := by
  refine all.mono fun op basic => ?_
  cases op
  case mark | lockAcquire | lockRelease | insertGrant | updateGrant | addAudit | respond | writeRole | deleteRole =>
    exact basic.elim
  all_goals trivial

theorem calm_writeRole {role : String} (other : ∀ (id : GrantId) suffix, role ≠ id.helper suffix) (db : DbType)
    (creation revocation : List String) (ttl : Int) : (writeRole role db creation revocation ttl).All Op.calm :=
  call_all trivial trivial (calm_ask _ other)

theorem calm_deleteRole {role : String} (other : ∀ (id : GrantId) suffix, role ≠ id.helper suffix) :
    (deleteRole role).All Op.calm := call_all trivial trivial (calm_ask _ other)

theorem not_helper (id : GrantId) (other : GrantId) (suffix : Hex 2) : id.text ≠ other.helper suffix :=
  (other.helper_ne id suffix).symm

end calm
end Vdba
