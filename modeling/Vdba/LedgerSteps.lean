import Vdba.LedgerWork

namespace Vdba
open Interaction (Triple Stable Keeping)

section helpers
variable {p : Pledge} {n : Nat} {k : Errand} {v w : World} {suffix : Hex 2}

theorem level_setRole (w : World) (name : String) (role : Option Role) : Level w (w.setRole name role) :=
  { Level.refl w with }

/-- A helper role is written or deleted for a grant whose lock is held. -/
theorem role_ledger (books : Ledger p v) (at_k : k.Runs p v) (alive : k.row.status.terminal = false)
    {role : Option Role} (base : Inv {} (v.setRole (k.id.helper suffix) role)) :
    Ledger p (v.setRole (k.id.helper suffix) role) := by
  refine (level_setRole v _ role).ledger books base fun tidy id some_left => ?_
  by_cases same : id = k.id
  · subst same
    exact ⟨k.thread, k.row, k.caller, at_k.held, alive, fun b begun => at_k.inserted begun⟩
  · refine books.helpers tidy id fun none => some_left fun other => ?_
    have differs : id.helper other ≠ k.id.helper suffix := by
      intro eq
      have owns : k.id.Owns (id.helper other) := by rw [eq]; exact k.id.owns_helper suffix
      exact same ((id.owns_helper other).unique owns)
    exact (Function.update_of_ne differs _ _).trans (none other)

theorem Errand.Runs.role (runs : k.Runs p v) (name : String) (role : Option Role) : k.Runs p (v.setRole name role) :=
  ⟨runs.held, runs.owed, runs.begun, runs.watch⟩

theorem writeRole_helping (alive : k.row.status.terminal = false) (db : DbType) (creation revocation : List String)
    (ttl : Int) :
    Keeping (ledger p) k.thread (some n) (Helping p k suffix) (writeRole (k.id.helper suffix) db creation revocation ttl) := by
  have lasts : Lasts p k.thread (Helping p k suffix) := Helping.lasts
  have write : Keeping (ledger p) k.thread (some n) (Helping p k suffix)
      (ask (.writeRole (k.id.helper suffix) db creation revocation ttl)) := by
    refine step_triple lasts.stable (fun _ => lasts.stable) (fun _ => lasts.stable)
      fun v c answer u held books executed _ base guar => ?_
    have aside (b : Begun) (begun : v.book.begun k.thread = some b) (out : b.inserted = false) :
        Untouched b.grant v u := by
      rw [Helping.bold v held b begun] at out
      cases out
    have post : Ledger p u ∧ Enters p k.thread v u ∧ Helping p k suffix u := by
      rcases exec_effect executed with rfl | ⟨rfl, -⟩
      · exact ⟨books, (Level.refl _).enters guar aside, held⟩
      · refine ⟨role_ledger books held.1 alive base, (level_setRole v _ _).enters guar aside,
          held.1.role _ _, fun tidy other differs => ?_⟩
        refine (Function.update_of_ne (fun eq => ?_) _ _).trans (held.2 tidy other differs)
        exact differs (k.id.helper_injective eq)
    cases answer with
    | ok _ => exact post
    | error _ => exact post
  refine Keeping.onError lasts.stable (Keeping.bind (calm_keeping lasts Helping.bold (calm_ask _ trivial)) fun _ => write)
    fun exn => ?_
  cases exn.cls
  case forbidden => exact Keeping.bind (calm_keeping lasts Helping.bold (calm_ask _ trivial)) fun _ => write
  all_goals exact Keeping.raise lasts.stable _

/-- The deletion of the helper, and the answer that it is gone. -/
theorem deleteRole_helping (alive : k.row.status.terminal = false) :
    Triple (ledger p) k.thread (some n) (Helping p k suffix) (deleteRole (k.id.helper suffix)) (fun _ => At p k)
      (fun _ => Helping p k suffix) := by
  have lasts : Lasts p k.thread (Helping p k suffix) := Helping.lasts
  have gone : Lasts p k.thread (At p k) := At.lasts
  have delete : Triple (ledger p) k.thread (some n) (Helping p k suffix) (ask (.deleteRole (k.id.helper suffix)))
      (fun _ => At p k) (fun _ => Helping p k suffix) := by
    refine step_triple lasts.stable (fun _ => gone.stable) (fun _ => lasts.stable)
      fun v c answer u held books executed _ base guar => ?_
    have aside (b : Begun) (begun : v.book.begun k.thread = some b) (out : b.inserted = false) :
        Untouched b.grant v u := by
      rw [Helping.bold v held b begun] at out
      cases out
    have executed : settle c anyExc v (v.setRole (k.id.helper suffix) none) () = some (answer, u) := executed
    have deleted : At p k (v.setRole (k.id.helper suffix) none) := by
      refine ⟨held.1.role _ _, fun tidy other => ?_⟩
      by_cases same : other = suffix
      · subst same
        exact Function.update_self ..
      · refine (Function.update_of_ne (fun eq => ?_) _ _).trans (held.2 tidy other same)
        exact same (k.id.helper_injective eq)
    rcases settle_cases executed with ⟨rfl, rfl, -⟩ | ⟨e, rfl, -, ⟨rfl, -⟩ | rfl, -⟩
    · exact ⟨role_ledger books held.1 alive base, (level_setRole v _ _).enters guar aside, deleted⟩
    · exact ⟨books, (Level.refl _).enters guar aside, held⟩
    · exact ⟨role_ledger books held.1 alive base, (level_setRole v _ _).enters guar aside, deleted.helping⟩
  have client : Keeping (ledger p) k.thread (some n) (Helping p k suffix) (ask .client) :=
    calm_keeping lasts Helping.bold (calm_ask _ trivial)
  have relogin : Keeping (ledger p) k.thread (some n) (Helping p k suffix) (ask .relogin) :=
    calm_keeping lasts Helping.bold (calm_ask _ trivial)
  refine Triple.onError (Triple.bind client fun _ => delete) (fun _ => gone.stable) fun exn => ?_
  cases exn.cls
  case forbidden => exact Triple.bind relogin fun _ => delete
  all_goals exact Triple.raise lasts.stable fun _ held => held

theorem quietly_keeping {t : Nat} {P : World → Prop} {prog : Portal Unit} (stable : Stable (ledger p) t P)
    (keeping : Keeping (ledger p) t (some n) P prog) :
    Triple (ledger p) t (some n) P (quietly prog) (fun _ => P) (fun _ _ => False) :=
  Triple.onError keeping (fun _ => stable) fun _ => Triple.ret stable fun _ held => held

/-- The end of a helper: its role is gone, or the run breaks its pledge. -/
theorem helperCleanup_triple (alive : k.row.status.terminal = false) (lease accessor : Option String) :
    Triple (ledger p) k.thread (some n) (Helping p k suffix) (helperCleanup (k.id.helper suffix) lease accessor)
      (fun _ => At p k) (fun _ _ => False) := by
  have lasts : Lasts p k.thread (Helping p k suffix) := Helping.lasts
  have gone : Lasts p k.thread (At p k) := At.lasts
  have given (text : Option String) {f : String → Portal Unit} (calm : ∀ s, (f s).All Op.calm) :
      Triple (ledger p) k.thread (some n) (Helping p k suffix) (forGiven text fun s => quietly (f s))
        (fun _ => Helping p k suffix) (fun _ _ => False) := by
    unfold forGiven
    split
    · exact quietly_keeping lasts.stable (calm_keeping lasts Helping.bold (calm _))
    · exact Triple.ret lasts.stable fun _ held => held
  have noted : Triple (ledger p) k.thread (some n) (Helping p k suffix) (mark (.leftBehind (k.id.helper suffix)))
      (fun _ => At p k) (fun _ _ => False) := by
    refine calm_triple _ lasts Helping.bold trivial (fun _ => gone) (fun _ => Lasts.const False)
      fun v c answer u held _ _ books executed honours => ?_
    cases executed
    refine ⟨⟨held.1.held, held.1.owed, held.1.begun, held.1.watch⟩, fun tidy other => ?_⟩
    by_cases same : other = suffix
    · subst same
      exact honours.tidy tidy _ rfl
    · exact held.2 tidy other same
  have deleted : Triple (ledger p) k.thread (some n) (Helping p k suffix)
      ((deleteRole (k.id.helper suffix)).onError fun _ => mark (.leftBehind (k.id.helper suffix)))
      (fun _ => At p k) (fun _ _ => False) :=
    Triple.onError (deleteRole_helping alive) (fun _ => gone.stable) fun _ => noted
  exact Triple.bind (given lease fun lease => calm_of_basic (basic_revokeLease lease)) fun _ =>
    Triple.bind (given accessor fun accessor => calm_of_basic (basic_revokeAccessor accessor)) fun _ =>
    deleted

/-- One helper after the other: none is left when the next one starts. -/
theorem runAsManager_keeping (alive : k.row.status.terminal = false) (db : DbType) (statements : List String) :
    Keeping (ledger p) k.thread (some n) (At p k) (runAsManager db (k.id.helper suffix) statements) := by
  have lasts : Lasts p k.thread (Helping p k suffix) := Helping.lasts
  have gone : Lasts p k.thread (At p k) := At.lasts
  have guarded {α : Type} {prog : Portal α} (accessor : Option String)
      (keeping : Keeping (ledger p) k.thread (some n) (Helping p k suffix) prog) :
      Triple (ledger p) k.thread (some n) (Helping p k suffix)
        (orCleanup prog (helperCleanup (k.id.helper suffix) none accessor)) (fun _ => Helping p k suffix)
        (fun _ => At p k) := by
    have cleaned : Triple (ledger p) k.thread (some n) (Helping p k suffix)
        (helperCleanup (k.id.helper suffix) none accessor) (fun _ => At p k) (fun _ => At p k) :=
      (helperCleanup_triple alive none accessor).mono (fun _ held => held) (fun _ _ _ held => held)
        fun _ _ _ failed => failed.elim
    exact Triple.onError keeping (fun _ => lasts.stable) fun _ =>
      Triple.bind cleaned fun _ => Triple.raise gone.stable fun _ held => held
  have written : Triple (ledger p) k.thread (some n) (At p k)
      (orCleanup (writeRole (k.id.helper suffix) db statements ["SELECT 1"] HELPER_TTL_SECONDS)
        (helperCleanup (k.id.helper suffix) none none)) (fun _ => Helping p k suffix) (fun _ => At p k) :=
    Triple.pre (guarded none (writeRole_helping alive db statements ["SELECT 1"] HELPER_TTL_SECONDS))
      fun _ held => held.helping
  unfold runAsManager
  refine Triple.bind written fun _ => ?_
  refine Triple.bind (guarded none (calm_keeping lasts Helping.bold (calm_of_basic (basic_createGrantToken _ _)))) fun a => ?_
  obtain ⟨token, accessor⟩ := a
  refine Triple.bind (guarded (some accessor) (calm_keeping lasts Helping.bold (calm_of_basic (basic_readCredentials token _))))
    fun creds => ?_
  exact (helperCleanup_triple alive (some creds.leaseId) (some accessor)).mono (fun _ held => held)
    (fun _ _ _ held => held) fun _ _ _ failed => failed.elim

theorem run_keeping (alive : k.row.status.terminal = false) (db : DbType) (statements : List String) :
    Keeping (ledger p) k.thread (some n) (At p k) (run_ db k.id statements) := by
  have lasts : Lasts p k.thread (At p k) := At.lasts
  unfold run_
  split
  · exact Keeping.ret lasts.stable ()
  · exact Keeping.bind (calm_keeping lasts At.bold (calm_ask _ trivial)) fun (suffix : Hex 2) =>
      runAsManager_keeping alive db statements

end helpers
end Vdba
