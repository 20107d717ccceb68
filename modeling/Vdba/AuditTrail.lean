import Vdba.Lifecycle

namespace Vdba

/-- The transactions of the store are atomic, and no row that is owed to the audit log is lost: its insert does not fail,
and the process does not die before it. -/
def AuditKept (s : System) (label : Move) : Prop :=
  Transactional s label ∧
    (∀ t choice, label = .run t choice → ∀ row next, s.threads t = some (.call (.addAudit row) next) →
      s.world.book.owed t ≠ none → choice.fate = .ok) ∧
    (label = .kill → ∀ t, s.world.book.owed t = none)

/-- A thread has written a status, and its row of the audit log is still to come. -/
def Owed (d : Debt) (w : World) : Prop := ∃ t, w.book.owed t = some d

/-- The row is in the audit log. -/
def Logged (d : Debt) (w : World) : Prop := ∃ a ∈ w.store.audit, d.paidBy a = true

/-- The next call of the thread is the write with which a revocation by the actor begins, and it succeeds. -/
def System.Revokes (s : System) (t : Nat) (choice : Choice) (id : GrantId) (actor : String) : Prop :=
  choice.fate = .ok ∧ ∃ now next r read, s.threads t = some (.call (.updateGrant now id { status := some .revoking }) next) ∧
    s.world.Held t id r (.revoke actor read)

section audit
variable {cfg : Config} {s s' : System} {label : Move} {d : Debt} {v w : World}

theorem AuditKept.honoured (kept : AuditKept s label) : Honoured { recorded := True } s label := by
  obtain ⟨atomic, inserts, kills⟩ := kept
  cases label with
  | run t choice =>
    intro op next at_t
    refine ⟨atomic op next at_t, fun _ row same owes => ?_, False.elim, fun _ => False.elim, fun _ => False.elim,
      False.elim⟩
    subst same
    exact inserts t choice rfl row next at_t owes
  | kill => exact ⟨fun _ => kills rfl, False.elim⟩
  | env => trivial
  | spawn => trivial

theorem Paid.logged (paid : Paid d w) (past : ¬Owed d w) : Logged d w := paid.resolve_right past

theorem System.Run.kept (run : System.Run cfg AuditKept s) : System.Run cfg (Honoured { recorded := True }) s :=
  System.Later.mono run fun _ _ => AuditKept.honoured

theorem System.Run.books (run : System.Run cfg AuditKept s) : Ledger { recorded := True } s.world :=
    run.kept.recorded.inv

/-- What is in the log, or on its way there, stays so. -/
theorem System.Run.paid_step (run : System.Run cfg AuditKept s) (allowed : AuditKept s label)
    (moved : s.move cfg label = some s') (paid : Paid d s.world) : Paid d s'.world := by
  rcases System.move_world moved with same | ⟨t, choice, op, next, answer, rfl, -, -⟩ | ⟨event, -, happened⟩ | ⟨rfl, same⟩
  · rwa [same]
  · rcases run.kept.enters allowed.honoured moved with same | enters
    · rwa [same]
    · exact enters.paid trivial d paid
  · exact (happen_calm happened).toLevel.paid.mpr paid
  · have settled := allowed.2.2 rfl
    have logged := paid.logged fun ⟨t, owes⟩ => by
      rw [settled t] at owes
      cases owes
    rw [same]
    exact Or.inl logged

theorem System.Later.paid (run : System.Run cfg AuditKept s) (later : System.Later cfg AuditKept s s')
    (paid : Paid d s.world) : Paid d s'.world := by
  induction later with
  | start => exact paid
  | next before allowed moved ih => exact (run.later before).paid_step allowed moved ih

theorem System.Revokes.owed {t : Nat} {choice : Choice} {id : GrantId} {actor : String}
    (revokes : s.Revokes t choice id actor) (moved : s.move cfg (.run t choice) = some s') :
    Owed ⟨id, "revoke", "started", some actor⟩ s'.world := by
  obtain ⟨succeeds, now, next, r, read, at_t, held⟩ := revokes
  refine ⟨t, ?_⟩
  simp only [System.move, Interaction.Pool.step, at_t, Interaction.Prog.advance, Option.map_eq_some_iff] at moved
  obtain ⟨-, ⟨⟨answer, w⟩, executed, rfl⟩, rfl⟩ := moved
  have executed : settle choice anyExc s.world (s.world.updated t now id { status := some .revoking }) () = some (answer, w) :=
    executed
  simp only [settle, succeeds] at executed
  obtain ⟨-, rfl⟩ := executed
  simp only [World.updated_book held, Logbook.owes_self]
  rfl

/-- Where no row that is owed to the audit log is lost, a grant that is or was active has its `issue`, a revocation that
has begun has its `started`, and a finished grant has its `teardown` there, unless that row is just being written; a call
that is through owes none. -/
theorem System.Run.audit_complete (run : System.Run cfg AuditKept s) :
    (∀ s₀ id r, System.Run cfg AuditKept s₀ → System.Later cfg AuditKept s₀ s → s₀.world.row id = some r →
      r.status = .active → ¬Owed ⟨id, "issue", "ok", some r.issuedBy⟩ s.world →
        Logged ⟨id, "issue", "ok", some r.issuedBy⟩ s.world) ∧
      (∀ s₀ s₁ t choice id actor, System.Run cfg AuditKept s₀ → AuditKept s₀ (.run t choice) →
        s₀.Revokes t choice id actor → s₀.move cfg (.run t choice) = some s₁ → System.Later cfg AuditKept s₁ s →
          ¬Owed ⟨id, "revoke", "started", some actor⟩ s.world → Logged ⟨id, "revoke", "started", some actor⟩ s.world) ∧
      (∀ id r, s.world.row id = some r → r.status.terminal = true → ¬Owed ⟨id, "teardown", r.status.value, none⟩ s.world →
        Logged ⟨id, "teardown", r.status.value, none⟩ s.world) ∧
      ((∀ t, s.Over t) → ∀ d, ¬Owed d s.world) := by
  refine ⟨fun s₀ id r run₀ later found active => ?_, fun s₀ s₁ t choice id actor run₀ allowed revokes moved later => ?_,
    fun id r found terminal => ?_, fun past d ⟨t, owes⟩ => ?_⟩
  · have named : r.username.isSome = true := (run₀.books.rows id r found).set (Or.inl active)
    have paid : Paid ⟨id, "issue", "ok", some r.issuedBy⟩ s₀.world := run₀.books.issued trivial id r found named
    exact (System.Later.paid run₀ later paid).logged
  · have run₁ : System.Run cfg AuditKept s₁ := .next run₀ allowed moved
    exact (System.Later.paid run₁ later (Or.inr (revokes.owed moved))).logged
  · exact (run.books.ended trivial id r found terminal).logged
  · obtain ⟨b, rests⟩ := run.kept.over_rests (past t)
    rw [rests.2.1 trivial] at owes
    cases owes

/-- The test of `AuditKept`, move by move. -/
def System.auditKept (s : System) (label : Move) : Bool :=
  s.atomic label && match label with
  | .run t choice =>
    match s.threads t, choice.fate with
    | some (.call (.addAudit _) _), .fail _ => (s.world.book.owed t).isNone
    | _, _ => true
  | .kill => false
  | _ => true

theorem System.auditKept_ok (s : System) (label : Move) (tested : s.auditKept label = true) : AuditKept s label := by
  simp only [auditKept, Bool.and_eq_true] at tested
  have atomic := s.atomic_ok label tested.1
  refine ⟨atomic, fun t choice same row next at_t owes => ?_, fun same => ?_⟩
  · subst same
    cases fate : choice.fate with
    | ok => rfl
    | fail exn => simp [at_t, fate, owes] at tested
    | lost exn => exact absurd fate (atomic _ next at_t rfl exn)
  · subst same
    cases tested.2

/-- A ClickHouse grant that was issued and revoked. -/
def loggedState : System :=
  System.play someConfig System.auditKept ([Scene.starts 0 (.issue clickhouseRequest "admin" "1"), .goes 0 27,
    .starts 1 (.revoke someId "admin" "2"), .goes 1 60].flatMap Scene.moves) System.start

set_option maxRecDepth 100000 in
theorem loggedState_row : (loggedState.world.row someId).map (·.status) = some .revoked ∧
    loggedState.world.book.owed 0 = none ∧ loggedState.world.book.owed 1 = none := by decide

theorem loggedState_audited : Owed ⟨someId, "teardown", "revoked", none⟩ loggedState.world ∨
    Logged ⟨someId, "teardown", "revoked", none⟩ loggedState.world := by
  obtain ⟨r, row, status⟩ := Option.map_eq_some_iff.mp loggedState_row.1
  have run : System.Run someConfig AuditKept loggedState := System.Later.play System.auditKept_ok _ .start
  have logged := run.audit_complete.2.2.1 someId r row (by rw [status]; rfl)
  rw [status] at logged
  exact Classical.or_iff_not_imp_left.mpr logged

/-- An issue that dies between the write of its status and its row of the audit log, and a pass of the reconciler. -/
def unloggedState : System :=
  System.play someConfig System.atomic ([Scene.starts 0 (.issue clickhouseRequest "admin" "1"), .goes 0 22, .dies,
    .starts 1 .reconcile, .goes 1 20].flatMap Scene.moves) System.start

set_option maxRecDepth 100000 in
theorem unloggedState_row : (unloggedState.world.row someId).map (·.status) = some .active ∧
    unloggedState.world.store.audit = [] := by decide

theorem issue_not_logged : ¬∀ s : System, System.Run someConfig Transactional s → ∀ id r, s.world.row id = some r →
    r.status = .active → Logged ⟨id, "issue", "ok", some r.issuedBy⟩ s.world := by
  intro always
  obtain ⟨r, row, status⟩ := Option.map_eq_some_iff.mp unloggedState_row.1
  have run : System.Run someConfig Transactional unloggedState := System.Later.play System.atomic_ok _ .start
  obtain ⟨a, member, -⟩ := always _ run someId r row status
  rw [unloggedState_row.2] at member
  cases member

end audit
end Vdba
