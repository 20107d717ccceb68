import Vdba.Lifecycle

namespace Vdba

/-- The transactions of the store are atomic; once a grant is active, its row of the audit log is written, and the issue
that has left the lock reads the grant back. -/
def Completed (s : System) (label : Move) : Prop :=
  Transactional s label ∧ ∀ t choice, label = .run t choice → ∀ op next, s.threads t = some (.call op next) →
    (∀ row, op = .addAudit row → row.action = "issue" → row.result = "ok" → choice.fate = .ok) ∧
      ∀ id b, op = .getGrant id → s.world.book.begun t = some b → b.left ≠ none → choice.fate = .ok

section outcome
variable {cfg : Config} {ok : System → Move → Prop} {p : Pledge} {s s' : System} {label : Move} {t : Nat} {id : GrantId}
  {r : Grant}

theorem Completed.honoured (completed : Completed s label) : Honoured { delivered := True } s label := by
  obtain ⟨atomic, calls⟩ := completed
  cases label with
  | run t choice =>
    intro op next at_t
    exact ⟨atomic op next at_t, False.elim, False.elim, fun _ => False.elim, fun _ => False.elim,
      fun _ => calls t choice rfl op next at_t⟩
  | kill => exact ⟨False.elim, False.elim⟩
  | env => trivial
  | spawn => trivial

theorem System.Run.completed (run : System.Run cfg Completed s) : System.Run cfg (Honoured { delivered := True }) s :=
  System.Later.mono run fun _ _ => Completed.honoured

/-- A call that holds no lock changes no row and no object of any grant. -/
theorem Enters.unlocked {v w : World} (enters : Enters p t v w) (idle : ∀ db h, v.locks db = some h → h.thread ≠ t)
    (id : GrantId) : w.row id = v.row id ∧ Untouched id v w := by
  refine ⟨?_, enters.base.objects id fun ⟨r, caller, _, lock⟩ => idle _ _ lock rfl⟩
  cases row : v.row id with
  | none =>
    rcases enters.base.insert id row with absent | ⟨db, caller, lock⟩
    · exact absent
    · exact absurd rfl (idle _ _ lock)
  | some r =>
    obtain ⟨r', found, rfl | ⟨caller, held, -⟩⟩ := enters.rows id r row
    · exact found
    · exact absurd rfl (idle _ _ held.2)

def System.raised (s : System) (t : Nat) : Bool :=
  match s.threads t with
  | some (.raise _) => true
  | _ => false

end outcome
end Vdba
