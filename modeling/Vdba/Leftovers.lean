import Vdba.Lifecycle

namespace Vdba

/-- The transactions of the store are atomic, no deletion of a one-shot role gives up while the role is there, and the
process does not die while there is one. -/
def Tidied (s : System) (label : Move) : Prop :=
  Transactional s label ∧
    (∀ t choice, label = .run t choice → ∀ role next, s.threads t = some (.call (.mark (.leftBehind role)) next) →
      s.world.vault.roles role = none) ∧
    (label = .kill → ∀ id, Helperless id s.world)

section helpers
variable {cfg : Config} {s : System} {label : Move}

theorem Tidied.honoured (tidied : Tidied s label) : Honoured { tidy := True } s label := by
  obtain ⟨atomic, deletes, kills⟩ := tidied
  cases label with
  | run t choice =>
    intro op next at_t
    refine ⟨atomic op next at_t, False.elim, fun _ role same => ?_, fun _ => False.elim, fun _ => False.elim,
      False.elim⟩
    subst same
    exact deletes t choice rfl role next at_t
  | kill => exact ⟨False.elim, fun _ => kills rfl⟩
  | env => trivial
  | spawn => trivial

/-- While a one-shot role of a grant is there, a call is at work on the grant, and its row is not finished. -/
theorem System.Run.helper_tended (run : System.Run cfg Tidied s) {id : GrantId} {suffix : Hex 2}
    (left : s.world.vault.roles (id.helper suffix) ≠ none) :
    ∃ t r caller, s.world.Held t id r caller ∧ r.status.terminal = false := by
  have honoured : System.Run cfg (Honoured { tidy := True }) s := System.Later.mono run fun _ _ => Tidied.honoured
  have books : Ledger { tidy := True } s.world := honoured.recorded.inv
  obtain ⟨t, r, caller, held, alive, -⟩ := books.helpers trivial id fun none => left (none suffix)
  exact ⟨t, r, caller, held, alive⟩

/-- Where no deletion of a one-shot role gives up and the process does not die while there is one, a finished grant has
no role in Vault. -/
theorem System.Run.no_role_left (run : System.Run cfg Tidied s) {id : GrantId} {r : Grant}
    (found : s.world.row id = some r) (terminal : r.status.terminal = true) :
    (∀ suffix, s.world.vault.roles (id.helper suffix) = none) ∧ s.world.vault.roles id.text = none := by
  refine ⟨fun suffix => ?_, (run.terminal_clean found terminal).role⟩
  by_contra left
  obtain ⟨t, r', caller, ⟨row, -⟩, alive⟩ := run.helper_tended left
  rw [found] at row
  cases row
  rw [terminal] at alive
  cases alive

/-- The test of `Tidied`, move by move. -/
def System.tidied (s : System) (label : Move) : Bool :=
  s.atomic label && match label with
  | .run t _ =>
    match s.threads t with
    | some (.call (.mark (.leftBehind role)) _) => (s.world.vault.roles role).isNone
    | _ => true
  | .kill => false
  | _ => true

theorem System.tidied_ok (s : System) (label : Move) (tested : s.tidied label = true) : Tidied s label := by
  simp only [tidied, Bool.and_eq_true] at tested
  refine ⟨s.atomic_ok label tested.1, fun t choice same role next at_t => ?_, fun same => ?_⟩
  · subst same
    simpa only [at_t, Option.isNone_iff_eq_none] using tested.2
  · subst same
    cases tested.2

/-- Vault creates the account of an issue and then fails; the account is dropped through a one-shot role. -/
def droppingScript : List Scene :=
  [.starts 0 (.issue clickhouseRequest "admin" "1"), .goes 0 18, .fails 0 ⟨.vaultDown, ""⟩, .goes 0 30]

def droppedState : System :=
  System.play someConfig System.tidied ((droppingScript ++ [Scene.goes 0 20]).flatMap Scene.moves) System.start

set_option maxRecDepth 100000 in
theorem droppedState_row : (droppedState.world.row someId).map (·.status) = some .failed := by decide

theorem droppedState_no_role : (∀ suffix, droppedState.world.vault.roles (someId.helper suffix) = none) ∧
    droppedState.world.vault.roles someId.text = none := by
  obtain ⟨r, row, status⟩ := Option.map_eq_some_iff.mp droppedState_row
  have run : System.Run someConfig Tidied droppedState := System.Later.play System.tidied_ok _ .start
  exact run.no_role_left row (by rw [status]; rfl)

/-- Vault fails once more when the one-shot role is to be deleted. -/
def leftoverState : System :=
  System.play someConfig System.atomic
    ((droppingScript ++ [Scene.fails 0 ⟨.vaultDown, ""⟩, .goes 0 20]).flatMap Scene.moves) System.start

def leftoverSuffix : Hex 2 :=
  ⟨List.replicate 4 'a', rfl, fun d member => by rw [List.eq_of_mem_replicate member]; decide⟩

set_option maxRecDepth 100000 in
theorem leftoverState_row : (leftoverState.world.row someId).map (·.status) = some .failed ∧
    (leftoverState.world.vault.roles (someId.helper leftoverSuffix)).isSome = true := by decide

theorem helper_left_behind : ¬∀ s : System, System.Run someConfig Transactional s → ∀ id r, s.world.row id = some r →
    r.status.terminal = true → ∀ suffix, s.world.vault.roles (id.helper suffix) = none := by
  intro none_left
  obtain ⟨r, row, status⟩ := Option.map_eq_some_iff.mp leftoverState_row.1
  have run : System.Run someConfig Transactional leftoverState := System.Later.play System.atomic_ok _ .start
  have none := none_left _ run someId r row (by rw [status]; rfl) leftoverSuffix
  have left := leftoverState_row.2
  rw [none] at left
  cases left

end helpers
end Vdba
