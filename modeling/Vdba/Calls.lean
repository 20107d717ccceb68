import Vdba.Work

namespace Vdba

/-- What a call does to the world when it takes effect. -/
def World.effect (w : World) (t : Nat) (c : Choice) : Op → World
  | .sleep span => w.at_ (w.clock + span)
  | .mark m => w.marked t m
  | .lockAcquire db id caller => w.acquired t db id caller
  | .lockRelease db => w.released t db
  | .inflightAdd id => { w with inflight := (t, id) :: w.inflight }
  | .inflightDiscard id => { w with inflight := w.inflight.filter (·.2 ≠ id) }
  | .slotAcquire kind => { w with slots := (t, kind) :: w.slots }
  | .slotRelease kind => { w with slots := w.slots.erase (t, kind) }
  | .insertGrant now g => w.inserted t now g
  | .updateGrant now id fields => w.updated t now id fields
  | .addAudit row => w.audited t row
  | .createSession session => { w with store := w.store.createSession session }
  | .touchSession now sid checked => { w with store := w.store.touchSession now sid checked }
  | .deleteSession sid => { w with store := w.store.deleteSession sid }
  | .purgeSessions now => { w with store := (w.store.purgeSessions now).2 }
  | .writeRole role db creation revocation _ => w.setRole role (some ⟨db, creation, revocation⟩)
  | .deleteRole role => w.setRole role none
  | .createToken _ label => w.addToken ⟨c.key, c.secret, label⟩
  | .leaseRemove id => w.dropLease id
  | .revokeAccessor accessor => w.dropToken accessor
  | .runStatement db text account => (w.statement db text account c.count).getD w
  | .credsClose o => w.closed o c.key c.secret c.count
  | .accountsWithPrefix .. => w.searched t c.names
  | .respond response => { w with book := w.book.tells response }
  | _ => w

/-- What must hold for a call to take effect. -/
def World.possible (w : World) : Op → Prop
  | .lockAcquire db _ _ => w.locks db = none
  | .slotAcquire kind => w.taken kind < slotLimit kind
  | .insertGrant _ g => w.row g.id = none
  | _ => True

/-- A call has its effect, or none; without an exception it has it, if it is possible. -/
theorem exec_effect {t : Nat} {op : Op} {c : Choice} {v w : World} {answer : Except Exc (Ans op)}
    (executed : exec t op c v = some (answer, w)) : w = v ∨ w = v.effect t c op ∧ v.possible op := by
  have settled {α : Type} {honest : World → Exc → Bool} {u : World} {value : α} {answer : Except Exc α}
      (done : settle c honest v u value = some (answer, w)) : w = v ∨ w = u := by
    rcases settle_cases done with ⟨-, same, -⟩ | ⟨-, -, -, ⟨same, -⟩ | same, -⟩
    · exact Or.inr same
    · exact Or.inl same
    · exact Or.inr same
  have possibly {α : Type} {possible : Bool} {honest : World → Exc → Bool} {u : World} {value : α}
      {answer : Except Exc α} (done : settleIf possible c honest v u value = some (answer, w)) :
      w = v ∨ w = u ∧ possible = true := by
    rcases settleIf_cases done with ⟨-, same, -, can⟩ | ⟨-, -, -, same | ⟨same, can⟩, -⟩
    · exact Or.inr ⟨same, can⟩
    · exact Or.inl same
    · exact Or.inr ⟨same, can⟩
  have refused {α : Type} {honest : World → Exc → Bool} {answer : Except Exc α}
      (done : refuse c honest v = some (answer, w)) : w = v := by
    obtain ⟨-, -, same, -, -⟩ := refuse_cases done
    exact same
  cases op
  case tokenHex | setOrder =>
    simp only [exec] at executed
    split at executed <;> cases executed
    exact Or.inl rfl
  case slotAcquire kind =>
    simp only [exec] at executed
    split at executed <;> cases executed
    · exact Or.inr ⟨rfl, by assumption⟩
    · exact Or.inl rfl
  case lockAcquire db id caller =>
    simp only [exec] at executed
    split at executed
    · cases executed
      exact Or.inr ⟨rfl, by assumption⟩
    · split at executed <;> cases executed
      exact Or.inl rfl
  case insertGrant now g => exact (possibly executed).imp_right fun done => ⟨done.1, Option.isNone_iff_eq_none.mp done.2⟩
  case listAccessors | listLeases =>
    simp only [exec] at executed
    split at executed
    · exact (settled executed).imp_right fun same => ⟨same, trivial⟩
    · exact (possibly executed).imp_right fun done => ⟨done.1, trivial⟩
  case lookupAccessor =>
    simp only [exec] at executed
    split at executed
    · exact (settled executed).imp_right fun same => ⟨same, trivial⟩
    · exact Or.inl (refused executed)
  case leaseFind =>
    simp only [exec] at executed
    split at executed <;> exact (settled executed).imp_right fun same => ⟨same, trivial⟩
  case credsOpen =>
    simp only [exec] at executed
    split at executed
    · exact (possibly executed).imp_right fun done => ⟨done.1, trivial⟩
    · exact Or.inl (refused executed)
  case runStatement db text account =>
    simp only [exec] at executed
    split at executed
    · rename_i w' ran
      refine (settled executed).imp_right fun same => ⟨?_, trivial⟩
      rw [same, World.effect, ran]
      rfl
    · exact Or.inl (refused executed)
  case accountsWithPrefix | createToken | credsClose => exact (possibly executed).imp_right fun done => ⟨done.1, trivial⟩
  case now | sleep | tokenUrlsafe | bogusArmed | mark | lockRelease | inflightAdd | inflightDiscard | inflightHas
    | slotRelease | respond => cases executed; exact Or.inr ⟨rfl, trivial⟩
  all_goals exact (settled executed).imp_right fun same => ⟨same, trivial⟩

/-- How a move can change the world. -/
theorem System.move_world {cfg : Config} {s s' : System} {label : Move} (moved : s.move cfg label = some s') :
    s'.world = s.world ∨
    (∃ t choice op next answer, label = .run t choice ∧ s.threads t = some (.call op next) ∧
      exec t op choice s.world = some (answer, s'.world)) ∨
    (∃ event, label = .env event ∧ event.happen s.world = some s'.world) ∨ label = .kill ∧ s'.world = s.world.reset :=
  Interaction.Pool.step_world moved

end Vdba
