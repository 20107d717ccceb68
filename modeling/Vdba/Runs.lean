import Vdba.Calls
import Vdba.Scenario

namespace Vdba
open Interaction (Pool)

/-- Nothing is taken for granted. -/
theorem Terms.silent (id : GrantId) : ¬({} : Terms).quiet id := fun quiet => quiet

section clean
variable {cfg : Config} {ok : System → Move → Prop} {s s' : System}

theorem System.Run.inv (run : System.Run cfg ok s) : Inv {} s.world := (run.any.sound Terms.silent).inv

/-- A finished grant has no account, no lease, no token and no role, at every moment of every run. -/
theorem System.Run.terminal_clean (run : System.Run cfg ok s) {id : GrantId} {r : Grant}
    (row : s.world.row id = some r) (terminal : r.status.terminal = true) : s.world.Clean id :=
  run.inv.terminal id r row terminal

/-- A PostgreSQL grant that was issued and revoked. -/
def revokedState : System :=
  System.start.staged someConfig [.starts 0 (.issue postgresRequest "admin" "1"), .goes 0 90,
    .starts 1 (.revoke someId "admin" "2"), .goes 1 250]

set_option maxRecDepth 100000 in
theorem revokedState_row : (revokedState.world.row someId).map (·.status) = some .revoked := by decide

theorem revokedState_clean : revokedState.world.Clean someId := by
  obtain ⟨r, row, status⟩ := Option.map_eq_some_iff.mp revokedState_row
  have run : System.Run someConfig (fun _ _ => True) revokedState := System.Later.staged (fun _ _ _ => trivial) _ .start
  exact run.terminal_clean row (by rw [status]; rfl)

end clean

section isolation
variable {cfg : Config} {ok : System → Move → Prop} {s s' : System}

/-- A thread has the lock of one grant at a time. -/
theorem Inv.grant_unique {terms : Terms} {w : World} (inv : Inv terms w) {t : Nat} {db db' : DbType} {g h : GrantId}
    {caller caller' : Caller} (left : w.locks db = some ⟨t, g, caller⟩) (right : w.locks db' = some ⟨t, h, caller'⟩) :
    g = h := by
  have same : db = db' := inv.single db db' _ _ left right rfl
  subst same
  rw [left] at right
  cases right
  rfl

/-- A step of a teardown leaves the rows and the objects of all other grants as they are, and what it changes goes by a
name of its own grant, or is a token with the display name of the grant's token. -/
theorem System.Run.teardown_isolated (run : System.Run cfg ok s) {t : Nat} {choice : Choice}
    (moved : s.move cfg (.run t choice) = some s') {k : Watch} (tearing : s.world.watch t = some k) :
    (∀ h, h ≠ k.grant → s'.world.row h = s.world.row h ∧ Untouched h s.world s'.world) ∧
      Confined k.grant s.world s'.world := by
  have inv := run.inv
  obtain ⟨r, caller, at_k, lock, -, -⟩ := inv.watching t k tearing
  have held : s.world.Holds t k.grant := ⟨r, caller, at_k, lock⟩
  rcases run.any.guar Terms.silent (.of_run Terms.none_loose s t choice) moved with same | guar
  · rw [same]
    exact ⟨fun h _ => ⟨rfl, Untouched.refl h s.world⟩, Confined.refl k.grant s.world⟩
  · refine ⟨fun h other => ?_, guar.own k.grant held⟩
    have free : ¬s.world.Holds t h := by
      rintro ⟨r', caller', -, lock'⟩
      exact other (inv.grant_unique lock' lock)
    refine ⟨?_, guar.objects h free⟩
    cases row : s.world.row h with
    | none =>
      rcases guar.insert h row with absent | ⟨db', caller', lock'⟩
      · exact absent
      · exact absurd (inv.grant_unique lock' lock) other
    | some r =>
      obtain ⟨r', row', -, same⟩ := guar.row h r row
      rw [row', same free]

/-- A revocation that is about to drop the account of its grant. -/
def tearingState : System :=
  System.start.staged someConfig [.starts 0 (.issue clickhouseRequest "admin" "1"), .goes 0 60,
    .starts 1 (.revoke someId "admin" "2"), .goes 1 30]

theorem tearingState_run : System.Run someConfig (fun _ _ => True) tearingState :=
  System.Later.staged (fun _ _ _ => trivial) _ .start

set_option maxRecDepth 100000 in
theorem tearingState_watch : (tearingState.world.watch 1).map (·.grant) = some someId := by decide

set_option maxRecDepth 100000 in
theorem tearingState_moves : (tearingState.move someConfig (tearingState.onward 1)).isSome = true := by decide

theorem tearingState_isolated : ∃ s', tearingState.move someConfig (tearingState.onward 1) = some s' ∧
    (s'.world.row otherId = tearingState.world.row otherId ∧ Untouched otherId tearingState.world s'.world) ∧
    Confined someId tearingState.world s'.world := by
  obtain ⟨k, watch, grant⟩ := Option.map_eq_some_iff.mp tearingState_watch
  obtain ⟨s', moved⟩ := Option.isSome_iff_exists.mp tearingState_moves
  have moves : ∃ choice, tearingState.onward 1 = .run 1 choice := by
    unfold System.onward
    split
    · exact ⟨_, rfl⟩
    · exact ⟨_, rfl⟩
  obtain ⟨choice, same⟩ := moves
  refine ⟨s', moved, ?_⟩
  rw [same] at moved
  obtain ⟨others, confined⟩ := tearingState_run.teardown_isolated moved watch
  rw [grant] at others confined
  exact ⟨others otherId (by decide), confined⟩

/-- Somebody else's token, called as Vault would spell the name of the grant's token. -/
def stranger : Token := ⟨"accessor of a stranger", ⟨"token of a stranger"⟩, "vdba-aaaaaaaaaa"⟩

/-- The issue died before it made a token, and the reconciler searches for one. -/
def searchingState : System :=
  System.play someConfig (fun _ _ => true) ([Scene.starts 0 (.issue clickhouseRequest "admin" "1"), .goes 0 9, .dies,
    .happens (.foreignTokens [stranger]), .starts 1 .reconcile, .goes 1 30].flatMap Scene.moves) System.start

set_option maxRecDepth 100000 in
theorem searchingState_takes : (searchingState.world.watch 1).map (·.grant) = some someId ∧
    searchingState.world.vault.tokens = [stranger] ∧
    (searchingState.move someConfig (.run 1 {})).map (·.world.vault.tokens) = some [] := by decide

theorem teardown_takes_stranger : ¬∀ s s' : System, System.Run someConfig (fun _ _ => True) s → ∀ t choice k,
    s.move someConfig (.run t choice) = some s' → s.world.watch t = some k →
      ∀ token ∈ s.world.vault.tokens, ¬k.grant.Owns token.label → token ∈ s'.world.vault.tokens := by
  intro spared
  have run : System.Run someConfig (fun _ _ => True) searchingState :=
    System.Later.play (fun _ _ _ => trivial) _ .start
  obtain ⟨at_k, tokens, after⟩ := searchingState_takes
  obtain ⟨k, watch, grant⟩ := Option.map_eq_some_iff.mp at_k
  obtain ⟨s', moved, none⟩ := Option.map_eq_some_iff.mp after
  have member : stranger ∈ searchingState.world.vault.tokens := by
    rw [tokens]
    exact List.mem_cons_self
  have kept := spared _ _ run 1 {} k moved watch stranger member (by rw [grant]; decide)
  rw [none] at kept
  cases kept

end isolation

section lockout
variable {cfg : Config} {s s' : System}

/-- The accounts that were locked out stay on record. -/
theorem effect_lockedOut (w : World) (t : Nat) (c : Choice) (op : Op) :
    ∀ entry ∈ w.lockedOut, entry ∈ (w.effect t c op).lockedOut := by
  intro entry member
  cases op
  case mark m =>
    cases m with
    | lockedOut => exact List.mem_cons_of_mem _ member
    | _ => exact member
  case updateGrant now id fields =>
    rw [World.effect, (@World.updated_eq t id w now fields).2.2.2.1]
    exact member
  case runStatement db text account =>
    simp only [World.effect]
    cases ran : w.statement db text account c.count with
    | none => exact member
    | some w' =>
      have frame : Frame {} w w' := World.statement_frame ran
      rw [Option.getD_some, frame.lockedOut]
      exact member
  all_goals exact member

theorem happen_lockedOut {event : Event} {v w : World} (happened : event.happen v = some w) :
    w.lockedOut = v.lockedOut := by
  have foreign (tokens : List Token) (v : World) : (Event.addForeign tokens v).lockedOut = v.lockedOut := by
    induction tokens generalizing v with
    | nil => rfl
    | cons token tokens ih =>
      rw [Event.addForeign, ih]
      split
      · rfl
      · rfl
  cases event <;> simp only [Event.happen, Option.some.injEq, Option.ite_none_right_eq_some] at happened
  case login => obtain ⟨-, rfl⟩ := happened; rfl
  case startQuery => obtain ⟨-, rfl⟩ := happened; rfl
  case foreignTokens tokens => rw [← happened, foreign]
  case leaseText lease text count =>
    cases live : v.liveLease lease with
    | none => rw [live] at happened; cases happened
    | some l =>
      rw [live] at happened
      simp only [Option.ite_none_right_eq_some] at happened
      have frame : Frame {} v w := World.statement_frame happened.2
      exact frame.lockedOut
  all_goals subst happened; rfl

theorem System.move_lockedOut {label : Move} (moved : s.move cfg label = some s') :
    ∀ entry ∈ s.world.lockedOut, entry ∈ s'.world.lockedOut := by
  intro entry member
  rcases System.move_world moved with same | ⟨t, choice, op, next, answer, -, -, executed⟩ | ⟨event, -, happened⟩ |
    ⟨-, same⟩
  · rwa [same]
  · rcases exec_effect executed with same | ⟨same, -⟩
    · rwa [same]
    · rw [same]
      exact effect_lockedOut s.world t choice op entry member
  · rwa [happen_lockedOut happened]
  · rw [same]
    exact member

theorem System.Later.lockedOut {ok : System → Move → Prop} (later : System.Later cfg ok s s') :
    ∀ entry ∈ s.world.lockedOut, entry ∈ s'.world.lockedOut := by
  induction later with
  | start => exact fun _ member => member
  | next _ _ moved ih => exact fun entry member => System.move_lockedOut moved entry (ih entry member)

theorem System.Run.later {ok : System → Move → Prop} (run : System.Run cfg ok s) (later : System.Later cfg ok s s') :
    System.Run cfg ok s' := by
  induction later with
  | start => exact run
  | next _ allowed moved ih => exact .next ih allowed moved

/-- Once a teardown has found the account, Vault does not end its lease on its own until it is locked out. -/
def leaseKept (account : String) : Terms := { kept := (· = account) }

theorem leaseKept_loose (account : String) : (leaseKept account).Loose := ⟨id, rfl, fun _ => id, fun _ => id⟩

/-- Once `_lock_out_and_terminate` has returned, no session of the account is there and none can be opened; where a
teardown has raised, its grant is not finished. -/
theorem System.Run.stays_locked_out {account : String} (run : System.Run cfg (MoveOk (leaseKept account)) s) :
    (∀ id, (id, account) ∈ s.world.lockedOut → ∀ s', System.Later cfg (MoveOk (leaseKept account)) s s' →
      (s'.world.dbs .postgres).sessions account = 0 ∧ ¬Event.canLogin s'.world .postgres account) ∧
    ∀ t k, s.world.watch t = some k → k.raised = true → ∀ r, s.world.row k.grant = some r → r.status.terminal = false := by
  refine ⟨fun id out s' later => ?_, fun t k watch raised r row => ?_⟩
  · have sound := (run.later later).sound (leaseKept_loose account).loud
    exact (sound.inv.shut id account (later.lockedOut _ out)).2 rfl
  · obtain ⟨r', caller, row', -, alive, -⟩ := run.inv.watching t k watch
    rw [row] at row'
    cases row'
    exact alive raised

/-- The test of `leaseKept`, move by move. -/
def System.sparing (_ : System) : Move → Bool
  | .env (.leaseText ..) => false
  | _ => true

theorem System.sparing_ok {account : String} (s : System) (move : Move) (tested : s.sparing move = true) :
    MoveOk (leaseKept account) s move := by
  refine .of_events (leaseKept_loose account) fun event same => ?_
  refine EventOk.plain (leaseKept_loose account) False.elim fun _ _ lease text count ends => ?_
  subst same ends
  cases tested

def someAccount : String := someId.text ++ "_bbbbbb"

/-- The recipient of a PostgreSQL grant logs in twice, the second time after the revocation has listed the account. -/
def visitingState : System :=
  System.play someConfig System.sparing ([Scene.starts 0 (.issue postgresRequest "admin" "1"), .goes 0 40,
    .happens (.login .postgres someAccount), .starts 1 (.revoke someId "admin" "2"), .goes 1 15,
    .happens (.login .postgres someAccount)].flatMap Scene.moves) System.start

/-- The sessions are terminated, and the account is locked out. -/
def lockedOutState : System :=
  System.play someConfig System.sparing ([Scene.goes 1 50].flatMap Scene.moves) visitingState

/-- The recipient tries once more while the revocation ends. -/
def knockingState : System :=
  System.play someConfig System.sparing ([Scene.happens (.login .postgres someAccount), .goes 1 30].flatMap Scene.moves)
    lockedOutState

set_option maxRecDepth 100000 in
theorem visitingState_sessions : (visitingState.world.dbs .postgres).sessions someAccount = 2 := by decide

theorem lockedOutState_lockedOut : lockedOutState.world.lockedOut = [(someId, someAccount)] := by decide +kernel

theorem lockedOutState_stays : (visitingState.world.dbs .postgres).sessions someAccount = 2 ∧
    (knockingState.world.dbs .postgres).sessions someAccount = 0 ∧
      ¬Event.canLogin knockingState.world .postgres someAccount := by
  have visiting : System.Run someConfig (MoveOk (leaseKept someAccount)) visitingState :=
    System.Later.play System.sparing_ok _ .start
  have lockedOut : System.Run someConfig (MoveOk (leaseKept someAccount)) lockedOutState :=
    System.Later.play System.sparing_ok _ visiting
  have later : System.Later someConfig (MoveOk (leaseKept someAccount)) lockedOutState knockingState :=
    System.Later.play System.sparing_ok _ .start
  have entry : (someId, someAccount) ∈ lockedOutState.world.lockedOut := by
    rw [lockedOutState_lockedOut]
    exact List.mem_singleton.mpr rfl
  exact ⟨visitingState_sessions, lockedOut.stays_locked_out.1 someId entry knockingState later⟩

end lockout
end Vdba
