import Vdba.Interaction.Durable
import Vdba.Lifecycle
import Vdba.Transactions

namespace Vdba
open Interaction (Disk Durable Ending Pool)

/-- How a transaction of the store ends. A `COMMIT` that raises leaves it open, its writes to be seen on the one
connection; after a body that raises, the `ROLLBACK` can leave it open. -/
def Choice.ending (c : Choice) : Ending :=
  match c.fate with
  | .ok => .committed
  | .fail _ => if c.flag then .left else .undone
  | .lost _ => .left

/-- The machine with the SQLite file, and whether a transaction is open on the connection. -/
def onDisk : Interaction.Machine calls Exc (World × Disk Store) Nat Choice Event :=
  machine.durable World.store (fun store w => { w with store := store }) Op.writes Choice.ending

/-- A moment of the system and of its file. -/
abbrev Saved := Pool calls Exc (World × Disk Store) Nat

namespace Saved

def start : Saved := ⟨(World.initial, ⟨Store.empty, false⟩), fun _ => none⟩

/-- The rows that are read. -/
def rows (s : Saved) : List Grant := s.world.1.store.grants

def move (cfg : Config) (label : Move) (s : Saved) : Option Saved := Pool.step onDisk (fun _ => Entry.code cfg) label s

abbrev Later (cfg : Config) (ok : Saved → Move → Prop) : Saved → Saved → Prop :=
  Pool.Reach onDisk (fun _ => Entry.code cfg) ok

abbrev Run (cfg : Config) (ok : Saved → Move → Prop) : Saved → Prop := Later cfg ok start

/-- A transaction of the store that raises has left nothing in the database. -/
def Whole (s : Saved) (label : Move) : Prop := Transactional s.plain label

end Saved

namespace Sqlite
open Interaction (Steps)

/-- What lasts of a connection. -/
def Connection.disk {D : Type} (c : Connection D) : Disk D := ⟨c.committed, c.working.isSome⟩

/-- The transaction of a call that writes. -/
def block : (op : Vdba.Op) → Option (Body Statement (List Session) (Vdba.Ans op))
  | .insertGrant now g => some (single (.insertGrant now g))
  | .updateGrant now id fields => some (single (.updateGrant now id fields))
  | .addAudit row => some (single (.insertAudit row))
  | .createSession session => some (single (.insertSession session))
  | .touchSession now sid checked => some (single (.updateSession now sid checked))
  | .deleteSession sid => some (single (.deleteSession sid))
  | .purgeSessions now => some (purge now)
  | _ => none

/-- What the transaction makes of the store, and what it answers. -/
def Ran (t : Nat) (op : Vdba.Op) (answer : Vdba.Ans op) (d d' : Store) : Prop :=
  ∀ w : World, w.store = d → ∃ w', w'.store = d' ∧ ∀ c, exec t op c w = settle c anyExc w w' answer

variable {op : Vdba.Op} {body : Body Statement (List Session) (Vdba.Ans op)} {t : Nat}

theorem single_ran {statement : Statement} {run : Choice → World → Option (Except Exc Unit × World)}
    (each : ∀ (w : World) rows d', statement.run w.store = some (rows, d') →
      ∃ w', w'.store = d' ∧ ∀ c, run c w = settle c anyExc w w' ()) :
    (single statement).Does Statement.run fun answer d d' => ∀ w : World, w.store = d →
      ∃ w', w'.store = d' ∧ ∀ c, run c w = settle c anyExc w w' answer := by
  refine (single_does statement).mono fun _ d d' done w same => ?_
  obtain ⟨rows, ran⟩ := done
  subst same
  exact each w rows d' ran

theorem block_does (is : block op = some body) : body.Does Statement.run (Ran t op) := by
  cases op <;> simp only [block, reduceCtorEq] at is
  case insertGrant now g =>
    cases is
    refine single_ran fun w rows d' ran => ?_
    simp only [Statement.run, Option.ite_none_left_eq_some, Option.some.injEq, Prod.mk.injEq] at ran
    obtain ⟨absent, -, rfl⟩ := ran
    have absent : (w.row g.id).isNone = true := by simpa [World.row] using absent
    exact ⟨_, rfl, fun c => by simp only [exec, settleIf, absent, if_true]; rfl⟩
  case createSession session =>
    cases is
    refine single_ran fun w rows d' ran => ?_
    simp only [Statement.run, Option.ite_none_left_eq_some, Option.some.injEq, Prod.mk.injEq] at ran
    obtain ⟨-, -, rfl⟩ := ran
    exact ⟨_, rfl, fun c => rfl⟩
  case purgeSessions now =>
    cases is
    refine (purge_does _).mono fun rows d d' ran w same => ?_
    subst same
    exact ⟨{ w with store := d' }, rfl, fun c => by simp only [exec, ran]⟩
  case updateGrant now id fields =>
    cases is
    refine single_ran fun w rows d' ran => ?_
    cases ran
    refine ⟨{ w with store := w.store.updateGrant now id fields }.noteWrite t id fields, ?_, fun c => rfl⟩
    rw [World.noteWrite]
    split
    · rfl
    · rfl
  all_goals
    cases is
    refine single_ran fun w rows d' ran => ?_
    cases ran
    exact ⟨_, rfl, fun c => rfl⟩

theorem block_writes (is : block op = some body) : op.writes = true := by
  cases op <;> first | rfl | cases is

theorem exec_fails (writing : op.writes = true) (exn : Exc) (stays : Bool) (w : World) :
    exec t op { fate := .fail exn, flag := stays } w = some (.error exn, w) := by
  cases op <;> simp only [Op.writes, Bool.false_eq_true] at writing
  case insertGrant now g =>
    simp only [exec, settleIf]
    split <;> rfl
  all_goals rfl

theorem onDisk_exec {c : Choice} {w w' : World} {disk : Disk Store} {answer : Except Exc (Vdba.Ans op)}
    (writing : op.writes = true) (can : disk.stuck = false ∨ c.ending = .undone)
    (executed : exec t op c w = some (answer, w')) :
    onDisk.exec t op c (w, disk) = some (answer, w', disk.after w'.store c.ending) := by
  have allowed : ¬(op.writes = true ∧ disk.stuck = true ∧ c.ending ≠ .undone) := by
    rintro ⟨-, stuck, other⟩
    rcases can with free | same
    · rw [free] at stuck
      cases stuck
    · exact other same
  have executed : machine.exec t op c w = some (answer, w') := executed
  simp only [onDisk, Interaction.Machine.durable]
  rw [if_neg allowed, executed, Option.map_some, if_pos writing]

/-- Whatever a transaction of the store comes to on its connection, the call comes to it on the disk. -/
theorem block_served {start finish : Connection Store} {steps : Trail Statement (List Session) Store}
    {outcome : Except Exc (Vdba.Ans op)} (is : block op = some body) (path : Steps (serves Statement.run) start steps finish)
    (runs : (tx body.code).Runs (steps.map (·.exchange)) outcome)
    (unrefused : ∀ exn, outcome = .error exn → exn.cls ≠ .forbidden) {w : World} (same : w.store = start.current) :
    ∃ c w', onDisk.exec t op c (w, start.disk) = some (outcome, w', finish.disk) ∧ w'.store = finish.current := by
  have writing := block_writes is
  rcases (block_does (t := t) is).outcomes path runs with ⟨value, rfl, closed, done, out⟩ |
    ⟨⟨exn, rfl⟩, kept, still | ⟨closed, inside | ⟨value, d, done, inside⟩⟩⟩
  · have current : start.current = start.committed := by rw [Connection.current, closed, Option.getD_none]
    obtain ⟨w', stored, ran⟩ := done w (same.trans current)
    refine ⟨{}, w', ?_, ?_⟩
    · rw [onDisk_exec writing (Or.inl (by rw [Connection.disk, closed]; rfl)) (ran {})]
      simp only [Choice.ending, Disk.after, Connection.disk, closed, out, stored]
    · rw [stored, Connection.current, out, Option.getD_none]
  · refine ⟨{ fate := .fail exn }, w, ?_, ?_⟩
    · rw [onDisk_exec writing (Or.inr rfl) (exec_fails writing exn false w)]
      simp only [Choice.ending, Bool.false_eq_true, if_false, Disk.after, Connection.disk, still, kept]
    · rw [same, Connection.current, Connection.current, still, kept]
  · have current : start.current = start.committed := by rw [Connection.current, closed, Option.getD_none]
    refine ⟨{ fate := .fail exn, flag := true }, w, ?_, ?_⟩
    · rw [onDisk_exec writing (Or.inl (by rw [Connection.disk, closed]; rfl)) (exec_fails writing exn true w)]
      simp only [Choice.ending, if_true, Disk.after, Connection.disk, inside, kept, Option.isSome_some]
    · rw [same, current, Connection.current, inside, Option.getD_some]
  · have current : start.current = start.committed := by rw [Connection.current, closed, Option.getD_none]
    obtain ⟨w', stored, ran⟩ := done w (same.trans current)
    have lost : exec t op { fate := .lost exn } w = some (.error exn, w') := by
      rw [ran]
      simp [settle, anyExc, unrefused exn rfl]
    refine ⟨{ fate := .lost exn }, w', ?_, ?_⟩
    · rw [onDisk_exec writing (Or.inl (by rw [Connection.disk, closed]; rfl)) lost]
      simp only [Choice.ending, Disk.after, Connection.disk, inside, kept, Option.isSome_some]
    · rw [stored, Connection.current, inside, Option.getD_some]

end Sqlite

section whole
variable {cfg : Config} {t : Nat} {op : Op} {c : Choice} {v w : World} {answer : Except Exc (Ans op)}

/-- A write that raises without effect. -/
theorem exec_undone {exn : Exc} (executed : exec t op c v = some (answer, w)) (writing : op.writes = true)
    (fate : c.fate = .fail exn) : w = v := by
  have settled {α : Type} {u : World} {value : α} {answer : Except Exc α}
      (done : settle c anyExc v u value = some (answer, w)) : w = v := by
    simp only [settle, fate, anyExc, if_true, Option.some.injEq, Prod.mk.injEq] at done
    exact done.2.symm
  cases op <;> simp only [Op.writes, Bool.false_eq_true] at writing
  case insertGrant now g =>
    simp only [exec, settleIf] at executed
    split at executed
    · exact settled executed
    · obtain ⟨-, -, same, -, -⟩ := refuse_cases executed
      exact same
  all_goals exact settled executed

/-- Only its own writes change the store. -/
theorem World.effect_store (w : World) (t : Nat) (c : Choice) {op : Op} (reading : op.writes = false) :
    (w.effect t c op).store = w.store := by
  cases op <;> simp only [Op.writes, Bool.true_eq_false] at reading
  case mark m => cases m <;> rfl
  case runStatement db text account =>
    simp only [World.effect]
    cases ran : w.statement db text account c.count with
    | none => rfl
    | some w' => rcases World.statement_cases ran with ⟨-, rfl⟩ | ⟨_, _, -, -, rfl⟩ <;> rfl
  all_goals rfl

/-- The moves that leave transactions whole commit the store or keep it. -/
theorem durable : Durable machine World.store (fun store w => { w with store := store }) Op.writes Choice.ending
    (N := Entry) Transactional where
  exec := by
    intro s t c op next answer w allowed at_t executed
    cases writing : op.writes with
    | false =>
      right
      rcases exec_effect executed with same | ⟨same, -⟩
      · rw [same]
      · rw [same, World.effect_store _ _ _ writing]
    | true =>
      cases fate : c.fate with
      | ok => exact Or.inl ⟨rfl, by rw [Choice.ending, fate]⟩
      | fail exn => exact Or.inr (by rw [exec_undone executed writing fate])
      | lost exn => exact absurd fate (allowed op next at_t writing exn)
  env := Event.happen_store
  reset _ := rfl
  restore _ := rfl

theorem Saved.Run.plain {s : Saved} (run : Saved.Run cfg Saved.Whole s) :
    Durable.Saved World.store s ∧ System.Run cfg Transactional s.plain := by
  have saved : Durable.Saved World.store Saved.start := rfl
  exact durable.reach saved run

/-- What every row is like, how one move changes its status, and what stays in it for ever, over deaths of the process:
the rows that are read are those of the file. -/
theorem Saved.Run.rows_survive {s : Saved} (run : Saved.Run cfg Saved.Whole s) :
    s.world.2.saved.grants = s.rows ∧ (s.rows.map (·.id)).Nodup ∧ (∀ r ∈ s.rows, RowOk r) ∧
      (∀ label s', s.Whole label → s.move cfg label = some s' →
        (∀ r ∈ s.rows, ∃ r' ∈ s'.rows, Persists r r' ∧
          (r'.status = r.status ∨ ∃ t choice caller, label = .run t choice ∧ s.world.1.Held t r.id r caller ∧
            Moves caller r.id r.status r'.status)) ∧
        ∀ r' ∈ s'.rows, (∀ r ∈ s.rows, r.id ≠ r'.id) → r'.status = .issuing) ∧
      ∀ s', Saved.Later cfg Saved.Whole s s' → ∀ r ∈ s.rows, ∃ r' ∈ s'.rows, Persists r r' := by
  obtain ⟨saved, plain⟩ := Saved.Run.plain run
  obtain ⟨unique, kept, steps, later⟩ := plain.rows_kept
  refine ⟨congrArg Store.grants saved, unique, kept, fun label s' whole moved => ?_, fun s' after => ?_⟩
  · exact steps label s'.plain whole (durable.step saved whole moved).2
  · exact later s'.plain (durable.reach saved after).2

end whole

/-- A script for the system and its file. -/
def Saved.play (cfg : Config) (test : System → Move → Bool) (scenes : List Scene) : Saved :=
  Pool.play onDisk (fun _ => Entry.code cfg) (fun s => test s.plain)
    ((scenes.flatMap Scene.moves).map fun move s => move s.plain) Saved.start

/-- An issue that dies when its row is active, and a revocation of the grant. -/
def survivedState : Saved :=
  Saved.play someConfig System.atomic [.starts 0 (.issue clickhouseRequest "admin" "1"), .goes 0 22, .dies,
    .starts 1 (.revoke someId "admin" "2"), .goes 1 50]

theorem survivedState_kept : survivedState.world.2.saved.grants = survivedState.rows ∧
    ∀ r ∈ survivedState.rows, RowOk r := by
  have run : Saved.Run someConfig Saved.Whole survivedState :=
    Pool.Reach.play (fun s => System.atomic_ok s.plain) _ .start
  exact ⟨run.rows_survive.1, run.rows_survive.2.2.1⟩

/-- An issue whose activation raises from its `COMMIT`, and the same after a death of the process. -/
def openState : Saved :=
  Saved.play someConfig System.inside [.starts 0 (.issue clickhouseRequest "admin" "1"), .goes 0 21,
    .gets 0 { fate := .lost ⟨.other "OperationalError", "database or disk is full"⟩ }]

def revertedState : Saved :=
  Pool.play onDisk (fun _ => Entry.code someConfig) (fun _ _ => true) [fun _ => .kill] openState

set_option maxRecDepth 100000 in
theorem openState_row : openState.rows.map (·.username.isSome) = [true] := by decide

set_option maxRecDepth 100000 in
theorem revertedState_row : revertedState.rows.map (·.username) = [none] := by decide

theorem activation_reverts : ¬∀ s s' : Saved, Saved.Run someConfig (fun _ _ => True) s →
    Saved.Later someConfig (fun _ _ => True) s s' → ∀ r ∈ s.rows, ∃ r' ∈ s'.rows, Persists r r' := by
  intro always
  have run : Saved.Run someConfig (fun _ _ => True) openState := Pool.Reach.play (fun _ _ _ => trivial) _ .start
  have later : Saved.Later someConfig (fun _ _ => True) openState revertedState :=
    Pool.Reach.play (fun _ _ _ => trivial) _ .start
  obtain ⟨r, member⟩ : ∃ r, r ∈ openState.rows := by
    cases rows : openState.rows with
    | nil => have row := openState_row; rw [rows] at row; cases row
    | cons r rs => exact ⟨r, List.mem_cons_self⟩
  have named : r.username.isSome = true := by
    have listed := List.mem_map_of_mem (f := (·.username.isSome)) member
    rw [openState_row] at listed
    exact List.mem_singleton.mp listed
  obtain ⟨r', member', persists⟩ := always _ _ run later r member
  have unnamed : r'.username = none := by
    have listed := List.mem_map_of_mem (f := (·.username)) member'
    rw [revertedState_row] at listed
    exact List.mem_singleton.mp listed
  rw [← (persists.username named).1, unnamed] at named
  cases named

end Vdba
