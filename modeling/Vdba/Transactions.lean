import Vdba.Interaction.Steps
import Vdba.Store

namespace Vdba.Sqlite
open Interaction (Iface Prog Step Steps)

/-- What the store does with its lock and its connection; a statement reads or writes rows. -/
inductive Op (Stmt : Type)
  | acquire
  | release
  | connected
  | begin
  | execute (statement : Stmt)
  | commit
  | rollback

def Ans {Stmt : Type} (R : Type) : Op Stmt → Type
  | .connected => Bool
  | .execute _ => R
  | _ => Unit

abbrev sqlite (Stmt R : Type) : Iface := ⟨Op Stmt, Ans R⟩

abbrev Code (Stmt R α : Type) := Prog (sqlite Stmt R) Exc α

/-- The lock and the connection: whether the lock is held, whether there is a connection, the database, and what an open
transaction makes of it. -/
structure Connection (D : Type) where
  held : Bool
  there : Bool
  committed : D
  working : Option D

section engine
variable {Stmt R D α β : Type}

namespace Connection

/-- The database as the connection sees it. -/
def current (c : Connection D) : D := c.working.getD c.committed

/-- A write goes to the open transaction, or straight to the database. -/
def put (c : Connection D) (d : D) : Connection D :=
  match c.working with
  | some _ => { c with working := some d }
  | none => { c with committed := d }

/-- SQLite has undone the transaction by itself. -/
def undone (c : Connection D) : Connection D := { c with working := none }

/-- No block is running. -/
def Closed (c : Connection D) : Prop := c.held = false ∧ c.working = none

end Connection

def Failed {γ : Type} (answer : Except Exc γ) : Prop := ∃ exn, answer = .error exn

/-- SQLite as documented, where `run` says what a statement does to the rows, or that it can only fail. A transaction
cannot be begun in another, and only an open one can be ended; what fails has no effect, but that it may undo the whole
transaction. -/
def serves (run : Stmt → D → Option (R × D)) : (op : Op Stmt) → Connection D → Except Exc (Ans R op) → Connection D → Prop
  | .acquire, c, answer, c' => c.held = false ∧ answer = .ok () ∧ c' = { c with held := true }
  | .release, c, answer, c' => answer = .ok () ∧ c' = { c with held := false }
  | .connected, c, answer, c' => answer = .ok c.there ∧ c' = c
  | .begin, c, answer, c' =>
    c.working = none ∧ answer = .ok () ∧ c' = { c with working := some c.committed } ∨ Failed answer ∧ c' = c
  | .execute statement, c, answer, c' =>
    (∃ rows d, run statement c.current = some (rows, d) ∧ answer = .ok rows ∧ c' = c.put d) ∨
      Failed answer ∧ (c' = c ∨ c' = c.undone)
  | .commit, c, answer, c' =>
    (∃ d, c.working = some d ∧ answer = .ok () ∧ c' = { c.undone with committed := d }) ∨
      Failed answer ∧ (c' = c ∨ c' = c.undone)
  | .rollback, c, answer, c' =>
    c.working.isSome = true ∧ answer = .ok () ∧ c' = c.undone ∨ Failed answer ∧ (c' = c ∨ c' = c.undone)

abbrev ask (op : Op Stmt) : Code Stmt R (Ans R op) := @Prog.perform (sqlite Stmt R) Exc op

/-- The `try` of `_tx`. -/
def transaction (body : Code Stmt R α) : Code Stmt R α := do
  ask .begin
  body.attempt.bind fun
    | .error exn => do
      ask .rollback
      .raise exn
    | .ok value => do
      ask .commit
      return value

/-- `_tx` with its lock. -/
def tx (body : Code Stmt R α) : Code Stmt R α := do
  ask .acquire
  Prog.finally_ (do
    let there : Bool ← ask .connected
    if there then transaction body else .raise ⟨.other "AssertionError", "store.init() not called"⟩) (ask .release)

/-- What a block may contain: any code around statements, which it gets the answers of, exceptions included. -/
structure Body (Stmt R α : Type) where
  code : Code Stmt R α
  plain : code.All fun (op : Op Stmt) => ∃ statement, op = .execute statement

/-- The writes of a trace: those of its statements that did not fail. -/
def written (run : Stmt → D → Option (R × D)) : List (Interaction.Exchange (sqlite Stmt R) Exc) → D → D
  | [], d => d
  | ⟨.execute statement, .ok _⟩ :: rest, d => written run rest (((run statement d).map (·.2)).getD d)
  | _ :: rest, d => written run rest d

/-- All or nothing, and closed: after the block, the connection can begin another transaction, the lock is released, and
the database has all the writes of a block that was left normally, and none of one that raised. -/
structure Whole (run : Stmt → D → Option (R × D)) (start finish : Connection D)
    (trace : List (Interaction.Exchange (sqlite Stmt R) Exc)) (outcome : Except Exc α) : Prop where
  closed : finish.Closed
  begins : ∃ next, serves run .begin finish (.ok ()) next
  kept : ∀ value, outcome = .ok value → finish.committed = written run trace start.committed
  undone : ∀ exn, outcome = .error exn → finish.committed = start.committed

def Op.ends : Op Stmt → Bool
  | .commit | .rollback => true
  | _ => false

/-- How a block may end: what fails to end an open transaction does not leave it open, and where there is none left to
end, the database is as it was. -/
def Sound (start : Connection D) (step : Step (sqlite Stmt R) Exc (Connection D)) : Prop :=
  step.exchange.1.ends = true →
    (step.before.working.isSome = true → Failed step.exchange.2 → step.after.working = none) ∧
      (step.before.working = none → step.before.committed = start.committed)

/-- The statements in the store's blocks, with what is bound to their parameters. -/
inductive Statement
  | insertGrant (now : Time) (g : NewGrant)
  | updateGrant (now : Time) (id : GrantId) (fields : GrantFields)
  | insertAudit (row : AuditRow)
  | insertSession (session : Session)
  | updateSession (now : Time) (sid : Digest) (checked : Bool)
  | deleteSession (sid : Digest)
  | selectStale (now : Time)
  | deleteStale (now : Time)

/-- The rows that a statement returns and the rows it leaves; a key that is there cannot be inserted. -/
def Statement.run : Statement → Store → Option (List Session × Store)
  | .insertGrant now g, s => if (s.getGrant g.id).isSome then none else some ([], s.insertGrant now g)
  | .updateGrant now id fields, s => some ([], s.updateGrant now id fields)
  | .insertAudit row, s => some ([], s.addAudit row)
  | .insertSession session, s => if (s.getSession session.sid).isSome then none else some ([], s.createSession session)
  | .updateSession now sid checked, s => some ([], s.touchSession now sid checked)
  | .deleteSession sid, s => some ([], s.deleteSession sid)
  | .selectStale now, s => some (s.sessions.filter (Store.stale now), s)
  | .deleteStale now, s => some ([], { s with sessions := s.sessions.filter fun session => ¬Store.stale now session })

/-- A body of one statement. -/
def single (statement : Statement) : Body Statement (List Session) Unit where
  code := (ask (.execute statement)).bind fun _ => .ret ()
  plain := (Prog.All.perform ⟨statement, rfl⟩).bind fun _ => trivial

def insertGrant (now : Time) (g : NewGrant) : Code Statement (List Session) Unit :=
    tx (single (.insertGrant now g)).code

def updateGrant (now : Time) (id : GrantId) (fields : GrantFields) : Code Statement (List Session) Unit :=
  tx (single (.updateGrant now id fields)).code

def audit (row : AuditRow) : Code Statement (List Session) Unit := tx (single (.insertAudit row)).code

def createSession (session : Session) : Code Statement (List Session) Unit := tx (single (.insertSession session)).code

def touchSession (now : Time) (sid : Digest) (checked : Bool) : Code Statement (List Session) Unit :=
  tx (single (.updateSession now sid checked)).code

def deleteSession (sid : Digest) : Code Statement (List Session) Unit := tx (single (.deleteSession sid)).code

/-- The body of `purge_sessions`. -/
def purge (now : Time) : Body Statement (List Session) (List Session) where
  code := (ask (.execute (.selectStale now))).bind fun (rows : List Session) =>
    (ask (.execute (.deleteStale now))).bind fun _ => .ret rows
  plain := (Prog.All.perform ⟨_, rfl⟩).bind fun _ => (Prog.All.perform ⟨_, rfl⟩).bind fun _ => trivial

def purgeSessions (now : Time) : Code Statement (List Session) (List Session) := tx (purge now).code

section blocks
variable {run : Stmt → D → Option (R × D)} {c m start finish : Connection D}
  {steps : List (Step (sqlite Stmt R) Exc (Connection D))} {trace : List (Interaction.Exchange (sqlite Stmt R) Exc)}

theorem written_append (first rest : List (Interaction.Exchange (sqlite Stmt R) Exc)) (d : D) :
    written run (first ++ rest) d = written run rest (written run first d) := by
  induction first generalizing d with
  | nil => rfl
  | cons x first ih =>
    obtain ⟨op, answer⟩ := x
    cases op
    case execute statement =>
      cases answer with
      | ok rows => exact ih _
      | error exn => exact ih d
    all_goals exact ih d

abbrev Trail (Stmt R D : Type) := List (Step (sqlite Stmt R) Exc (Connection D))

/-- All of the steps are statements. -/
def Plain (steps : Trail Stmt R D) : Prop := ∀ x ∈ steps, ∃ statement, (x.exchange.1 : Op Stmt) = .execute statement

/-- Without a transaction, statements do not open one. -/
theorem statements_outside (path : Steps (serves run) c steps m) (plain : Plain steps)
    (outside : c.working = none) : m.working = none := by
  induction path with
  | done => exact outside
  | @next c v u op answer steps served _ ih =>
    obtain ⟨⟨statement, same⟩, rest⟩ := List.forall_mem_cons.mp plain
    subst same
    have there : v.working = none := by
      rcases served with ⟨rows, d, -, -, rfl⟩ | ⟨-, rfl | rfl⟩
      · rw [Connection.put, outside]
      · exact outside
      · rfl
    exact ih rest there

/-- Statements leave a transaction open with what they have written, or undone. -/
theorem statements_inside {d : D} (path : Steps (serves run) c steps m) (plain : Plain steps)
    (inside : c.working = some d) :
    m.working = some (written run (steps.map (·.exchange)) d) ∧ m.committed = c.committed ∨ m.working = none := by
  induction path generalizing d with
  | done => exact Or.inl ⟨inside, rfl⟩
  | @next c v u op answer steps served path ih =>
    obtain ⟨⟨statement, same⟩, rest⟩ := List.forall_mem_cons.mp plain
    subst same
    rcases served with ⟨rows, d', ran, rfl, rfl⟩ | ⟨⟨exn, rfl⟩, rfl | rfl⟩
    · have put : c.put d' = { c with working := some d' } := by rw [Connection.put, inside]
      rw [put] at path ih
      refine (ih rest rfl).imp_left fun ⟨open_, same⟩ => ⟨?_, same⟩
      have current : c.current = d := by rw [Connection.current, inside, Option.getD_some]
      rw [current] at ran
      have wrote : written run (⟨.execute statement, .ok rows⟩ :: steps.map (·.exchange)) d =
          written run (steps.map (·.exchange)) (((run statement d).map (·.2)).getD d) := rfl
      rw [open_, List.map_cons, wrote, ran]
      rfl
    · exact ih rest inside
    · exact Or.inr (statements_outside path rest rfl)

/-- The last step of a block that has failed to end its transaction. -/
theorem failed_end {op : Op Stmt} {answer : Except Exc (Ans R op)} (ends : op.ends = true) (failed : Failed answer)
    (inside : m.working.isSome = true → m.committed = start.committed) (left : finish = m ∨ finish = m.undone) :
    (finish.working = none ∧ finish.committed = start.committed) ↔
      Sound start (⟨m, ⟨op, answer⟩, finish⟩ : Step (sqlite Stmt R) Exc (Connection D)) := by
  have same : finish.committed = m.committed := by
    rcases left with rfl | rfl
    · rfl
    · rfl
  constructor
  · rintro ⟨none, kept⟩ -
    exact ⟨fun _ _ => none, fun _ => same.symm.trans kept⟩
  · intro sound
    obtain ⟨ended, nothing⟩ := sound ends
    cases working : m.working with
    | none =>
      have out : finish.working = none := by
        rcases left with rfl | rfl
        · exact working
        · rfl
      exact ⟨out, same.trans (nothing working)⟩
    | some d =>
      have open_ : m.working.isSome = true := by rw [working]; rfl
      exact ⟨ended open_ failed, same.trans (inside open_)⟩

/-- What a block leaves behind while the lock is still held. -/
structure Ended (run : Stmt → D → Option (R × D)) (start finish : Connection D)
    (trace : List (Interaction.Exchange (sqlite Stmt R) Exc)) (outcome : Except Exc α) : Prop where
  working : finish.working = none
  kept : ∀ value, outcome = .ok value → finish.committed = written run trace start.committed
  undone : ∀ exn, outcome = .error exn → finish.committed = start.committed

theorem Ended.of_written {trace' : List (Interaction.Exchange (sqlite Stmt R) Exc)} {outcome : Except Exc α}
    (same : written run trace start.committed = written run trace' start.committed)
    (ended : Ended run start finish trace outcome) : Ended run start finish trace' outcome :=
  ⟨ended.working, fun value done => (ended.kept value done).trans same, ended.undone⟩

theorem Ended.of_error {exn : Exc} :
    Ended run start finish trace (.error exn : Except Exc α) ↔ finish.working = none ∧ finish.committed = start.committed :=
  ⟨fun ended => ⟨ended.working, ended.undone exn rfl⟩, fun ⟨working, same⟩ => ⟨working, nofun, fun _ _ => same⟩⟩

/-- The only step that may be unsound is the last. -/
theorem sound_iff {early : Trail Stmt R D} {last : Step (sqlite Stmt R) Exc (Connection D)}
    (before : ∀ x ∈ early, (x.exchange.1 : Op Stmt).ends = false) :
    (∀ x ∈ early ++ [last], Sound start x) ↔ Sound start last := by
  constructor
  · intro all
    exact all last (by simp)
  · intro sound x member
    rcases List.mem_append.mp member with member | member
    · intro ends
      rw [before x member] at ends
      cases ends
    · rw [List.mem_singleton] at member
      exact member ▸ sound

/-- How a transaction ends, after what came of its body. -/
inductive Ending : Except Exc α → Interaction.Exchange (sqlite Stmt R) Exc → Except Exc α → Prop
  | committed {value} : Ending (.ok value) ⟨.commit, .ok ()⟩ (.ok value)
  | uncommitted {value exn} : Ending (.ok value) ⟨.commit, .error exn⟩ (.error exn)
  | rolledBack {exn} : Ending (.error exn) ⟨.rollback, .ok ()⟩ (.error exn)
  | stuck {exn exn'} : Ending (.error exn) ⟨.rollback, .error exn'⟩ (.error exn')

theorem ending_of_commit {value : α} {outcome : Except Exc α}
    (runs : ((ask .commit).bind fun _ => .ret value : Code Stmt R α).Runs trace outcome) :
    ∃ last, trace = [last] ∧ Ending (.ok value) last outcome := by
  rcases Prog.Runs.of_bind runs with ⟨exn, failed, rfl⟩ | ⟨⟨⟩, first, rest, rfl, done, after⟩
  · exact ⟨_, Prog.Runs.of_perform failed, .uncommitted⟩
  · obtain ⟨rfl, rfl⟩ := Prog.Runs.of_ret after
    rw [List.append_nil]
    exact ⟨_, Prog.Runs.of_perform done, .committed⟩

theorem ending_of_rollback {exn : Exc} {outcome : Except Exc α}
    (runs : ((ask .rollback).bind fun _ => .raise exn : Code Stmt R α).Runs trace outcome) :
    ∃ last, trace = [last] ∧ Ending (.error exn) last outcome := by
  rcases Prog.Runs.of_bind runs with ⟨exn', failed, rfl⟩ | ⟨⟨⟩, first, rest, rfl, done, after⟩
  · exact ⟨_, Prog.Runs.of_perform failed, .stuck⟩
  · obtain ⟨rfl, rfl⟩ := Prog.Runs.of_raise after
    rw [List.append_nil]
    exact ⟨_, Prog.Runs.of_perform done, .rolledBack⟩

/-- The parts of a run of a transaction: its beginning, its body, and how it ends. -/
theorem transaction_parts {body : Code Stmt R α} {outcome : Except Exc α}
    (runs : (transaction body).Runs trace outcome) :
    (∃ exn, trace = [⟨.begin, .error exn⟩] ∧ outcome = .error exn) ∨
    ∃ result inner last, trace = [⟨.begin, .ok ()⟩] ++ (inner ++ [last]) ∧ body.Runs inner result ∧
      Ending result last outcome := by
  rcases Prog.Runs.of_bind runs with ⟨exn, failed, rfl⟩ | ⟨⟨⟩, first, rest, rfl, begun, after⟩
  · exact Or.inl ⟨exn, Prog.Runs.of_perform failed, rfl⟩
  · have begun := Prog.Runs.of_perform begun
    subst begun
    rcases Prog.Runs.of_bind after with ⟨exn, attempted, -⟩ | ⟨result, inner, last, rfl, attempted, ended⟩
    · obtain ⟨result, -, same⟩ := Prog.Runs.of_attempt attempted
      cases same
    · obtain ⟨result, inside, same⟩ := Prog.Runs.of_attempt attempted
      cases same
      cases result with
      | ok value =>
        obtain ⟨last, rfl, ending⟩ := ending_of_commit ended
        exact Or.inr ⟨.ok value, inner, last, rfl, inside, ending⟩
      | error exn =>
        obtain ⟨last, rfl, ending⟩ := ending_of_rollback ended
        exact Or.inr ⟨.error exn, inner, last, rfl, inside, ending⟩

theorem not_failed {γ : Type} {value : γ} : ¬Failed (.ok value : Except Exc γ) := by
  rintro ⟨exn, same⟩
  cases same

/-- The steps of a transaction: it cannot be begun, or it is begun, its body runs, and it is ended in some way. -/
theorem transaction_steps {body : Code Stmt R α} {outcome : Except Exc α} (path : Steps (serves run) start steps finish)
    (runs : (transaction body).Runs (steps.map (·.exchange)) outcome) :
    (∃ exn, steps = [⟨start, ⟨.begin, .error exn⟩, start⟩] ∧ finish = start ∧ outcome = .error exn) ∨
    ∃ result inner m op answer, start.working = none ∧
      steps = [⟨start, ⟨.begin, .ok ()⟩, { start with working := some start.committed }⟩] ++
        (inner ++ [⟨m, ⟨op, answer⟩, finish⟩]) ∧
      Steps (serves run) { start with working := some start.committed } inner m ∧
      body.Runs (inner.map (·.exchange)) result ∧ serves run op m answer finish ∧ Ending result ⟨op, answer⟩ outcome := by
  rcases transaction_parts runs with ⟨exn, failed, rfl⟩ | ⟨result, inner, ⟨op, answer⟩, whole, inside, ending⟩
  · obtain ⟨rfl, ⟨-, ok, -⟩ | ⟨-, rfl⟩⟩ := path.single failed
    · cases ok
    · exact Or.inl ⟨exn, rfl, rfl, rfl⟩
  · obtain ⟨front, rest, c, rfl, first, exchanges, begins, onward⟩ := path.split whole
    obtain ⟨middle, back, m, rfl, rfl, last, statements, ends⟩ := onward.split exchanges
    obtain ⟨rfl, ⟨closed, -, rfl⟩ | ⟨failed, -⟩⟩ := begins.single first
    · obtain ⟨rfl, served⟩ := ends.single last
      exact Or.inr ⟨result, middle, m, op, answer, closed, rfl, statements, inside, served, ending⟩
    · exact absurd failed not_failed

/-- The end of a transaction, from the connection that its body has left. -/
theorem Ending.ended {result outcome : Except Exc α} {op : Op Stmt} {answer : Except Exc (Ans R op)}
    (ending : Ending result ⟨op, answer⟩ outcome) (served : serves run op m answer finish)
    (inside : m.working = some (written run trace start.committed) ∧ m.committed = start.committed ∨ m.working = none) :
    op.ends = true ∧ (Ended run start finish trace outcome ↔
      Sound start (⟨m, ⟨op, answer⟩, finish⟩ : Step (sqlite Stmt R) Exc (Connection D))) := by
  have same (open_ : m.working.isSome = true) : m.committed = start.committed := by
    rcases inside with ⟨-, same⟩ | outside
    · exact same
    · rw [outside] at open_
      cases open_
  have sound (open_ : m.working.isSome = true) (done : ¬Failed answer) :
      Sound start (⟨m, ⟨op, answer⟩, finish⟩ : Step (sqlite Stmt R) Exc (Connection D)) := by
    refine fun _ => ⟨fun _ failed => absurd failed done, fun outside => ?_⟩
    have outside : m.working = none := outside
    rw [outside] at open_
    cases open_
  cases ending with
  | @committed value =>
    rcases served with ⟨d, working, -, rfl⟩ | ⟨failed, -⟩
    · have open_ : m.working.isSome = true := by rw [working]; rfl
      have wrote : d = written run trace start.committed := by
        rcases inside with ⟨full, -⟩ | outside
        · rw [working] at full
          exact Option.some.inj full
        · rw [outside] at working
          cases working
      exact ⟨rfl, fun _ => sound open_ not_failed, fun _ => ⟨rfl, fun _ _ => wrote, nofun⟩⟩
    · exact absurd failed not_failed
  | @rolledBack exn =>
    rcases served with ⟨open_, -, rfl⟩ | ⟨failed, -⟩
    · exact ⟨rfl, fun _ => sound open_ not_failed, fun _ => ⟨rfl, nofun, fun _ _ => same open_⟩⟩
    · exact absurd failed not_failed
  | @uncommitted value exn =>
    rcases served with ⟨d, -, ok, -⟩ | ⟨-, left⟩
    · cases ok
    · have iff_ := @failed_end Stmt R D m start finish .commit (.error exn) rfl ⟨exn, rfl⟩ same left
      exact ⟨rfl, Ended.of_error.trans iff_⟩
  | @stuck exn exn' =>
    rcases served with ⟨-, ok, -⟩ | ⟨-, left⟩
    · cases ok
    · have iff_ := @failed_end Stmt R D m start finish .rollback (.error exn') rfl ⟨exn', rfl⟩ same left
      exact ⟨rfl, Ended.of_error.trans iff_⟩

theorem Body.plain_runs {body : Body Stmt R α} {result : Except Exc α}
    (runs : body.code.Runs (steps.map (·.exchange)) result) :
    Plain steps := by
  intro x member
  exact body.plain.of_path runs x.exchange (List.mem_map_of_mem member)

/-- Around the body there are no writes. -/
theorem written_around (inner : List (Interaction.Exchange (sqlite Stmt R) Exc)) {op : Op Stmt}
    (answer : Except Exc (Ans R op)) (ends : op.ends = true) (d : D) :
    written run ([⟨.begin, .ok ()⟩] ++ (inner ++ [⟨op, answer⟩])) d = written run inner d := by
  rw [written_append, written_append]
  cases op
  case commit => rfl
  case rollback => rfl
  all_goals cases ends

theorem transaction_ended {body : Body Stmt R α} {outcome : Except Exc α} (path : Steps (serves run) start steps finish)
    (runs : (transaction body.code).Runs (steps.map (·.exchange)) outcome) (closed : start.working = none) :
    Ended run start finish (steps.map (·.exchange)) outcome ↔ ∀ x ∈ steps, Sound start x := by
  rcases transaction_steps path runs with ⟨exn, rfl, rfl, rfl⟩ |
    ⟨result, inner, m, op, answer, -, rfl, statements, inside, served, ending⟩
  · refine ⟨fun _ x member ends => ?_, fun _ => ⟨closed, nofun, fun _ _ => rfl⟩⟩
    rw [List.mem_singleton] at member
    subst member
    cases ends
  · have plain := Body.plain_runs inside
    have kept := statements_inside statements plain rfl
    obtain ⟨closing, iff_⟩ := @Ending.ended _ _ _ _ run m start finish _ _ _ _ _ ending served kept
    have others : ∀ x ∈ (⟨start, ⟨.begin, .ok ()⟩, { start with working := some start.committed }⟩ :: inner : Trail Stmt R D),
        (x.exchange.1 : Op Stmt).ends = false := by
      intro x member
      rcases List.mem_cons.mp member with rfl | member
      · rfl
      · obtain ⟨statement, same⟩ := plain x member
        rw [same]
        rfl
    have around := @written_around _ _ _ run (inner.map (·.exchange)) op answer closing start.committed
    have alone := @sound_iff _ _ _ start _ ⟨m, ⟨op, answer⟩, finish⟩ others
    rw [List.map_append, List.map_append]
    refine Iff.trans ⟨Ended.of_written around, Ended.of_written around.symm⟩ (iff_.trans ?_)
    exact alone.symm

/-- What a block does under its lock. -/
theorem locked_parts {body : Code Stmt R α} {outcome : Except Exc α} (path : Steps (serves run) start steps finish)
    (runs : ((ask .connected).bind fun (there : Bool) =>
      if there then transaction body else .raise ⟨.other "AssertionError", "store.init() not called"⟩ :
        Code Stmt R α).Runs (steps.map (·.exchange)) outcome) :
    ∃ middle, steps = [⟨start, ⟨.connected, .ok start.there⟩, start⟩] ++ middle ∧
      Steps (serves run) start middle finish ∧ ((transaction body).Runs (middle.map (·.exchange)) outcome ∨
        start.there = false ∧ middle = [] ∧ ∃ exn, outcome = .error exn) := by
  rcases Prog.Runs.of_bind runs with ⟨exn, failed, -⟩ | ⟨there, first, rest, whole, answered, after⟩
  · have alone := Prog.Runs.of_perform failed
    obtain ⟨-, same, -⟩ := path.single alone
    cases same
  · have alone := Prog.Runs.of_perform answered
    subst alone
    obtain ⟨front, middle, c, rfl, first, exchanges, begins, onward⟩ := path.split whole
    obtain ⟨rfl, same, rfl⟩ := begins.single first
    change Bool at there
    obtain rfl : there = c.there := Except.ok.inj same
    refine ⟨middle, rfl, onward, ?_⟩
    have after : (if c.there = true then transaction body else
        .raise ⟨.other "AssertionError", "store.init() not called"⟩ : Code Stmt R α).Runs rest outcome := after
    cases there : c.there with
    | true =>
      rw [if_pos there, ← exchanges] at after
      exact Or.inl after
    | false =>
      rw [if_neg (by rw [there]; decide)] at after
      obtain ⟨none, rfl⟩ := Prog.Runs.of_raise after
      rw [none] at exchanges
      exact Or.inr ⟨rfl, List.map_eq_nil_iff.mp exchanges, _, rfl⟩

/-- The parts of a run of a block: the lock is taken, the connection is looked at, and the lock is released. -/
theorem tx_parts {body : Code Stmt R α} {outcome : Except Exc α} (path : Steps (serves run) start steps finish)
    (runs : (tx body).Runs (steps.map (·.exchange)) outcome) :
    start.held = false ∧ ∃ middle m, steps = [⟨start, ⟨.acquire, .ok ()⟩, { start with held := true }⟩] ++
        ([⟨{ start with held := true }, ⟨.connected, .ok start.there⟩, { start with held := true }⟩] ++ middle ++
          [⟨m, ⟨.release, .ok ()⟩, { m with held := false }⟩]) ∧
      finish = { m with held := false } ∧ Steps (serves run) { start with held := true } middle m ∧
      ((transaction body).Runs (middle.map (·.exchange)) outcome ∨
        start.there = false ∧ middle = [] ∧ ∃ exn, outcome = .error exn) := by
  rcases Prog.Runs.of_bind runs with ⟨exn, failed, -⟩ | ⟨⟨⟩, first, rest, whole, acquired, after⟩
  · have alone := Prog.Runs.of_perform failed
    obtain ⟨-, -, same, -⟩ := path.single alone
    cases same
  · have alone := Prog.Runs.of_perform acquired
    subst alone
    obtain ⟨front, later, c, rfl, first, exchanges, begins, onward⟩ := path.split whole
    obtain ⟨rfl, free, -, rfl⟩ := begins.single first
    obtain ⟨result, inner, last, rfl, inside, released⟩ := Prog.Runs.of_finally after
    obtain ⟨within, back, m, rfl, inner_, last_, locked, leaves⟩ := onward.split exchanges
    subst inner_
    have freed : last = [⟨.release, .ok ()⟩] ∧ outcome = result := by
      rcases released with ⟨released, same⟩ | ⟨exn, released, -⟩
      · exact ⟨Prog.Runs.of_perform released, same⟩
      · rw [Prog.Runs.of_perform released] at last_
        obtain ⟨-, same, -⟩ := leaves.single last_
        cases same
    obtain ⟨rfl, rfl⟩ := freed
    obtain ⟨rfl, -, rfl⟩ := leaves.single last_
    obtain ⟨middle, rfl, within, ran⟩ := locked_parts locked inside
    exact ⟨free, middle, m, rfl, rfl, within, ran⟩

/-- The lock adds nothing that a block could be unsound for. -/
theorem sound_around {x y z : Step (sqlite Stmt R) Exc (Connection D)} {middle : Trail Stmt R D} {v : Connection D}
    (first : (x.exchange.1 : Op Stmt).ends = false) (second : (y.exchange.1 : Op Stmt).ends = false)
    (last : (z.exchange.1 : Op Stmt).ends = false) (same : v.committed = start.committed) :
    (∀ s ∈ [x] ++ ([y] ++ middle ++ [z]), Sound start s) ↔ ∀ s ∈ middle, Sound v s := by
  have vacuous {s : Step (sqlite Stmt R) Exc (Connection D)} (other : (s.exchange.1 : Op Stmt).ends = false) :
      Sound start s := by
    intro ends
    rw [other] at ends
    cases ends
  constructor
  · intro all s member ends
    rw [same]
    exact all s (by simp [member]) ends
  · intro all s member
    simp only [List.mem_append, List.mem_singleton] at member
    rcases member with rfl | (rfl | member) | rfl
    · exact vacuous first
    · exact vacuous second
    · intro ends
      rw [← same]
      exact all s member ends
    · exact vacuous last

/-- A block is all or nothing and closes its connection exactly if it ends soundly. -/
theorem tx_whole_iff {body : Body Stmt R α} {outcome : Except Exc α} (path : Steps (serves run) start steps finish)
    (closed : start.Closed) (runs : (tx body.code).Runs (steps.map (·.exchange)) outcome) :
    Whole run start finish (steps.map (·.exchange)) outcome ↔ ∀ x ∈ steps, Sound start x := by
  obtain ⟨-, middle, m, rfl, rfl, within, ran⟩ := tx_parts path runs
  have iff_ : Ended run { start with held := true } m (middle.map (·.exchange)) outcome ↔
      ∀ x ∈ middle, Sound { start with held := true } x := by
    rcases ran with ran | ⟨-, rfl, exn, rfl⟩
    · exact transaction_ended within ran closed.2
    · cases within
      exact ⟨fun _ x member => (by cases member), fun _ => ⟨closed.2, nofun, fun _ _ => rfl⟩⟩
  refine Iff.trans ?_ (iff_.trans (sound_around rfl rfl rfl rfl).symm)
  have wrote : written run (([⟨start, ⟨.acquire, .ok ()⟩, { start with held := true }⟩] ++
      ([⟨{ start with held := true }, ⟨.connected, .ok start.there⟩, { start with held := true }⟩] ++ middle ++
        [⟨m, ⟨.release, .ok ()⟩, { m with held := false }⟩]) : Trail Stmt R D).map (·.exchange)) start.committed =
        written run (middle.map (·.exchange)) start.committed := by
    simp only [List.map_append, written_append]
    rfl
  constructor
  · rintro ⟨⟨-, working⟩, -, kept, undone⟩
    exact ⟨working, fun value done => (kept value done).trans wrote, undone⟩
  · rintro ⟨working, kept, undone⟩
    refine ⟨⟨rfl, working⟩, ⟨{ m with held := false, working := some m.committed }, Or.inl ⟨working, rfl, rfl⟩⟩, ?_, undone⟩
    exact fun value done => (kept value done).trans wrote.symm

/-- A connection to a database of one session. -/
def signedIn : Connection Store :=
  ⟨false, true, { Store.empty with sessions := [⟨⟨"sid"⟩, "someone", "csrf", ⟨"token"⟩, 0, 0, 0⟩] }, none⟩

def locked : Connection Store := { signedIn with held := true }

def begun : Connection Store := { locked with working := some signedIn.committed }

/-- The session is gone in the transaction. -/
def deleted : Connection Store := { locked with working := some .empty }

/-- The session is gone in the database. -/
def signedOut : Connection Store := { signedIn with committed := .empty }

abbrev Deletes := Trail Statement (List Session) Store

def diskFull : Exc := ⟨.other "OperationalError", "database or disk is full"⟩

/-- The steps of `delete_session` until it has begun its transaction. -/
def beginning : Deletes :=
  [⟨signedIn, ⟨.acquire, .ok ()⟩, locked⟩, ⟨locked, ⟨.connected, .ok true⟩, locked⟩, ⟨locked, ⟨.begin, .ok ()⟩, begun⟩]

/-- The statement, `COMMIT` and what follows it, where `left` is the connection that it leaves. -/
def committing (answer : Except Exc Unit) (left : Connection Store) : Deletes :=
  [⟨begun, ⟨.execute (.deleteSession ⟨"sid"⟩), .ok []⟩, deleted⟩, ⟨deleted, ⟨.commit, answer⟩, left⟩,
    ⟨left, ⟨.release, .ok ()⟩, { left with held := false }⟩]

/-- The statement fails, and the transaction is rolled back. -/
def rollingBack : Deletes :=
  [⟨begun, ⟨.execute (.deleteSession ⟨"sid"⟩), .error diskFull⟩, begun⟩, ⟨begun, ⟨.rollback, .ok ()⟩, locked⟩,
    ⟨locked, ⟨.release, .ok ()⟩, signedIn⟩]

theorem beginning_steps {rest : Deletes} {finish : Connection Store} (path : Steps (serves Statement.run) begun rest finish) :
    Steps (serves Statement.run) signedIn (beginning ++ rest) finish :=
  .next ⟨rfl, rfl, rfl⟩ (.next ⟨rfl, rfl⟩ (.next (Or.inl ⟨rfl, rfl, rfl⟩) path))

theorem committing_steps (answer : Except Exc Unit) (left : Connection Store)
    (ends : serves (R := List Session) Statement.run .commit deleted answer left) :
    Steps (serves Statement.run) signedIn (beginning ++ committing answer left) { left with held := false } := by
  have ran : serves Statement.run (.execute (.deleteSession ⟨"sid"⟩)) begun (.ok ([] : List Session)) deleted :=
    Or.inl ⟨[], .empty, rfl, rfl, rfl⟩
  exact beginning_steps (.next ran (.next ends (.next ⟨rfl, rfl⟩ .done)))

theorem rollingBack_steps : Steps (serves Statement.run) signedIn (beginning ++ rollingBack) signedIn := by
  have failed : serves (R := List Session) Statement.run (.execute (.deleteSession ⟨"sid"⟩)) begun (.error diskFull) begun :=
    Or.inr ⟨⟨_, rfl⟩, Or.inl rfl⟩
  have ended : serves (R := List Session) Statement.run .rollback begun (.ok ()) locked := Or.inl ⟨rfl, rfl, rfl⟩
  exact beginning_steps (.next failed (.next ended (.next ⟨rfl, rfl⟩ .done)))

/-- A session that is there is deleted, or, when the statement fails, it is still there; the connection is closed. -/
theorem deleteSession_whole :
    Whole Statement.run signedIn signedOut ((beginning ++ committing (.ok ()) { signedOut with held := true }).map (·.exchange))
        (.ok ()) ∧
      Whole Statement.run signedIn signedIn ((beginning ++ rollingBack).map (·.exchange))
        (.error diskFull : Except Exc Unit) := by
  constructor
  · have path := committing_steps (.ok ()) { signedOut with held := true } (Or.inl ⟨.empty, rfl, rfl, rfl⟩)
    have runs : (deleteSession ⟨"sid"⟩).Runs
        ((beginning ++ committing (.ok ()) { signedOut with held := true }).map (·.exchange)) (.ok ()) :=
      .call (.call (.call (.call (.call (.call .here)))))
    refine (@tx_whole_iff _ _ _ _ _ _ _ _ (single (.deleteSession ⟨"sid"⟩)) _ path ⟨rfl, rfl⟩ runs).mpr ?_
    intro x member ends
    simp only [beginning, committing, List.mem_append, List.mem_cons, List.not_mem_nil, or_false] at member
    rcases member with (rfl | rfl | rfl) | (rfl | rfl | rfl)
    case inr.inr.inl => exact ⟨fun _ failed => absurd failed not_failed, nofun⟩
    all_goals cases ends
  · have runs : (deleteSession ⟨"sid"⟩).Runs ((beginning ++ rollingBack).map (·.exchange)) (.error diskFull) :=
      .call (.call (.call (.call (.call (.call .here)))))
    refine (@tx_whole_iff _ _ _ _ _ _ _ _ (single (.deleteSession ⟨"sid"⟩)) _ rollingBack_steps ⟨rfl, rfl⟩ runs).mpr ?_
    intro x member ends
    simp only [beginning, rollingBack, List.mem_append, List.mem_cons, List.not_mem_nil, or_false] at member
    rcases member with (rfl | rfl | rfl) | (rfl | rfl | rfl)
    case inr.inr.inl => exact ⟨fun _ failed => absurd failed not_failed, nofun⟩
    all_goals cases ends

/-- A `COMMIT` that fails and leaves its transaction open. -/
theorem failed_commit_not_whole : ¬∀ (body : Body Statement (List Session) Unit) (start finish : Connection Store)
    (steps : Deletes) (outcome : Except Exc Unit), Steps (serves Statement.run) start steps finish → start.Closed →
    (tx body.code).Runs (steps.map (·.exchange)) outcome →
      Whole Statement.run start finish (steps.map (·.exchange)) outcome := by
  intro whole
  have path := committing_steps (.error diskFull) deleted (Or.inr ⟨⟨_, rfl⟩, Or.inl rfl⟩)
  have runs : (deleteSession ⟨"sid"⟩).Runs ((beginning ++ committing (.error diskFull) deleted).map (·.exchange))
      (.error diskFull) := .call (.call (.call (.call (.call (.call .here)))))
  obtain ⟨⟨-, closed⟩, -⟩ := whole _ _ _ _ _ path ⟨rfl, rfl⟩ runs
  cases closed

/-- Blocks one after the other, as the lock lets them run, each of which ends soundly. -/
inductive Serial (run : Stmt → D → Option (R × D)) : Connection D → Connection D → Prop
  | start {first : Connection D} : Serial run first first
  | next {α : Type} {first middle last : Connection D} {block : Trail Stmt R D} {body : Body Stmt R α}
      {outcome : Except Exc α} : Serial run first middle → Steps (serves run) middle block last →
      (tx body.code).Runs (block.map (·.exchange)) outcome → (∀ x ∈ block, Sound middle x) → Serial run first last

/-- By induction on the blocks: each finds a connection on which it can begin. -/
theorem Serial.closed (serial : Serial run start finish) (closed : start.Closed) :
    finish.Closed ∧ ∃ next, serves run .begin finish (.ok ()) next := by
  induction serial with
  | start => exact ⟨closed, ⟨_, Or.inl ⟨closed.2, rfl, rfl⟩⟩⟩
  | next _ path runs sound ih =>
    have whole := (tx_whole_iff path (ih closed).1 runs).mpr sound
    exact ⟨whole.closed, whole.begins⟩

/-- A connection whose transaction was left open stays so: every later block raises before its first statement. -/
theorem left_open {body : Code Stmt R α} {outcome : Except Exc α} (path : Steps (serves run) start steps finish)
    {d : D} (open_ : start.working = some d) (runs : (tx body).Runs (steps.map (·.exchange)) outcome) :
    (∃ exn, outcome = .error exn) ∧ finish = start := by
  obtain ⟨free, middle, m, -, rfl, within, ran⟩ := tx_parts path runs
  have same : ({ start with held := false } : Connection D) = start := by rw [← free]
  rcases ran with ran | ⟨-, rfl, failed⟩
  · rcases transaction_steps within ran with ⟨exn, -, rfl, rfl⟩ | ⟨_, _, _, _, _, closed, -⟩
    · exact ⟨⟨exn, rfl⟩, same⟩
    · rw [open_] at closed
      cases closed
  · cases within
    exact ⟨failed, same⟩

/-- Code that passes on what its statements raise. -/
inductive Passes {α : Type} : Code Stmt R α → Prop
  | ret {value : α} : Passes (.ret value)
  | raise {exn : Exc} : Passes (.raise exn)
  | call {op : Op Stmt} {next : Except Exc (Ans R op) → Code Stmt R α} : (∀ exn, next (.error exn) = .raise exn) →
      (∀ value, Passes (next (.ok value))) → Passes (.call op next)

/-- By induction on the code: only its last statement can have undone the transaction. -/
theorem Passes.kept {code : Code Stmt R α} {outcome : Except Exc α} (passes : Passes code) (plain : Plain steps)
    (path : Steps (serves run) c steps m) (runs : code.Runs (steps.map (·.exchange)) outcome)
    (open_ : c.working.isSome = true) : m.committed = c.committed := by
  induction passes generalizing c steps with
  | ret =>
    obtain ⟨none, -⟩ := Prog.Runs.of_ret runs
    obtain ⟨-, rfl⟩ := path.nil none
    rfl
  | raise =>
    obtain ⟨none, -⟩ := Prog.Runs.of_raise runs
    obtain ⟨-, rfl⟩ := path.nil none
    rfl
  | @call op next passed _ ih =>
    obtain ⟨answer, rest, whole, after⟩ := Prog.Runs.of_call runs
    obtain ⟨front, back, v, rfl, first, rfl, begins, onward⟩ := path.split whole
    obtain ⟨rfl, served⟩ := begins.single first
    obtain ⟨⟨statement, same⟩, rest⟩ := List.forall_mem_cons.mp plain
    subst same
    cases answer with
    | error exn =>
      rw [passed exn] at after
      obtain ⟨none, -⟩ := Prog.Runs.of_raise after
      obtain ⟨-, rfl⟩ := onward.nil none
      rcases served with ⟨_, _, -, same, -⟩ | ⟨-, rfl | rfl⟩
      · cases same
      · rfl
      · rfl
    | ok rows =>
      rcases served with ⟨_, d, -, -, rfl⟩ | ⟨failed, -⟩
      · obtain ⟨d', inside⟩ := Option.isSome_iff_exists.mp open_
        have put : c.put d = { c with working := some d } := by rw [Connection.put, inside]
        rw [put] at onward
        have same := @ih rows { c with working := some d } back rest onward after rfl
        exact same
      · exact absurd failed not_failed

/-- A block of such code goes wrong in one way only: its transaction is left open by what has failed to end it. -/
theorem Passes.whole_iff {body : Body Stmt R α} {outcome : Except Exc α} (passes : Passes body.code)
    (path : Steps (serves run) start steps finish) (closed : start.Closed)
    (runs : (tx body.code).Runs (steps.map (·.exchange)) outcome) :
    Whole run start finish (steps.map (·.exchange)) outcome ↔ ∀ x ∈ steps, (x.exchange.1 : Op Stmt).ends = true →
      x.before.working.isSome = true → Failed x.exchange.2 → x.after.working = none := by
  refine (tx_whole_iff path closed runs).trans
    ⟨fun sound x member ends => (sound x member ends).1, fun left x member ends => ⟨left x member ends, fun _ => ?_⟩⟩
  obtain ⟨-, middle, m, rfl, -, within, ran⟩ := tx_parts path runs
  simp only [List.mem_append, List.mem_singleton] at member
  rcases member with rfl | (rfl | member) | rfl
  case inr.inl.inr =>
    rcases ran with ran | ⟨-, rfl, -⟩
    · rcases transaction_steps within ran with ⟨exn, rfl, -, -⟩ |
        ⟨result, inner, c, op, answer, -, rfl, statements, inside, -, -⟩
      · rw [List.mem_singleton] at member
        subst member
        cases ends
      · have plain := Body.plain_runs inside
        simp only [List.mem_append, List.mem_singleton] at member
        rcases member with rfl | member | rfl
        · cases ends
        · obtain ⟨statement, same⟩ := plain x member
          rw [same] at ends
          cases ends
        · have same := passes.kept plain statements inside rfl
          exact same
    · cases member
  all_goals cases ends

/-- A body that passes on what its statements raise, and then has written nothing; without an exception it has the effect. -/
structure Body.Does (run : Stmt → D → Option (R × D)) (body : Body Stmt R α) (effect : α → D → D → Prop) : Prop where
  passes : Passes body.code
  ok : ∀ {c m : Connection D} {steps : Trail Stmt R D} {d value}, Steps (serves run) c steps m →
    body.code.Runs (steps.map (·.exchange)) (.ok value) → c.working = some d → ∃ d', m.working = some d' ∧ effect value d d'
  error : ∀ {c m : Connection D} {steps : Trail Stmt R D} {d exn}, Steps (serves run) c steps m →
    body.code.Runs (steps.map (·.exchange)) (.error exn) → c.working = some d → m.working = some d ∨ m.working = none

theorem Body.Does.mono {body : Body Stmt R α} {effect effect' : α → D → D → Prop} (does : body.Does run effect)
    (weaker : ∀ value d d', effect value d d' → effect' value d d') : body.Does run effect' where
  passes := does.passes
  ok path runs open_ := by
    obtain ⟨d', inside, done⟩ := does.ok path runs open_
    exact ⟨d', inside, weaker _ _ _ done⟩
  error := does.error

/-- All that a block can come to: it has committed its effect; or it has raised and has committed nothing, and then the
connection is as it was, or a transaction is left open that was begun, with the effect or without. -/
theorem Body.Does.outcomes {body : Body Stmt R α} {effect : α → D → D → Prop} (does : body.Does run effect)
    {outcome : Except Exc α} (path : Steps (serves run) start steps finish)
    (runs : (tx body.code).Runs (steps.map (·.exchange)) outcome) :
    (∃ value, outcome = .ok value ∧ start.working = none ∧ effect value start.committed finish.committed ∧
      finish.working = none) ∨
    Failed outcome ∧ finish.committed = start.committed ∧ (finish.working = start.working ∨
      start.working = none ∧ (finish.working = some start.committed ∨
        ∃ value d, effect value start.committed d ∧ finish.working = some d)) := by
  obtain ⟨-, middle, m, -, rfl, within, ran⟩ := tx_parts path runs
  rcases ran with ran | ⟨-, rfl, failed⟩
  · rcases transaction_steps within ran with ⟨exn, -, rfl, rfl⟩ |
      ⟨result, inner, c, op, answer, closed, -, statements, inside, served, ending⟩
    · exact Or.inr ⟨⟨exn, rfl⟩, rfl, Or.inl rfl⟩
    · have closed : start.working = none := closed
      have same := does.passes.kept (Body.plain_runs inside) statements inside rfl
      have same : c.committed = start.committed := same
      have left (m : Connection D) (after : m = c ∨ m = c.undone) : m.committed = start.committed ∧
          (m.working = c.working ∨ m.working = none) := by
        rcases after with rfl | rfl
        · exact ⟨same, Or.inl rfl⟩
        · exact ⟨same, Or.inr rfl⟩
      cases ending with
      | @committed value =>
        obtain ⟨d, working, -, rfl⟩ | ⟨failed, -⟩ := served
        · obtain ⟨d', working', done⟩ := does.ok statements inside rfl
          rw [working, Option.some.injEq] at working'
          subst working'
          exact Or.inl ⟨value, rfl, closed, done, rfl⟩
        · exact absurd failed not_failed
      | @uncommitted value exn =>
        rcases served with ⟨_, -, ok, -⟩ | ⟨-, after⟩
        · cases ok
        · obtain ⟨kept, working | working⟩ := left m after
          · obtain ⟨d, inside, done⟩ := does.ok statements inside rfl
            exact Or.inr ⟨⟨exn, rfl⟩, kept, Or.inr ⟨closed, Or.inr ⟨value, d, done, working.trans inside⟩⟩⟩
          · exact Or.inr ⟨⟨exn, rfl⟩, kept, Or.inl (working.trans closed.symm)⟩
      | @rolledBack exn =>
        rcases served with ⟨-, -, rfl⟩ | ⟨failed, -⟩
        · exact Or.inr ⟨⟨exn, rfl⟩, same, Or.inl closed.symm⟩
        · exact absurd failed not_failed
      | @stuck exn exn' =>
        rcases served with ⟨-, ok, -⟩ | ⟨-, after⟩
        · cases ok
        · obtain ⟨kept, working | working⟩ := left m after
          · rcases does.error statements inside rfl with open_ | out
            · exact Or.inr ⟨⟨exn', rfl⟩, kept, Or.inr ⟨closed, Or.inl (working.trans open_)⟩⟩
            · exact Or.inr ⟨⟨exn', rfl⟩, kept, Or.inl ((working.trans out).trans closed.symm)⟩
          · exact Or.inr ⟨⟨exn', rfl⟩, kept, Or.inl (working.trans closed.symm)⟩
  · cases within
    exact Or.inr ⟨failed, rfl, Or.inl rfl⟩

end blocks

section store
variable {start finish c m : Connection Store} {steps : Deletes}

theorem single_passes (statement : Statement) : Passes (single statement).code :=
  .call (fun _ => rfl) fun _ => .ret

theorem purge_passes (now : Time) : Passes (purge now).code :=
  .call (fun _ => rfl) fun _ => .call (fun _ => rfl) fun _ => .ret

/-- A statement that has not failed, in an open transaction. -/
theorem executed {statement : Statement} {rows : List Session} {d : Store}
    (path : Steps (serves Statement.run) c steps m)
    (exchanges : steps.map (·.exchange) = [⟨.execute statement, .ok rows⟩]) (open_ : c.working = some d) :
    ∃ d', statement.run d = some (rows, d') ∧ m.working = some d' := by
  obtain ⟨-, served⟩ := path.single exchanges
  rcases served with ⟨rows', d', ran, same, rfl⟩ | ⟨failed, -⟩
  · cases same
    rw [Connection.current, open_] at ran
    have wrote : (c.put d').working = some d' := by rw [Connection.put, open_]
    exact ⟨d', ran, wrote⟩
  · exact absurd failed not_failed

/-- A statement that has failed. -/
theorem unexecuted {statement : Statement} {exn : Exc} {d : Store} (path : Steps (serves Statement.run) c steps m)
    (exchanges : steps.map (·.exchange) = [⟨.execute statement, .error exn⟩]) (open_ : c.working = some d) :
    m.working = some d ∨ m.working = none := by
  obtain ⟨-, served⟩ := path.single exchanges
  rcases served with ⟨_, _, -, same, -⟩ | ⟨-, rfl | rfl⟩
  · cases same
  · exact Or.inl open_
  · exact Or.inr rfl

theorem single_does (statement : Statement) :
    (single statement).Does Statement.run fun _ d d' => ∃ rows, statement.run d = some (rows, d') where
  passes := single_passes statement
  ok := by
    intro c m steps d value path runs open_
    rcases Prog.Runs.of_bind runs with ⟨exn, -, same⟩ | ⟨rows, first, rest, whole, ran, after⟩
    · cases same
    · obtain ⟨rfl, -⟩ := Prog.Runs.of_ret after
      rw [List.append_nil, Prog.Runs.of_perform ran] at whole
      obtain ⟨d', ran, inside⟩ := executed path whole open_
      exact ⟨d', inside, rows, ran⟩
  error := by
    intro c m steps d exn path runs open_
    rcases Prog.Runs.of_bind runs with ⟨exn', ran, -⟩ | ⟨rows, first, rest, -, -, after⟩
    · exact unexecuted path (Prog.Runs.of_perform ran) open_
    · cases (Prog.Runs.of_ret after).2

theorem purge_does (now : Time) :
    (purge now).Does Statement.run fun rows d d' => d.purgeSessions now = (rows, d') where
  passes := purge_passes now
  ok := by
    intro c m steps d value path runs open_
    rcases Prog.Runs.of_bind runs with ⟨exn, -, same⟩ | ⟨found, first, rest, whole, selected, after⟩
    · cases same
    · rcases Prog.Runs.of_bind after with ⟨exn, -, same⟩ | ⟨none, second, last, rfl, deleted, after⟩
      · cases same
      · obtain ⟨rfl, same⟩ := Prog.Runs.of_ret after
        cases same
        rw [List.append_nil, Prog.Runs.of_perform selected, Prog.Runs.of_perform deleted] at whole
        obtain ⟨early, late, v, rfl, front, back, selects, deletes⟩ := path.split whole
        obtain ⟨d', ran, inside⟩ := executed selects front open_
        cases ran
        obtain ⟨d', ran, outside⟩ := executed deletes back inside
        cases ran
        exact ⟨_, outside, rfl⟩
  error := by
    intro c m steps d exn path runs open_
    rcases Prog.Runs.of_bind runs with ⟨exn', ran, -⟩ | ⟨found, first, rest, whole, selected, after⟩
    · exact unexecuted path (Prog.Runs.of_perform ran) open_
    · rcases Prog.Runs.of_bind after with ⟨exn', ran, -⟩ | ⟨none, second, last, rfl, -, after⟩
      · rw [Prog.Runs.of_perform selected, Prog.Runs.of_perform ran] at whole
        obtain ⟨early, late, v, rfl, front, back, selects, deletes⟩ := path.split whole
        obtain ⟨d', ran, inside⟩ := executed selects front open_
        cases ran
        exact unexecuted deletes back inside
      · cases (Prog.Runs.of_ret after).2

/-- A store function of one statement that returns has had the effect of its statement. -/
theorem single_ok {statement : Statement} (path : Steps (serves Statement.run) start steps finish)
    (runs : (tx (single statement).code).Runs (steps.map (·.exchange)) (.ok ())) :
    ∃ rows, statement.run start.committed = some (rows, finish.committed) := by
  rcases (single_does statement).outcomes path runs with ⟨_, -, -, done, -⟩ | ⟨failed, -⟩
  · exact done
  · exact absurd failed not_failed

/-- `purge_sessions` returns the sessions that it has deleted. -/
theorem purgeSessions_ok {now : Time} {rows : List Session} (path : Steps (serves Statement.run) start steps finish)
    (runs : (purgeSessions now).Runs (steps.map (·.exchange)) (.ok rows)) :
    start.committed.purgeSessions now = (rows, finish.committed) := by
  rcases (purge_does now).outcomes path runs with ⟨_, same, -, done, -⟩ | ⟨failed, -⟩
  · cases same
    exact done
  · exact absurd failed not_failed

/-- Where nothing is left open, a store function of one statement has had its effect or none, and the next can begin. -/
theorem single_atomic {statement : Statement} {outcome : Except Exc Unit}
    (path : Steps (serves Statement.run) start steps finish) (closed : start.Closed)
    (runs : (tx (single statement).code).Runs (steps.map (·.exchange)) outcome)
    (ended : ∀ x ∈ steps, (x.exchange.1 : Op Statement).ends = true → x.before.working.isSome = true →
      Failed x.exchange.2 → x.after.working = none) :
    finish.Closed ∧ ((∃ rows, statement.run start.committed = some (rows, finish.committed)) ∨
      Failed outcome ∧ finish.committed = start.committed) := by
  have whole := (Passes.whole_iff (single_passes statement) path closed runs).mpr ended
  cases outcome with
  | ok value => exact ⟨whole.closed, Or.inl (single_ok path runs)⟩
  | error exn => exact ⟨whole.closed, Or.inr ⟨⟨exn, rfl⟩, whole.undone exn rfl⟩⟩

end store

end engine
end Vdba.Sqlite
