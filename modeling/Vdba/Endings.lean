import Vdba.Interaction.Halting
import Vdba.Runs

namespace Vdba
open Interaction (Pool Ensures)

/-- The clock does not run backwards. -/
def steadyClock : Terms := { monotone := True }

theorem steadyClock_loose : steadyClock.Loose := ⟨id, rfl, fun _ => id, fun _ => id⟩

theorem steadyClock_loud (id : GrantId) : ¬steadyClock.quiet id := steadyClock_loose.loud id

/-- A run of the portal's calls that goes on for ever, in a process that is not killed. -/
abbrev System.Endless (cfg : Config) (ok : System → Move → Prop) (states : Nat → System) (moves : Nat → Move) : Prop :=
  Pool.Endless machine (fun _ => Entry.code cfg) ok states moves

section endings
variable {cfg : Config} {states : Nat → System} {moves : Nat → Move} {s : System}

theorem Entry.ends (entry : Entry) (t : Nat) (resting : s.world.Resting t) :
    Ensures (portal steadyClock) t (fun _ w => w.Resting t) none (entry.code cfg) s.world := by
  have plain : Plain steadyClock t none (fun _ => True) (entry.code cfg) :=
    entry.plain steadyClock_loud fun _ => trivial
  refine (plain s.world ⟨resting, trivial⟩).mono fun outcome w _ post => ?_
  cases outcome with
  | ok _ => exact post.1
  | error _ => exact post.1

theorem System.Run.halting (run : System.Run cfg (MoveOk steadyClock) s) :
    Pool.Halting (portal steadyClock) (fun t _ => World.Resting t) s := by
  have none (t : Nat) (p : Portal Unit) (at_t : System.start.threads t = some p) :
      Ensures (portal steadyClock) t (fun _ => World.Resting t) none p System.start.world := by cases at_t
  exact (adequate cfg steadyClock_loud).halting (fun _ _ resting => Entry.ends _ _ resting)
    (System.start_sound steadyClock) none run

/-- Whatever fails and whatever the others do, every call of the portal comes to an end: it is at work in a number of
steps only. -/
theorem System.Endless.calls_end (endless : System.Endless cfg (MoveOk steadyClock) states moves)
    (begins : System.Run cfg (MoveOk steadyClock) (states 0)) (t : Nat) :
    ∃ last, ∀ n, last ≤ n → ∀ choice, moves n ≠ .run t choice := by
  have reach (n : Nat) : System.Run cfg (MoveOk steadyClock) (states n) := Pool.Endless.reach endless begins n
  exact Pool.Endless.rests endless (adequate cfg steadyClock_loud) (fun n => (reach n).sound steadyClock_loud)
    (fun n => (reach n).halting) t

end endings

/-- What thread `0` does next if all goes well; when it can do nothing, no time passes. -/
def System.turnOrWait (s : System) : Move :=
  if (s.move someConfig (s.onward 0)).isSome then s.onward 0 else .env (.tick 0)

/-- The test of `steadyClock`, move by move. -/
def System.steady (_ : System) : Move → Bool
  | .env (.setClock _) => false
  | _ => true

theorem System.steady_ok (s : System) (move : Move) (tested : s.steady move = true) : MoveOk steadyClock s move := by
  refine .of_events steadyClock_loose fun event same => ?_
  refine EventOk.plain steadyClock_loose (fun _ time sets => ?_) fun _ kept => kept.elim
  subst same sets
  cases tested

/-- A grant is issued, its recipient logs in, and a revocation begins. -/
def visitedState : System :=
  System.play someConfig System.steady ([Scene.starts 1 (.issue postgresRequest "admin" "1"), .goes 1 30,
    .happens (.login .postgres "vdba_aaaaaaaaaa_bbbbbb"), .starts 0 (.revoke someId "admin" "2")].flatMap Scene.moves)
    System.start

/-- Thread `0` revokes the grant and then time stands still. -/
def revokingForEver : Nat → System
  | 0 => visitedState
  | n + 1 => ((revokingForEver n).move someConfig (revokingForEver n).turnOrWait).getD (revokingForEver n)

theorem System.turnOrWait_allowed (s : System) : MoveOk steadyClock s s.turnOrWait ∧ s.turnOrWait ≠ .kill ∧
    ∃ s', s.move someConfig s.turnOrWait = some s' := by
  unfold System.turnOrWait
  split
  next goes =>
    refine ⟨?_, ?_, Option.isSome_iff_exists.mp goes⟩
    all_goals
      unfold System.onward
      split
    · exact .of_run steadyClock_loose s 0 _
    · exact .of_run steadyClock_loose s 0 _
    · exact fun same => by cases same
    · exact fun same => by cases same
  next =>
    refine ⟨EventOk.plain steadyClock_loose (fun _ _ same => ?_) (fun _ kept => kept.elim), fun same => ?_, _, rfl⟩
    · cases same
    · cases same

set_option maxRecDepth 100000 in
theorem visitedState_session : (visitedState.world.dbs .postgres).sessions "vdba_aaaaaaaaaa_bbbbbb" = 1 := by decide

/-- The revocation has a session to terminate, and it ends. -/
theorem revokingForEver_ends : ((revokingForEver 0).world.dbs .postgres).sessions "vdba_aaaaaaaaaa_bbbbbb" = 1 ∧
    ∃ last, ∀ n, last ≤ n → ∀ choice, (revokingForEver n).turnOrWait ≠ .run 0 choice := by
  have endless : System.Endless someConfig (MoveOk steadyClock) revokingForEver fun n => (revokingForEver n).turnOrWait := by
    refine ⟨fun n => (System.turnOrWait_allowed _).1, fun n => ?_, fun n => (System.turnOrWait_allowed _).2.1⟩
    obtain ⟨s', moved⟩ := (System.turnOrWait_allowed (revokingForEver n)).2.2
    have next : revokingForEver (n + 1) = s' := by rw [revokingForEver, moved, Option.getD_some]
    rw [next]
    exact moved
  have begins : revokingForEver 0 = visitedState := rfl
  have run : System.Run someConfig (MoveOk steadyClock) visitedState := System.Later.play System.steady_ok _ .start
  rw [begins]
  rw [← begins] at run
  exact ⟨visitedState_session, endless.calls_end run 0⟩

end Vdba
