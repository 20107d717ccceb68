import Vdba.Operations

namespace Vdba
open Interaction (Pool)

/-- The calls and events of a run are as the terms say. -/
def MoveOk (terms : Terms) (s : System) : Move → Prop
  | .run t choice => ∀ op next, s.threads t = some (.call op next) → Allowed terms t op choice s.world
  | .env event => EventOk terms event s.world
  | .spawn _ _ | .kill => True

/-- Loose terms speak of the events only. -/
theorem MoveOk.of_events {terms : Terms} (loose : terms.Loose) {s : System} {label : Move}
    (events : ∀ event, label = .env event → EventOk terms event s.world) : MoveOk terms s label := by
  cases label with
  | run t choice => exact fun op _ _ => Allowed.plain loose t op choice s.world
  | env event => exact events event rfl
  | spawn => trivial
  | kill => trivial

theorem MoveOk.of_run {terms : Terms} (loose : terms.Loose) (s : System) (t : Nat) (choice : Choice) :
    MoveOk terms s (.run t choice) :=
  .of_events loose fun _ same => by cases same

theorem Event.addForeign_store (tokens : List Token) (w : World) : (addForeign tokens w).store = w.store := by
  induction tokens generalizing w with
  | nil => rfl
  | cons token tokens ih =>
    rw [addForeign, ih]
    split
    · rfl
    · rfl

theorem Event.happen_store {event : Event} {v w : World} (happened : event.happen v = some w) : w.store = v.store := by
  cases event <;> simp only [happen, Option.some.injEq, Option.ite_none_right_eq_some] at happened
  case login => obtain ⟨-, rfl⟩ := happened; rfl
  case startQuery => obtain ⟨-, rfl⟩ := happened; rfl
  case foreignTokens tokens => rw [← happened, addForeign_store]
  case leaseText lease text count =>
    cases live : v.liveLease lease with
    | none => rw [live] at happened; cases happened
    | some l =>
      rw [live] at happened
      simp only [Option.ite_none_right_eq_some] at happened
      rcases World.statement_cases happened.2 with ⟨-, rfl⟩ | ⟨_, _, -, -, rfl⟩ <;> rfl
  all_goals subst happened; rfl

/-- A call of the portal leaves with no lock, and it comes to an end if the clock does not run backwards. -/
theorem Entry.plain {cfg : Config} {terms : Terms} {t : Nat} {limit : Option Nat} (entry : Entry)
    (loud : ∀ id, ¬terms.quiet id) (monotone : limit = none → terms.monotone) :
    Plain terms t limit (fun _ => True) (entry.code cfg) := by
  have rests : Lasting terms t fun _ => True := Lasting.const True
  cases entry with
  | issue req actor requestId => exact (issue_triple cfg req actor requestId loud monotone).bind fun _ => .ask rests rfl
  | revoke id actor requestId => exact (revoke_triple actor requestId (loud id) monotone).bind fun _ => .ret rests ()
  | reconcile => exact reconcileOnce_triple loud monotone

/-- The pool of the portal's calls follows its discipline. -/
theorem adequate (cfg : Config) {terms : Terms} (loud : ∀ id, ¬terms.quiet id) :
    Pool.Adequate (portal terms) machine (fun _ => Entry.code cfg) (MoveOk terms) World.Resting
      (fun t _ => World.Resting t) where
  exec allowed _ at_t executed := ⟨_, executed, allowed _ _ at_t⟩
  others differs inv guar := by
    refine ⟨guar.1.rely differs inv, fun solo => ?_⟩
    exact absurd (guar.2 _ solo).symm differs
  env allowed inv happened := by
    obtain ⟨inv', rely⟩ := Event.env inv allowed happened
    exact ⟨inv', fun t => ⟨rely t, fun _ => by rw [Event.happen_store happened]⟩⟩
  reset _ inv := by
    obtain ⟨inv', idle⟩ := World.reset_inv inv
    exact ⟨inv', fun t => ⟨idle t, fun _ => List.not_mem_nil⟩⟩
  idle resting rely := resting.rely rely.1
  entry := by
    intro s t name _ _ resting n
    have code : Plain terms t (some n) (fun _ => True) (name.code cfg) := name.plain loud fun none => nomatch none
    refine (code s.world ⟨resting, trivial⟩).mono fun outcome w _ post => ?_
    cases outcome with
    | ok _ => exact post.1
    | error _ => exact post.1

/-- What holds of every moment of a run. -/
abbrev System.Sound (terms : Terms) (s : System) : Prop :=
  Pool.Sound (portal terms) World.Resting (fun t _ => World.Resting t) s

theorem System.start_sound (terms : Terms) : System.start.Sound terms where
  inv := World.initial_inv
  idle _ _ := ⟨fun _ h lock => absurd lock (Option.some_ne_none h).symm, fun _ => List.not_mem_nil⟩
  threads _ p at_t := absurd at_t (Option.some_ne_none p).symm

variable {cfg : Config} {terms : Terms} {s s' : System}

theorem System.Run.sound (loud : ∀ id, ¬terms.quiet id) (run : System.Run cfg (MoveOk terms) s) : s.Sound terms :=
  (adequate cfg loud).sound (System.start_sound terms) run

/-- What one call of a thread does to the world. -/
theorem System.Run.guar (loud : ∀ id, ¬terms.quiet id) (run : System.Run cfg (MoveOk terms) s) {t : Nat}
    {choice : Choice}
    (allowed : MoveOk terms s (.run t choice)) (moved : s.move cfg (.run t choice) = some s') :
    s'.world = s.world ∨ Guar terms t s.world s'.world :=
  ((adequate cfg loud).sound_run allowed (run.sound loud) moved).2.imp_right And.left

/-- Where nothing is taken for granted, every run will do. -/
theorem System.Run.any {ok : System → Move → Prop} (run : System.Run cfg ok s) : System.Run cfg (MoveOk {}) s :=
  run.mono fun s _ _ => .of_events Terms.none_loose fun event _ => EventOk.any event s.world

end Vdba
