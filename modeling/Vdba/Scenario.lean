import Vdba.Adequacy

namespace Vdba
open Interaction (Pool)

/-- A choice with which the call succeeds. -/
def Op.success : Op → World → Choice
  | .tokenHex n, _ => { chars := List.replicate (2 * n) 'a' }
  | .setOrder xs, _ => { names := xs }
  | .pgTables, _ | .chTables, _ => { names := ["t"] }
  | .listAccessors, w => { names := w.vault.tokens.map (·.accessor) }
  | .listLeases role, w => { names := (w.vault.leases.filter (·.role = role)).map (·.key) }
  | .accountsWithPrefix db pfx, w => { names := w.accountsWith db pfx }
  | .createToken _ label, w =>
    let again := label ++ String.ofList (w.credsLog.map fun _ => '*')
    { key := "accessor of " ++ again, secret := ⟨"token of " ++ again⟩ }
  | .credsOpen .., _ => { chars := List.replicate 6 'b' }
  | .credsClose _, _ => { key := "key", secret := ⟨"password"⟩, count := 60 }
  | _, _ => {}

/-- The next move of a thread, if all goes well. -/
def System.onward (t : Nat) (s : System) : Move :=
  match s.threads t with
  | some (.call op _) => .run t (op.success s.world)
  | _ => .run t {}

/-- One entry of a script. -/
inductive Scene
  | starts (t : Nat) (entry : Entry)
  | goes (t steps : Nat)
  | gets (t : Nat) (choice : Choice)
  | fails (t : Nat) (exn : Exc)
  | happens (event : Event)
  | dies

def Scene.moves : Scene → List (System → Move)
  | starts t entry => [fun _ => .spawn t entry]
  | goes t steps => List.replicate steps (System.onward t)
  | gets t choice => [fun _ => .run t choice]
  | fails t exn => [fun _ => .run t { fate := .fail exn }]
  | happens event => [fun _ => .env event]
  | dies => [fun _ => .kill]

/-- A script played move by move; a move that fails the test or is not possible is left out. -/
def System.play (cfg : Config) (test : System → Move → Bool) : List (System → Move) → System → System
  | [], s => s
  | move :: moves, s => play cfg test moves (if test s (move s) then (s.move cfg (move s)).getD s else s)

/-- What happens after a state, in moves that are all allowed. -/
abbrev System.Later (cfg : Config) (ok : System → Move → Prop) : System → System → Prop :=
  Pool.Reach machine (fun _ => Entry.code cfg) ok

variable {cfg : Config} {ok : System → Move → Prop} {start s : System}

theorem System.Later.play {test : System → Move → Bool} (tested : ∀ s move, test s move = true → ok s move)
    (moves : List (System → Move)) (run : System.Later cfg ok start s) :
    System.Later cfg ok start (System.play cfg test moves s) := by
  induction moves generalizing s with
  | nil => exact run
  | cons move moves ih =>
    refine ih ?_
    by_cases allowed : test s (move s) = true
    · rw [if_pos allowed]
      cases moved : s.move cfg (move s) with
      | none => exact run
      | some s' => exact .next run (tested s (move s) allowed) moved
    · rw [if_neg allowed]
      exact run

/-- The move is not one of the outside. -/
def System.inside (_ : System) : Move → Bool
  | .env _ => false
  | .spawn .. | .run .. | .kill => true

/-- The state a script leads to where nothing happens on its own. -/
def System.staged (cfg : Config) (scenes : List Scene) (s : System) : System :=
  System.play cfg System.inside (scenes.flatMap Scene.moves) s

theorem System.Later.staged (every : ∀ s move, s.inside move = true → ok s move) (scenes : List Scene)
    (run : System.Later cfg ok start s) : System.Later cfg ok start (s.staged cfg scenes) :=
  run.play every _

theorem System.Later.mono {ok' : System → Move → Prop} (run : System.Later cfg ok start s)
    (weaker : ∀ s move, ok s move → ok' s move) : System.Later cfg ok' start s :=
  Pool.Reach.mono run weaker

/-- A grant of one ClickHouse table, and one of a PostgreSQL table. -/
def clickhouseRequest : GrantRequest := ⟨.clickhouse, .tables, ["t"], ["SELECT"], 60, "someone"⟩

def postgresRequest : GrantRequest := ⟨.postgres, .tables, ["t"], ["SELECT"], 60, "someone"⟩

def someConfig : Config := ⟨10, 86400, 300, false, "", []⟩

/-- The id that `tokenHex` draws when all goes well. -/
def someId : GrantId :=
  ⟨⟨List.replicate 10 'a', rfl, fun d member => by rw [List.eq_of_mem_replicate member]; decide⟩⟩

def otherId : GrantId :=
  ⟨⟨List.replicate 10 'b', rfl, fun d member => by rw [List.eq_of_mem_replicate member]; decide⟩⟩

end Vdba
