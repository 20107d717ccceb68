import Vdba.Interaction.Record

namespace Interaction
variable {S : Iface} {ε W T C E N D : Type}

/-- How a call that writes ends its transaction: it commits it, it has it undone, or it leaves it open. -/
inductive Ending
  | committed
  | undone
  | left
  deriving DecidableEq

/-- What is on the disk, and whether a transaction is open, so that none can be begun. -/
structure Disk (D : Type) where
  saved : D
  stuck : Bool

def Disk.after (disk : Disk D) (now : D) : Ending → Disk D
  | .committed => { disk with saved := now }
  | .undone => disk
  | .left => { disk with stuck := true }

/-- The machine with the disk beside its world: a call sees what was written last, and what is left of it when the process
dies is what was committed. -/
def Machine.durable (M : Machine S ε W T C E) (part : W → D) (restore : D → W → W) (writes : S.Op → Bool)
    (ending : C → Ending) : Machine S ε (W × Disk D) T C E where
  exec t op choice x :=
    if writes op = true ∧ x.2.stuck = true ∧ ending choice ≠ .undone then none
    else (M.exec t op choice x.1).map fun done =>
      (done.1, done.2, if writes op then x.2.after (part done.2) (ending choice) else x.2)
  env event x := (M.env event x.1).map fun w => (w, x.2)
  reset x := (restore x.2.saved (M.reset x.1), { x.2 with stuck := false })

/-- Only a commit changes what is on the disk. -/
theorem Disk.after_saved {disk : Disk D} {before now : D} {ending : Ending} (still : now = before)
    (saved : disk.saved = before) : (disk.after now ending).saved = now := by
  cases ending with
  | committed => rfl
  | undone => exact saved.trans still.symm
  | left => exact saved.trans still.symm

theorem Machine.durable_exec {M : Machine S ε W T C E} {part : W → D} {restore : D → W → W} {writes : S.Op → Bool}
    {ending : C → Ending} {t : T} {op : S.Op} {choice : C} {x y : W × Disk D} {answer : Except ε (S.Ans op)}
    (executed : (M.durable part restore writes ending).exec t op choice x = some (answer, y)) :
    M.exec t op choice x.1 = some (answer, y.1) ∧
      y.2 = if writes op then x.2.after (part y.1) (ending choice) else x.2 := by
  simp only [Machine.durable, Option.ite_none_left_eq_some, Option.map_eq_some_iff] at executed
  obtain ⟨-, ⟨answer', w⟩, done, same⟩ := executed
  cases same
  exact ⟨done, rfl⟩

/-- What the steps that are allowed do to the part of the world that is to last: they commit it, or it stays. -/
structure Durable (M : Machine S ε W T C E) (part : W → D) (restore : D → W → W) (writes : S.Op → Bool)
    (ending : C → Ending) (ok : Pool S ε W T → Label T C E N → Prop) : Prop where
  exec : ∀ {s : Pool S ε W T} {t choice op next answer w}, ok s (.run t choice) → s.threads t = some (.call op next) →
    M.exec t op choice s.world = some (answer, w) →
      writes op = true ∧ ending choice = .committed ∨ part w = part s.world
  env : ∀ {event v w}, M.env event v = some w → part w = part v
  reset : ∀ w, part (M.reset w) = part w
  restore : ∀ w, restore (part w) w = w

namespace Durable
variable [DecidableEq T] {M : Machine S ε W T C E} {part : W → D} {restore : D → W → W} {writes : S.Op → Bool}
  {ending : C → Ending} {entry : T → N → Prog S ε Unit} {ok : Pool S ε W T → Label T C E N → Prop}

/-- The disk has what the world shows. -/
def Saved (part : W → D) (s : Pool S ε (W × Disk D) T) : Prop := s.world.2.saved = part s.world.1

theorem step (durable : Durable M part restore writes ending ok) {s s' : Pool S ε (W × Disk D) T}
    {label : Label T C E N} (saved : Saved part s) (allowed : ok s.plain label)
    (stepped : Pool.step (M.durable part restore writes ending) entry label s = some s') :
    Saved part s' ∧ Pool.step M entry label s.plain = some s'.plain := by
  cases label with
  | spawn t name =>
    cases at_t : s.threads t with
    | some p => simp only [Pool.step, at_t] at stepped; cases stepped
    | none =>
      simp only [Pool.step, at_t, Option.some.injEq] at stepped
      subst stepped
      refine ⟨saved, ?_⟩
      simp only [Pool.step, Pool.plain, at_t]
      rfl
  | run t choice =>
    cases at_t : s.threads t with
    | none => simp only [Pool.step, at_t] at stepped; cases stepped
    | some p =>
      have plain : s.plain.threads t = some p := at_t
      simp only [Pool.step, at_t, Option.map_eq_some_iff] at stepped
      obtain ⟨⟨q, x⟩, advanced, rfl⟩ := stepped
      cases p with
      | ret => cases advanced
      | raise => cases advanced
      | iter body next =>
        simp only [Prog.advance, Option.some.injEq, Prod.mk.injEq] at advanced
        obtain ⟨rfl, rfl⟩ := advanced
        refine ⟨saved, ?_⟩
        simp only [Pool.step, plain]
        rfl
      | call op next =>
        simp only [Prog.advance, Option.map_eq_some_iff] at advanced
        obtain ⟨⟨answer, y⟩, executed, same⟩ := advanced
        cases same
        obtain ⟨executed, disk⟩ := Machine.durable_exec executed
        have executed' : M.exec t op choice s.plain.world = some (answer, y.1) := executed
        refine ⟨?_, ?_⟩
        · have outcome := durable.exec allowed plain executed
          simp only [Saved, disk]
          split
          · next writing =>
            rcases outcome with ⟨-, committed⟩ | still
            · rw [committed, Disk.after]
            · rw [Disk.after_saved still saved]
          · next reading =>
            rcases outcome with ⟨writing, -⟩ | still
            · exact absurd writing reading
            · exact saved.trans still.symm
        · simp only [Pool.step, plain, Prog.advance, executed', Option.map_some]
          rfl
  | env event =>
    obtain ⟨x, moved, rfl⟩ := Option.map_eq_some_iff.mp stepped
    obtain ⟨w, happened, same⟩ := Option.map_eq_some_iff.mp moved
    cases same
    have happened' : M.env event s.plain.world = some w := happened
    refine ⟨saved.trans (durable.env happened).symm, ?_⟩
    simp only [Pool.step, happened', Option.map_some]
    rfl
  | kill =>
    cases stepped
    have same : restore s.world.2.saved (M.reset s.world.1) = M.reset s.world.1 := by
      rw [saved, ← durable.reset, durable.restore]
    refine ⟨?_, ?_⟩
    · simp only [Saved, Machine.durable, same]
      exact saved.trans (durable.reset _).symm
    · simp only [Pool.step, Machine.durable, Pool.plain, same]

/-- A run of allowed steps is one of the machine without the disk, and the disk has what its world shows. -/
theorem reach (durable : Durable M part restore writes ending ok) {start s : Pool S ε (W × Disk D) T}
    (saved : Saved part start)
    (run : Pool.Reach (M.durable part restore writes ending) entry (fun s label => ok s.plain label) start s) :
    Saved part s ∧ Pool.Reach M entry ok start.plain s.plain := by
  induction run with
  | start => exact ⟨saved, .start⟩
  | next _ allowed stepped ih =>
    obtain ⟨saved, before⟩ := ih
    obtain ⟨saved', plain⟩ := durable.step saved allowed stepped
    exact ⟨saved', .next before allowed plain⟩

end Durable
end Interaction
