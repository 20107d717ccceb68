import Vdba.Interaction.Prog

namespace Interaction
variable {S : Iface} {ε W T : Type}

/-- How the threads of a program share a world: what one operation may do, the invariant of the
world, what a thread relies on while others run, and what each of its own operations guarantees. -/
structure Discipline (S : Iface) (ε W T : Type) where
  Step : T → (op : S.Op) → W → Except ε (S.Ans op) → W → Prop
  Inv : W → Prop
  Rely : T → W → W → Prop
  Guar : T → W → W → Prop
  rely_refl : ∀ t w, Rely t w w
  rely_trans : ∀ t u v w, Rely t u v → Rely t v w → Rely t u w

/-- The numbers of loop rounds left to follow after one round; without a number they are all followed. -/
inductive Fewer : Option Nat → Option Nat → Prop
  | all : Fewer none none
  | one (n : Nat) : Fewer (some n) (some (n + 1))

def Within : Option Nat → Option Nat → Prop
  | none, none => True
  | some m, some n => m ≤ n
  | _, _ => False

theorem Within.refl (limit : Option Nat) : Within limit limit := by
  cases limit with
  | none => trivial
  | some n => exact Nat.le_refl n

theorem Fewer.within {fewer limit : Option Nat} (less : Fewer fewer limit) : Within fewer limit := by
  cases less with
  | all => trivial
  | one n => exact Nat.le_succ n

theorem Within.trans {lower middle limit : Option Nat} (left : Within lower middle) (right : Within middle limit) :
    Within lower limit := by
  cases lower <;> cases middle <;> cases limit <;> first | trivial | exact Nat.le_trans left right

theorem Within.fewer {lower limit fewer : Option Nat} (within : Within lower limit) (less : Fewer fewer lower) :
    ∃ fewer', Fewer fewer' limit ∧ Within fewer fewer' := by
  cases less with
  | all =>
    cases limit with
    | none => exact ⟨none, .all, trivial⟩
    | some n => cases within
  | one n =>
    cases limit with
    | none => cases within
    | some m =>
      have less : n + 1 ≤ m := within
      obtain ⟨k, rfl⟩ : ∃ k, m = k + 1 := ⟨m - 1, by omega⟩
      exact ⟨some k, .one k, Nat.le_of_succ_le_succ less⟩

/-- Thread `t`, about to run the program in world `w`, keeps the discipline with every operation
whatever the others do in between, and leaves with outcome and world in `Q`. With a limit, loops are
followed for that many rounds in all; without one, the program also comes to an end. -/
inductive Ensures (D : Discipline S ε W T) (t : T) {α : Type} (Q : Except ε α → W → Prop) :
    Option Nat → Prog S ε α → W → Prop
  | ret {limit value w} : (∀ v, D.Rely t w v → D.Inv v → Q (.ok value) v) → Ensures D t Q limit (.ret value) w
  | raise {limit exn w} : (∀ v, D.Rely t w v → D.Inv v → Q (.error exn) v) → Ensures D t Q limit (.raise exn) w
  | call {limit op next w} :
      (∀ v, D.Rely t w v → D.Inv v → ∀ answer u, D.Step t op v answer u → D.Inv u ∧ D.Guar t v u) →
      (∀ v, D.Rely t w v → D.Inv v → ∀ answer u, D.Step t op v answer u → Ensures D t Q limit (next answer) u) →
      Ensures D t Q limit (.call op next) w
  | iter {limit β w} {body : Prog S ε (Unit ⊕ β)} {next} :
      (∀ fewer, Fewer fewer limit → ∀ v, D.Rely t w v → D.Inv v →
        Ensures D t Q fewer (body.bind (.again body next)) v) →
      Ensures D t Q limit (.iter body next) w

namespace Ensures
variable {D : Discipline S ε W T} {t : T} {α β : Type} {Q Q' : Except ε α → W → Prop} {limit : Option Nat}

theorem stable {p : Prog S ε α} {w v : W} (run : Ensures D t Q limit p w) (rely : D.Rely t w v) :
    Ensures D t Q limit p v := by
  cases run with
  | ret post => exact .ret fun u next inv => post u (D.rely_trans _ _ _ _ rely next) inv
  | raise post => exact .raise fun u next inv => post u (D.rely_trans _ _ _ _ rely next) inv
  | call keeps rest =>
    exact .call (fun u next inv => keeps u (D.rely_trans _ _ _ _ rely next) inv)
      (fun u next inv => rest u (D.rely_trans _ _ _ _ rely next) inv)
  | iter rest => exact .iter fun fewer less u next inv => rest fewer less u (D.rely_trans _ _ _ _ rely next) inv

/-- It is enough to look at the worlds the others can make of this one. -/
theorem of_rely {p : Prog S ε α} {w : W}
    (run : ∀ v, D.Rely t w v → D.Inv v → Ensures D t Q limit p v) : Ensures D t Q limit p w := by
  cases p with
  | ret value =>
    refine .ret fun v rely inv => ?_
    cases run v rely inv with
    | ret post => exact post v (D.rely_refl t v) inv
  | raise exn =>
    refine .raise fun v rely inv => ?_
    cases run v rely inv with
    | raise post => exact post v (D.rely_refl t v) inv
  | call op next =>
    refine .call (fun v rely inv => ?_) (fun v rely inv => ?_)
    · cases run v rely inv with
      | call keeps _ => exact keeps v (D.rely_refl t v) inv
    · cases run v rely inv with
      | call _ rest => exact rest v (D.rely_refl t v) inv
  | iter body next =>
    refine .iter fun fewer less v rely inv => ?_
    cases run v rely inv with
    | iter rest => exact rest fewer less v (D.rely_refl t v) inv

theorem mono {p : Prog S ε α} {w : W} (run : Ensures D t Q limit p w)
    (weaker : ∀ outcome v, D.Inv v → Q outcome v → Q' outcome v) : Ensures D t Q' limit p w := by
  induction run with
  | ret post => exact .ret fun v rely inv => weaker _ v inv (post v rely inv)
  | raise post => exact .raise fun v rely inv => weaker _ v inv (post v rely inv)
  | call keeps _ ih => exact .call keeps ih
  | iter _ ih => exact .iter ih

/-- What neither the others nor the program's own operations make false stays true. -/
theorem frame {R : W → Prop} (stable : ∀ v w, D.Rely t v w → D.Inv w → R v → R w)
    (kept : ∀ v w, D.Guar t v w → R v → R w)
    {p : Prog S ε α} {w : W} (run : Ensures D t Q limit p w) (start : R w) :
    Ensures D t (fun outcome v => Q outcome v ∧ R v) limit p w := by
  induction run with
  | ret post => exact .ret fun v rely inv => ⟨post v rely inv, stable _ v rely inv start⟩
  | raise post => exact .raise fun v rely inv => ⟨post v rely inv, stable _ v rely inv start⟩
  | call keeps _ ih =>
    refine .call keeps fun v rely inv answer u step => ih v rely inv answer u step ?_
    exact kept v u (keeps v rely inv answer u step).2 (stable _ v rely inv start)
  | iter _ ih => exact .iter fun fewer less v rely inv => ih fewer less v rely inv (stable _ v rely inv start)

theorem lower {p : Prog S ε α} {w : W} (run : Ensures D t Q limit p w) {fewer : Option Nat}
    (within : Within fewer limit) : Ensures D t Q fewer p w := by
  induction run generalizing fewer with
  | ret post => exact .ret post
  | raise post => exact .raise post
  | call keeps _ ih => exact .call keeps fun v rely inv answer u step => ih v rely inv answer u step within
  | iter _ ih =>
    refine .iter fun rest less v rely inv => ?_
    obtain ⟨middle, less', within'⟩ := within.fewer less
    exact ih middle less' v rely inv within'

/-- The outcome of a first program passed on: its value to the rest, its exception to the caller. -/
def Then (D : Discipline S ε W T) (t : T) (Q : Except ε β → W → Prop) (limit : Option Nat) (f : α → Prog S ε β) :
    Except ε α → W → Prop
  | .ok value, w => Ensures D t Q limit (f value) w
  | .error exn, w => Q (.error exn) w

theorem bind_within {Q : Except ε β → W → Prop} {p : Prog S ε α} {f : α → Prog S ε β} {w : W} {all : Option Nat}
    (run : Ensures D t (Then D t Q all f) limit p w) (within : Within limit all) :
    Ensures D t Q limit (p.bind f) w := by
  induction run with
  | ret post => exact of_rely fun v rely inv => (post v rely inv : Ensures D t Q all _ v).lower within
  | raise post => exact .raise post
  | call keeps _ ih => exact .call keeps fun v rely inv answer u step => ih v rely inv answer u step within
  | @iter limit γ w body next _ ih =>
    refine .iter fun fewer less v rely inv => ?_
    have rest := ih fewer less v rely inv (less.within.trans within)
    rw [Prog.bind_assoc] at rest
    simpa only [Prog.again_bind] using rest

theorem bind {Q : Except ε β → W → Prop} {p : Prog S ε α} {f : α → Prog S ε β} {w : W}
    (run : Ensures D t (Then D t Q limit f) limit p w) : Ensures D t Q limit (p.bind f) w :=
  bind_within run (Within.refl limit)

theorem attempt_again {body : Prog S ε (Unit ⊕ β)} {next : β → Prog S ε α} :
    (body.attempt.bind .leave).bind
      (.again (body.attempt.bind .leave) (.resume fun value => (next value).attempt)) =
      (body.bind (.again body next)).attempt := by
  rw [Prog.bind_assoc, Prog.attempt_bind]
  congr 1
  funext outcome
  rcases outcome with _ | ⟨⟨⟩⟩ | _ <;> rfl

theorem attempt {Q : Except ε (Except ε α) → W → Prop} {p : Prog S ε α} {w : W}
    (run : Ensures D t (fun outcome => Q (.ok outcome)) limit p w) : Ensures D t Q limit p.attempt w := by
  induction run with
  | ret post => exact .ret post
  | raise post => exact .ret post
  | call keeps _ ih => exact .call keeps ih
  | @iter limit β w body next _ ih =>
    rw [Prog.attempt]
    refine .iter fun fewer less v rely inv => ?_
    rw [attempt_again]
    exact ih fewer less v rely inv

theorem onError {p : Prog S ε α} {handler : ε → Prog S ε α} {w : W}
    (run : Ensures D t (fun
      | .ok value, v => ∀ u, D.Rely t v u → D.Inv u → Q (.ok value) u
      | .error exn, v => Ensures D t Q limit (handler exn) v) limit p w) :
    Ensures D t Q limit (p.onError handler) w := by
  refine bind (attempt (mono run fun outcome v _ post => ?_))
  cases outcome with
  | ok value => exact .ret post
  | error exn => exact post

theorem finally_ {p : Prog S ε α} {last : Prog S ε Unit} {w : W}
    (run : Ensures D t (fun outcome v => Ensures D t (fun
      | .ok (), u => ∀ x, D.Rely t u x → D.Inv x → Q outcome x
      | .error exn, u => Q (.error exn) u) limit last v) limit p w) :
    Ensures D t Q limit (p.finally_ last) w := by
  refine bind (attempt (mono run fun outcome v _ post => ?_))
  refine bind (mono post fun ended u _ after => ?_)
  cases ended with
  | error exn => exact after
  | ok _ =>
    cases outcome with
    | ok value => exact .ret after
    | error exn => exact .raise after

/-- One operation: every way it can go keeps the discipline and reaches `Q`. -/
theorem perform {op : S.Op} {Q : Except ε (S.Ans op) → W → Prop} {w : W}
    (keeps : ∀ v, D.Rely t w v → D.Inv v → ∀ answer u, D.Step t op v answer u →
      D.Inv u ∧ D.Guar t v u ∧ ∀ x, D.Rely t u x → D.Inv x → Q answer x) :
    Ensures D t Q limit (Prog.perform op) w := by
  refine .call (fun v rely inv answer u step => ?_) (fun v rely inv answer u step => ?_)
  · obtain ⟨held, guar, _⟩ := keeps v rely inv answer u step
    exact ⟨held, guar⟩
  · obtain ⟨_, _, post⟩ := keeps v rely inv answer u step
    cases answer with
    | ok value => exact .ret post
    | error exn => exact .raise post

/-- What a round of a loop leaves: a world from which it goes on, with a lower bound when all rounds are
to be followed, or the way out. -/
def Round (D : Discipline S ε W T) (t : T) (Q : Except ε α → W → Prop) (limit : Option Nat)
    (next : β → Prog S ε α) (I : Nat → W → Prop) (bound : Nat) : Except ε (Unit ⊕ β) → W → Prop
  | .ok (.inl ()), w => ∃ lower, I lower w ∧ (limit = none → lower < bound)
  | .ok (.inr value), w => Ensures D t Q limit (next value) w
  | .error exn, w => Q (.error exn) w

theorem round_again {body : Prog S ε (Unit ⊕ β)} {next : β → Prog S ε α} {I : Nat → W → Prop} {bound : Nat} {w : W}
    {fewer : Option Nat} (within : Within fewer limit)
    (round : Ensures D t (Round D t Q limit next I bound) limit body w)
    (again : ∀ lower v, I lower v → (limit = none → lower < bound) → Ensures D t Q fewer (.iter body next) v) :
    Ensures D t Q fewer (body.bind (.again body next)) w := by
  refine bind (mono (round.lower within) fun outcome v _ after => ?_)
  match outcome, after with
  | .ok (.inl ()), ⟨lower, held, less⟩ => exact again lower v held less
  | .ok (.inr _), run => exact run.lower within
  | .error _, post => exact post

/-- A loop with an invariant; when it is followed to its end, its rounds lower a bound. -/
theorem iter_of_bound {body : Prog S ε (Unit ⊕ β)} {next : β → Prog S ε α} (I : Nat → W → Prop)
    (round : ∀ bound w, I bound w → Ensures D t (Round D t Q limit next I bound) limit body w)
    {bound : Nat} {w : W} (start : I bound w) : Ensures D t Q limit (.iter body next) w := by
  cases limit with
  | none =>
    induction bound using Nat.strongRecOn generalizing w with
    | ind bound ih =>
      refine .iter fun fewer less v rely _ => ?_
      cases less with
      | all =>
        exact round_again (Within.refl none) ((round bound w start).stable rely) fun lower u held less =>
          ih lower (less rfl) held
  | some n =>
    suffices followed : ∀ m ≤ n, ∀ bound w, I bound w → Ensures D t Q (some m) (.iter body next) w from
      followed n (Nat.le_refl n) bound w start
    intro m
    induction m with
    | zero =>
      refine fun _ bound w _ => .iter fun fewer less => ?_
      cases less
    | succ m ih =>
      refine fun below bound w held => .iter fun fewer less v rely _ => ?_
      cases less with
      | one =>
        have within : Within (some m) (some n) := Nat.le_of_succ_le below
        exact round_again within ((round bound w held).stable rely) fun lower u held _ =>
          ih (Nat.le_of_succ_le below) lower u held

/-- `for` over a list, with an invariant on what is left of it. -/
theorem forEach {f : α → Prog S ε Unit} {Q : Except ε Unit → W → Prop} (I : List α → W → Prop)
    (round : ∀ x xs w, I (x :: xs) w → Ensures D t (fun
      | .ok (), v => I xs v
      | .error exn, v => Q (.error exn) v) limit (f x) w)
    (done : ∀ w, I [] w → Ensures D t Q limit (.ret ()) w) {xs : List α} {w : W} (start : I xs w) :
    Ensures D t Q limit (Prog.forEach xs f) w := by
  induction xs generalizing w with
  | nil => exact done w start
  | cons x xs ih =>
    refine bind (mono (round x xs w start) fun outcome v _ after => ?_)
    cases outcome with
    | ok _ => exact ih after
    | error exn => exact after

end Ensures
end Interaction
