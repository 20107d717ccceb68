import Vdba.Interaction.Ensures

namespace Interaction
variable {S : Iface} {ε W T : Type}

/-- From every world in `P`, the program leaves with a value as `E` says or with an exception as `X` says. -/
def Triple (D : Discipline S ε W T) (t : T) (limit : Option Nat) (P : W → Prop) {α : Type} (p : Prog S ε α)
    (E : α → W → Prop) (X : ε → W → Prop) : Prop :=
  ∀ w, P w → Ensures D t (fun
    | .ok value, v => E value v
    | .error exn, v => X exn v) limit p w

/-- The others do not make the assertion false. -/
def Stable (D : Discipline S ε W T) (t : T) (P : W → Prop) : Prop := ∀ v w, D.Rely t v w → D.Inv w → P v → P w

namespace Triple
variable {D : Discipline S ε W T} {t : T} {limit : Option Nat} {α β : Type} {P P' : W → Prop} {p : Prog S ε α}
  {E E' : α → W → Prop} {X X' : ε → W → Prop}

theorem ret {value : α} (stable : Stable D t P) (post : ∀ w, P w → E value w) :
    Triple D t limit P (.ret value) E X :=
  fun _ start => .ret fun v rely inv => post v (stable _ v rely inv start)

theorem raise {exn : ε} (stable : Stable D t P) (post : ∀ w, P w → X exn w) :
    Triple D t limit P (.raise exn : Prog S ε α) E X :=
  fun _ start => .raise fun v rely inv => post v (stable _ v rely inv start)

theorem bind {F : β → W → Prop} {f : α → Prog S ε β} (first : Triple D t limit P p E X)
    (rest : ∀ value, Triple D t limit (E value) (f value) F X) : Triple D t limit P (p.bind f) F X := by
  intro w start
  refine Ensures.bind ((first w start).mono fun outcome v _ post => ?_)
  cases outcome with
  | ok value => exact rest value v post
  | error exn => exact post

theorem mono (run : Triple D t limit P p E X) (pre : ∀ w, P' w → P w)
    (value : ∀ a w, D.Inv w → E a w → E' a w) (exn : ∀ e w, D.Inv w → X e w → X' e w) :
    Triple D t limit P' p E' X' := by
  intro w start
  refine (run w (pre w start)).mono fun outcome v inv post => ?_
  cases outcome with
  | ok a => exact value a v inv post
  | error e => exact exn e v inv post

theorem pre (run : Triple D t limit P p E X) (stronger : ∀ w, P' w → P w) : Triple D t limit P' p E X :=
  fun w start => run w (stronger w start)

/-- An assertion that no step makes false is carried along. -/
theorem frame {R : W → Prop} (run : Triple D t limit P p E X) (stable : Stable D t R)
    (kept : ∀ v w, D.Guar t v w → R v → R w) :
    Triple D t limit (fun w => P w ∧ R w) p (fun a w => E a w ∧ R w) (fun e w => X e w ∧ R w) := by
  rintro w ⟨start, holds⟩
  refine (Ensures.frame stable kept (run w start) holds).mono fun outcome v _ post => ?_
  cases outcome with
  | ok a => exact post
  | error e => exact post

/-- What holds of the world at the first step may be used, with the invariant. -/
theorem of_inv (stable : Stable D t P) (run : Triple D t limit (fun w => P w ∧ D.Inv w) p E X) :
    Triple D t limit P p E X :=
  fun w start => Ensures.of_rely fun v rely inv => run v ⟨stable w v rely inv start, inv⟩

theorem of_forall {ι : Type} {R : ι → W → Prop} (run : ∀ i, Triple D t limit (R i) p E X) :
    Triple D t limit (fun w => ∃ i, R i w) p E X := by
  rintro w ⟨i, start⟩
  exact run i w start

theorem of_fact {fact : Prop} (run : fact → Triple D t limit P p E X) :
    Triple D t limit (fun w => fact ∧ P w) p E X := by
  rintro w ⟨holds, start⟩
  exact run holds w start

theorem onError {handler : ε → Prog S ε α} (first : Triple D t limit P p E X)
    (stable : ∀ a, Stable D t (E a)) (handled : ∀ exn, Triple D t limit (X exn) (handler exn) E X') :
    Triple D t limit P (p.onError handler) E X' := by
  intro w start
  refine Ensures.onError ((first w start).mono fun outcome v _ post => ?_)
  cases outcome with
  | ok value => exact fun u rely inv => stable value v u rely inv post
  | error exn => exact handled exn v post

theorem attempt {f : Except ε α → Prog S ε β} {F : β → W → Prop} (first : Triple D t limit P p E X)
    (value : ∀ a, Triple D t limit (E a) (f (.ok a)) F X') (exn : ∀ e, Triple D t limit (X e) (f (.error e)) F X') :
    Triple D t limit P (p.attempt.bind f) F X' := by
  intro w start
  refine Ensures.bind (Ensures.attempt ((first w start).mono fun outcome v _ post => ?_))
  cases outcome with
  | ok a => exact value a v post
  | error e => exact exn e v post

/-- `last` ends what `p` left in any way. -/
theorem finally_ {last : Prog S ε Unit} (first : Triple D t limit P p E X)
    (value : ∀ a, Triple D t limit (E a) last (fun _ => E' a) X') (exn : ∀ e, Triple D t limit (X e) last (fun _ => X' e) X')
    (stable : ∀ a, Stable D t (E' a)) (stableX : ∀ e, Stable D t (X' e)) :
    Triple D t limit P (p.finally_ last) E' X' := by
  intro w start
  refine Ensures.finally_ ((first w start).mono fun outcome v _ post => ?_)
  cases outcome with
  | ok a =>
    refine (value a v post).mono fun ended u _ after => ?_
    cases ended with
    | ok _ => exact fun x rely inv => stable a u x rely inv after
    | error e => exact after
  | error e =>
    refine (exn e v post).mono fun ended u _ after => ?_
    cases ended with
    | ok _ => exact fun x rely inv => stableX e u x rely inv after
    | error e => exact after

/-- One operation. -/
theorem perform {op : S.Op} {E : S.Ans op → W → Prop} (stable : Stable D t P)
    (stableE : ∀ a, Stable D t (E a)) (stableX : ∀ e, Stable D t (X e))
    (step : ∀ v, P v → D.Inv v → ∀ answer u, D.Step t op v answer u → D.Inv u ∧ D.Guar t v u ∧
      match answer with
      | .ok a => E a u
      | .error e => X e u) : Triple D t limit P (Prog.perform op) E X := by
  intro w start
  refine Ensures.perform fun v rely inv answer u stepped => ?_
  obtain ⟨inv', guar, post⟩ := step v (stable w v rely inv start) inv answer u stepped
  refine ⟨inv', guar, fun x rely inv => ?_⟩
  cases answer with
  | ok a => exact stableE a u x rely inv post
  | error e => exact stableX e u x rely inv post

/-- `for` over a list, with an assertion on what is left of it. -/
theorem forEach {f : α → Prog S ε Unit} (I : List α → W → Prop) {xs : List α} (stable : Stable D t (I []))
    (round : ∀ x rest, (∃ before, xs = before ++ x :: rest) → Triple D t limit (I (x :: rest)) (f x) (fun _ => I rest) X) :
    Triple D t limit (I xs) (Prog.forEach xs f) (fun _ => I []) X := by
  induction xs with
  | nil => exact ret stable fun _ held => held
  | cons x xs ih =>
    refine bind (round x xs ⟨[], rfl⟩) fun _ => ih fun y rest split => ?_
    obtain ⟨before, rfl⟩ := split
    exact round y rest ⟨x :: before, rfl⟩

/-- A loop whose rounds keep an assertion, and lower its bound when they are all to be followed. -/
theorem while_ {cond : Prog S ε Bool} {body : Prog S ε Unit} (I B : Nat → W → Prop) {E : Unit → W → Prop}
    (stable : Stable D t (E ())) (stableI : ∀ n, Stable D t (I n))
    (tested : ∀ bound, Triple D t limit (I bound) cond (fun more w => if more = true then B bound w else E () w) X)
    (round : ∀ bound, Triple D t limit (B bound) body
      (fun _ w => ∃ lower, I lower w ∧ (limit = none → lower < bound)) X) (bound : Nat) :
    Triple D t limit (I bound) (Prog.while_ cond body) E X := by
  intro w start
  refine Ensures.iter_of_bound I (fun bound w held => ?_) start
  refine Ensures.bind ((tested bound w held).mono fun outcome v _ post => ?_)
  cases outcome with
  | error e => exact post
  | ok more =>
    cases more with
    | false => exact .ret fun u rely inv => .ret fun x rely' inv' => stable u x rely' inv' (stable v u rely inv post)
    | true =>
      refine Ensures.bind ((round bound v post).mono fun outcome u _ after => ?_)
      cases outcome with
      | error e => exact after
      | ok _ =>
        obtain ⟨lower, held, less⟩ := after
        exact .ret fun x rely inv => ⟨lower, stableI lower u x rely inv held, less⟩

end Triple
end Interaction
