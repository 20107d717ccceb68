import Vdba.Interaction.All

namespace Interaction
variable {S : Iface} {ε W T : Type} {α : Type}

/-- The discipline where more is known of how operations go. -/
def Discipline.narrow (D : Discipline S ε W T) (known : (op : S.Op) → Except ε (S.Ans op) → Prop) :
    Discipline S ε W T :=
  { D with Step := fun t op v answer w => D.Step t op v answer w ∧ known op answer }

variable {D : Discipline S ε W T} {known : (op : S.Op) → Except ε (S.Ans op) → Prop} {t : T} {limit : Option Nat}
  {φ : S.Op → Prop}

theorem Ensures.narrow {Q : Except ε α → W → Prop} {p : Prog S ε α} {w : W} (run : Ensures D t Q limit p w) :
    Ensures (D.narrow known) t Q limit p w := by
  induction run with
  | ret post => exact .ret post
  | raise post => exact .raise post
  | call keeps _ ih =>
    exact .call (fun v rely inv answer u step => keeps v rely inv answer u step.1)
      fun v rely inv answer u step => ih v rely inv answer u step.1
  | iter _ ih => exact .iter ih

theorem Triple.narrow {P : W → Prop} {p : Prog S ε α} {E : α → W → Prop} {X : ε → W → Prop}
    (run : Triple D t limit P p E X) : Triple (D.narrow known) t limit P p E X :=
  fun w start => (run w start).narrow

theorem Prog.All.again {β : Type} {body : Prog S ε (Unit ⊕ β)} {next : β → Prog S ε α} (all : (Prog.iter body next).All φ) :
    (body.bind (.again body next)).All φ := by
  refine all.1.bind fun outcome => ?_
  rcases outcome with ⟨⟨⟩⟩ | value
  · exact all
  · exact all.2 value

/-- What the operations of the program and the others do not make false stays true. -/
theorem Ensures.frame_all {Q : Except ε α → W → Prop} {R : W → Prop} {p : Prog S ε α} {w : W} (stable : Stable D t R)
    (kept : ∀ op, φ op → ∀ v answer u, D.Inv v → D.Step t op v answer u → R v → R u) (all : p.All φ)
    (run : Ensures D t Q limit p w) (start : R w) : Ensures D t (fun outcome v => Q outcome v ∧ R v) limit p w := by
  induction run with
  | ret post => exact .ret fun v rely inv => ⟨post v rely inv, stable _ v rely inv start⟩
  | raise post => exact .raise fun v rely inv => ⟨post v rely inv, stable _ v rely inv start⟩
  | call keeps _ ih =>
    refine .call keeps fun v rely inv answer u step => ih v rely inv answer u step (all.2 answer) ?_
    exact kept _ all.1 v answer u inv step (stable _ v rely inv start)
  | iter _ ih =>
    exact .iter fun fewer less v rely inv => ih fewer less v rely inv all.again (stable _ v rely inv start)

theorem Triple.frame_all {P R : W → Prop} {p : Prog S ε α} {E : α → W → Prop} {X : ε → W → Prop}
    (run : Triple D t limit P p E X) (stable : Stable D t R)
    (kept : ∀ op, φ op → ∀ v answer u, D.Inv v → D.Step t op v answer u → R v → R u) (all : p.All φ) :
    Triple D t limit (fun w => P w ∧ R w) p (fun a w => E a w ∧ R w) (fun e w => X e w ∧ R w) := by
  rintro w ⟨start, holds⟩
  refine (Ensures.frame_all stable kept all (run w start) holds).mono fun outcome v _ post => ?_
  cases outcome with
  | ok a => exact post
  | error e => exact post

end Interaction
