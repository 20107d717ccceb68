import Vdba.Interaction.Triple

namespace Interaction
variable {S : Iface} {ε W T : Type} {α β : Type} {φ : S.Op → Prop}

/-- Every operation the program may perform is as `φ` says, whatever it is answered. -/
def Prog.All (φ : S.Op → Prop) {α : Type} : Prog S ε α → Prop
  | .ret _ => True
  | .raise _ => True
  | .call op next => φ op ∧ ∀ answer, (next answer).All φ
  | .iter body next => body.All φ ∧ ∀ value, (next value).All φ

namespace Prog.All

theorem bind {p : Prog S ε α} {f : α → Prog S ε β} (first : p.All φ) (rest : ∀ value, (f value).All φ) :
    (p.bind f).All φ := by
  induction p with
  | ret value => exact rest value
  | raise => trivial
  | call op next ih => exact ⟨first.1, fun answer => ih answer (first.2 answer) rest⟩
  | iter body next _ ih => exact ⟨first.1, fun value => ih value (first.2 value) rest⟩

theorem attempt {p : Prog S ε α} (all : p.All φ) : p.attempt.All φ := by
  induction p with
  | ret => trivial
  | raise => trivial
  | call op next ih => exact ⟨all.1, fun answer => ih answer (all.2 answer)⟩
  | iter body next ihBody ih =>
    refine ⟨(ihBody all.1).bind fun outcome => ?_, fun outcome => ?_⟩
    · rcases outcome with _ | ⟨⟨⟩⟩ | _ <;> trivial
    · cases outcome with
      | ok value => exact ih value (all.2 value)
      | error exn => trivial

theorem onError {p : Prog S ε α} {handler : ε → Prog S ε α} (all : p.All φ) (handled : ∀ exn, (handler exn).All φ) :
    (p.onError handler).All φ := by
  refine all.attempt.bind fun outcome => ?_
  cases outcome with
  | ok value => trivial
  | error exn => exact handled exn

theorem ofExcept (outcome : Except ε α) : (Prog.ofExcept outcome : Prog S ε α).All φ := by
  cases outcome <;> trivial

theorem cond {c : Prop} [Decidable c] {p q : Prog S ε α} (yes : p.All φ) (no : q.All φ) :
    (if c then p else q).All φ := by
  split
  · exact yes
  · exact no

theorem finally_ {p : Prog S ε α} {last : Prog S ε Unit} (all : p.All φ) (ended : last.All φ) :
    (p.finally_ last).All φ :=
  all.attempt.bind fun outcome => ended.bind fun _ => ofExcept outcome

theorem perform {op : S.Op} (holds : φ op) : (Prog.perform op : Prog S ε (S.Ans op)).All φ := by
  refine ⟨holds, fun answer => ?_⟩
  cases answer <;> trivial

theorem forEach {xs : List α} {f : α → Prog S ε Unit} (all : ∀ x ∈ xs, (f x).All φ) : (Prog.forEach xs f).All φ := by
  induction xs with
  | nil => trivial
  | cons x xs ih =>
    exact (all x List.mem_cons_self).bind fun _ => ih fun y member => all y (List.mem_cons_of_mem x member)

theorem while_ {cond : Prog S ε Bool} {body : Prog S ε Unit} (test : cond.All φ) (round : body.All φ) :
    (Prog.while_ cond body).All φ := by
  refine ⟨test.bind fun holds => ?_, fun _ => trivial⟩
  split
  · exact round.bind fun _ => trivial
  · trivial

theorem mono {ψ : S.Op → Prop} {p : Prog S ε α} (all : p.All φ) (weaker : ∀ op, φ op → ψ op) : p.All ψ := by
  induction p with
  | ret => trivial
  | raise => trivial
  | call op next ih => exact ⟨weaker op all.1, fun answer => ih answer (all.2 answer)⟩
  | iter body next ihBody ih => exact ⟨ihBody all.1, fun value => ih value (all.2 value)⟩

end Prog.All

/-- Code that starts and leaves with the same assertion, with a value or with an exception. -/
def Keeping (D : Discipline S ε W T) (t : T) (limit : Option Nat) (P : W → Prop) {α : Type} (p : Prog S ε α) : Prop :=
  Triple D t limit P p (fun _ => P) fun _ => P

namespace Keeping
variable {D : Discipline S ε W T} {t : T} {limit : Option Nat} {P : W → Prop} {p : Prog S ε α}

theorem ret (stable : Stable D t P) (value : α) : Keeping D t limit P (.ret value) :=
    Triple.ret stable fun _ held => held

theorem raise (stable : Stable D t P) (exn : ε) : Keeping D t limit P (.raise exn : Prog S ε α) :=
  Triple.raise stable fun _ held => held

theorem bind {f : α → Prog S ε β} (first : Keeping D t limit P p) (rest : ∀ value, Keeping D t limit P (f value)) :
    Keeping D t limit P (p.bind f) := Triple.bind first rest

theorem onError {handler : ε → Prog S ε α} (stable : Stable D t P) (first : Keeping D t limit P p)
    (handled : ∀ exn, Keeping D t limit P (handler exn)) : Keeping D t limit P (p.onError handler) :=
  Triple.onError first (fun _ => stable) handled

theorem attempt {f : Except ε α → Prog S ε β} (first : Keeping D t limit P p)
    (rest : ∀ outcome, Keeping D t limit P (f outcome)) : Keeping D t limit P (p.attempt.bind f) :=
  Triple.attempt first (fun value => rest (.ok value)) fun exn => rest (.error exn)

theorem forEach {xs : List α} {f : α → Prog S ε Unit} (stable : Stable D t P)
    (round : ∀ x, Keeping D t limit P (f x)) : Keeping D t limit P (Prog.forEach xs f) :=
  Triple.forEach (X := fun _ => P) (fun _ => P) stable fun x _ _ => round x

theorem while_ {n : Nat} {cond : Prog S ε Bool} {body : Prog S ε Unit} (stable : Stable D t P)
    (test : Keeping D t (some n) P cond) (round : Keeping D t (some n) P body) :
    Keeping D t (some n) P (Prog.while_ cond body) := by
  refine Triple.while_ (fun _ => P) (fun _ => P) stable (fun _ => stable) (fun _ => ?_) (fun _ => ?_) 0
  · exact test.mono (fun _ held => held) (fun more w _ held => by split <;> exact held) fun _ _ _ held => held
  · exact round.mono (fun _ held => held) (fun _ w _ held => ⟨0, held, fun none => by cases none⟩) fun _ _ _ held => held

theorem ofExcept (stable : Stable D t P) (outcome : Except ε α) : Keeping D t limit P (Prog.ofExcept outcome) := by
  cases outcome with
  | ok value => exact ret stable value
  | error exn => exact raise stable exn

/-- What every operation of the program keeps, the program keeps. -/
theorem of_all {n : Nat} (stable : Stable D t P) (all : p.All φ)
    (step : ∀ op, φ op → ∀ v, P v → D.Inv v → ∀ answer u, D.Step t op v answer u → D.Inv u ∧ D.Guar t v u ∧ P u) :
    Keeping D t (some n) P p := by
  induction p with
  | ret value => exact ret stable value
  | raise exn => exact raise stable exn
  | call op next ih =>
    intro w start
    refine .call (fun v rely inv answer u stepped => ?_) fun v rely inv answer u stepped => ?_
    · obtain ⟨inv', guar, -⟩ := step op all.1 v (stable w v rely inv start) inv answer u stepped
      exact ⟨inv', guar⟩
    · obtain ⟨-, -, held⟩ := step op all.1 v (stable w v rely inv start) inv answer u stepped
      exact ih answer (all.2 answer) u held
  | iter body next ihBody ih =>
    intro w start
    refine Ensures.iter_of_bound (fun bound w => bound = 0 ∧ P w) (fun bound w held => ?_) ⟨rfl, start⟩
    refine (ihBody all.1 w held.2).mono fun outcome v _ post => ?_
    rcases outcome with exn | ⟨⟨⟩⟩ | value
    · exact post
    · exact ⟨0, ⟨rfl, post⟩, fun none => by cases none⟩
    · exact ih value (all.2 value) v post

end Keeping
end Interaction
