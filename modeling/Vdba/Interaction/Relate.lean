import Mathlib.Data.Sum.Basic
import Mathlib.Data.Option.Basic
import Vdba.Interaction.Pool

namespace Interaction
variable {S : Iface} {ε W T C E N : Type} {α α' β β' : Type}

/-- The calls that two runs make side by side, with the values of their answers that are taken for alike. -/
structure Pairing (S : Iface) where
  Pair : Type
  left : Pair → S.Op
  right : Pair → S.Op
  values : (k : Pair) → S.Ans (left k) → S.Ans (right k) → Prop

/-- Outcomes that are alike: related values, or one exception. -/
inductive Outcomes (R : α → α' → Prop) : Except ε α → Except ε α' → Prop
  | ok {a : α} {a' : α'} : R a a' → Outcomes R (.ok a) (.ok a')
  | error (exn : ε) : Outcomes R (.error exn) (.error exn)

theorem Outcomes.same (outcome : Except ε α) : Outcomes Eq outcome outcome := by
  cases outcome with
  | ok value => exact .ok rfl
  | error exn => exact .error exn

/-- Two programs that go the same way as long as their calls get answers that are alike, and then return
values related by `R`. -/
inductive Paired (L : Pairing S) : {α α' : Type} → (α → α' → Prop) → Prog S ε α → Prog S ε α' → Prop
  | ret {α α' : Type} {R : α → α' → Prop} {a : α} {a' : α'} : R a a' → Paired L R (.ret a) (.ret a')
  | raise {α α' : Type} {R : α → α' → Prop} (exn : ε) : Paired L R (.raise exn) (.raise exn)
  | call {α α' : Type} {R : α → α' → Prop} (k : L.Pair) {next : Except ε (S.Ans (L.left k)) → Prog S ε α}
      {next' : Except ε (S.Ans (L.right k)) → Prog S ε α'} :
      (∀ x x', Outcomes (L.values k) x x' → Paired L R (next x) (next' x')) →
      Paired L R (.call (L.left k) next) (.call (L.right k) next')
  | iter {α α' β β' : Type} {R : α → α' → Prop} (Q : β → β' → Prop) {body : Prog S ε (Unit ⊕ β)}
      {body' : Prog S ε (Unit ⊕ β')} {next : β → Prog S ε α} {next' : β' → Prog S ε α'} :
      Paired L (Sum.LiftRel Eq Q) body body' → (∀ b b', Q b b' → Paired L R (next b) (next' b')) →
      Paired L R (.iter body next) (.iter body' next')

namespace Paired
variable {L : Pairing S} {R : α → α' → Prop} {Q : β → β' → Prop} {p : Prog S ε α} {p' : Prog S ε α'}

theorem bind {f : α → Prog S ε β} {f' : α' → Prog S ε β'} (first : Paired L R p p')
    (rest : ∀ a a', R a a' → Paired L Q (f a) (f' a')) : Paired L Q (p.bind f) (p'.bind f') := by
  induction first with
  | ret related => exact rest _ _ related
  | raise exn => exact .raise exn
  | call k _ ih => exact .call k fun x x' outcomes => ih x x' outcomes rest
  | iter Q' round _ _ ih => exact .iter Q' round fun b b' related => ih b b' related rest

theorem mono {R' : α → α' → Prop} (related : Paired L R p p') (weaker : ∀ a a', R a a' → R' a a') :
    Paired L R' p p' := by
  induction related with
  | ret related => exact .ret (weaker _ _ related)
  | raise exn => exact .raise exn
  | call k _ ih => exact .call k fun x x' outcomes => ih x x' outcomes weaker
  | iter Q' round _ _ ih => exact .iter Q' round fun b b' related => ih b b' related weaker

/-- The rest of a program depends on a value that both runs have. -/
theorem next {p p' : Prog S ε α} {f : α → Prog S ε β} {f' : α → Prog S ε β'} (first : Paired L Eq p p')
    (rest : ∀ a, Paired L Q (f a) (f' a)) : Paired L Q (p.bind f) (p'.bind f') :=
  first.bind fun a _ same => same ▸ rest a

/-- A further round of two loops, or what comes after them. -/
theorem again {body : Prog S ε (Unit ⊕ β)} {body' : Prog S ε (Unit ⊕ β')} {next : β → Prog S ε α}
    {next' : β' → Prog S ε α'} (round : Paired L (Sum.LiftRel Eq Q) body body')
    (rest : ∀ b b', Q b b' → Paired L R (next b) (next' b')) {x : Unit ⊕ β} {x' : Unit ⊕ β'}
    (related : Sum.LiftRel Eq Q x x') : Paired L R (.again body next x) (.again body' next' x') := by
  cases related with
  | inl => exact .iter Q round rest
  | inr related => exact rest _ _ related

theorem attempt (related : Paired L R p p') : Paired L (Outcomes R) p.attempt p'.attempt := by
  induction related with
  | ret related => exact .ret (.ok related)
  | raise exn => exact .ret (.error exn)
  | call k _ ih => exact .call k fun x x' outcomes => ih x x' outcomes
  | iter Q' _ _ ihRound ih =>
    refine .iter (Outcomes Q') (ihRound.bind fun x x' outcomes => ?_) fun x x' outcomes => ?_
    · cases outcomes with
      | error exn => exact .ret (.inr (.error exn))
      | ok related =>
        cases related with
        | inl => exact .ret (.inl rfl)
        | inr related => exact .ret (.inr (.ok related))
    · cases outcomes with
      | ok related => exact ih _ _ related
      | error exn => exact .ret (.error exn)

theorem onError {handler : ε → Prog S ε α} {handler' : ε → Prog S ε α'} (related : Paired L R p p')
    (handled : ∀ exn, Paired L R (handler exn) (handler' exn)) :
    Paired L R (p.onError handler) (p'.onError handler') := by
  refine related.attempt.bind fun x x' outcomes => ?_
  cases outcomes with
  | ok related => exact .ret related
  | error exn => exact handled exn

theorem ofExcept {x : Except ε α} {x' : Except ε α'} (outcomes : Outcomes R x x') :
    Paired L R (Prog.ofExcept x : Prog S ε α) (Prog.ofExcept x') := by
  cases outcomes with
  | ok related => exact .ret related
  | error exn => exact .raise exn

theorem finally_ {last last' : Prog S ε Unit} (related : Paired L R p p') (ended : Paired L Eq last last') :
    Paired L R (p.finally_ last) (p'.finally_ last') :=
  related.attempt.bind fun _ _ outcomes => ended.next fun _ => ofExcept outcomes

theorem perform (k : L.Pair) :
    Paired L (L.values k) (Prog.perform (L.left k) : Prog S ε _) (Prog.perform (L.right k)) := by
  refine .call k fun x x' outcomes => ?_
  cases outcomes with
  | ok related => exact .ret related
  | error exn => exact .raise exn

theorem forEach {xs : List α} {f f' : α → Prog S ε Unit} (round : ∀ x, Paired L Eq (f x) (f' x)) :
    Paired L Eq (Prog.forEach xs f) (Prog.forEach xs f') := by
  induction xs with
  | nil => exact .ret rfl
  | cons x xs ih => exact (round x).next fun _ => ih

theorem while_ {cond cond' : Prog S ε Bool} {body body' : Prog S ε Unit} (test : Paired L Eq cond cond')
    (round : Paired L Eq body body') : Paired L Eq (Prog.while_ cond body) (Prog.while_ cond' body') := by
  refine .iter Eq (test.next fun more => ?_) fun b b' same => same ▸ .ret rfl
  split
  · exact round.next fun _ => .ret (.inl rfl)
  · exact .ret (.inr rfl)

end Paired

/-- Two worlds, choices and events that are alike, with what an operation and the outside make of them. -/
structure Mirror (L : Pairing S) (M : Machine S ε W T C E) where
  worlds : W → W → Prop
  choices : S.Op → C → C → Prop
  events : E → E → Prop
  exec : ∀ {t k c c' w w' x x' v v'}, worlds w w' → choices (L.left k) c c' → M.exec t (L.left k) c w = some (x, v) →
    M.exec t (L.right k) c' w' = some (x', v') → Outcomes (L.values k) x x' ∧ worlds v v'
  env : ∀ {e e' w w' v v'}, worlds w w' → events e e' → M.env e w = some v → M.env e' w' = some v' → worlds v v'
  reset : ∀ {w w'}, worlds w w' → worlds (M.reset w) (M.reset w')

/-- Programs that are alike take steps that are alike. -/
theorem Paired.advance {L : Pairing S} {M : Machine S ε W T C E} (mirror : Mirror L M) {R : α → α' → Prop}
    {p q : Prog S ε α} {p' q' : Prog S ε α'} {t : T} {c c' : C} {w w' v v' : W} (related : Paired L R p p')
    (worlds : mirror.worlds w w') (choices : ∀ op next, p = .call op next → mirror.choices op c c')
    (advanced : p.advance M t c w = some (q, v)) (advanced' : p'.advance M t c' w' = some (q', v')) :
    Paired L R q q' ∧ mirror.worlds v v' := by
  cases related with
  | ret => cases advanced
  | raise => cases advanced
  | call k rest =>
    simp only [Prog.advance, Option.map_eq_some_iff, Prod.exists, Prod.mk.injEq] at advanced advanced'
    obtain ⟨x, v, executed, rfl, rfl⟩ := advanced
    obtain ⟨x', v', executed', rfl, rfl⟩ := advanced'
    obtain ⟨outcomes, after⟩ := mirror.exec worlds (choices _ _ rfl) executed executed'
    exact ⟨rest x x' outcomes, after⟩
  | iter Q round rest =>
    cases advanced
    cases advanced'
    exact ⟨round.bind fun x y related => again round rest related, worlds⟩

namespace Pool
variable [DecidableEq T] {L : Pairing S} {M : Machine S ε W T C E} {entry : T → N → Prog S ε Unit}

/-- Decisions that are alike, in a state of the first run. -/
inductive Labels (mirror : Mirror L M) (s : Pool S ε W T) : Label T C E N → Label T C E N → Prop
  | spawn (t : T) (name : N) : Labels mirror s (.spawn t name) (.spawn t name)
  | run (t : T) {c c' : C} :
      (∀ op next, s.threads t = some (.call op next) → mirror.choices op c c') → Labels mirror s (.run t c) (.run t c')
  | env {e e' : E} : mirror.events e e' → Labels mirror s (.env e) (.env e')
  | kill : Labels mirror s .kill .kill

/-- The states that two runs side by side lead to. -/
inductive Twins (mirror : Mirror L M) (entry : T → N → Prog S ε Unit) (start : Pool S ε W T) :
    Pool S ε W T → Pool S ε W T → Prop
  | start : Twins mirror entry start start start
  | next {s s' u u' label label'} : Twins mirror entry start s s' → Labels mirror s label label' →
      step M entry label s = some u → step M entry label' s' = some u' → Twins mirror entry start u u'

/-- The worlds are alike, and so are the threads one by one. -/
structure Mirrored (mirror : Mirror L M) (s s' : Pool S ε W T) : Prop where
  worlds : mirror.worlds s.world s'.world
  threads : ∀ t, Option.Rel (Paired L Eq) (s.threads t) (s'.threads t)

theorem setThread_rel {s s' : Pool S ε W T} {R : Prog S ε Unit → Prog S ε Unit → Prop} {p p' : Prog S ε Unit} {t : T}
    (threads : ∀ u, Option.Rel R (s.threads u) (s'.threads u)) (related : R p p') (u : T) :
    Option.Rel R (s.setThread t p u) (s'.setThread t p' u) := by
  unfold setThread
  split
  · exact .some related
  · exact threads u

theorem Mirrored.step {mirror : Mirror L M} {s s' u u' : Pool S ε W T} {label label' : Label T C E N}
    (mirrored : Mirrored mirror s s') (entries : ∀ t name, Paired L Eq (entry t name) (entry t name))
    (labels : Labels mirror s label label') (stepped : step M entry label s = some u)
    (stepped' : Pool.step M entry label' s' = some u') : Mirrored mirror u u' := by
  cases labels with
  | spawn t name =>
    have threads := mirrored.threads t
    unfold Pool.step at stepped stepped'
    cases at_t : s.threads t with
    | some p => simp only [at_t] at stepped; cases stepped
    | none =>
      cases at_t' : s'.threads t with
      | some p => simp only [at_t'] at stepped'; cases stepped'
      | none =>
        simp only [at_t, at_t', Option.some.injEq] at stepped stepped'
        subst stepped
        subst stepped'
        exact ⟨mirrored.worlds, setThread_rel mirrored.threads (entries t name)⟩
  | @run t c c' choices =>
    have threads := mirrored.threads t
    unfold Pool.step at stepped stepped'
    cases at_t : s.threads t with
    | none => simp only [at_t] at stepped; cases stepped
    | some p =>
      cases at_t' : s'.threads t with
      | none => simp only [at_t'] at stepped'; cases stepped'
      | some p' =>
        simp only [at_t, at_t', Option.map_eq_some_iff, Prod.exists] at stepped stepped'
        obtain ⟨q, v, advanced, rfl⟩ := stepped
        obtain ⟨q', v', advanced', rfl⟩ := stepped'
        rw [at_t, at_t'] at threads
        cases threads with
        | some related =>
          have pending (op : S.Op) (next : Except ε (S.Ans op) → Prog S ε Unit) (same : p = .call op next) :
              mirror.choices op c c' := choices op next (by rw [at_t, same])
          obtain ⟨related, worlds⟩ := related.advance mirror mirrored.worlds pending advanced advanced'
          exact ⟨worlds, setThread_rel mirrored.threads related⟩
  | env events =>
    obtain ⟨v, happened, rfl⟩ := Option.map_eq_some_iff.mp stepped
    obtain ⟨v', happened', rfl⟩ := Option.map_eq_some_iff.mp stepped'
    exact ⟨mirror.env mirrored.worlds events happened happened', mirrored.threads⟩
  | kill =>
    cases stepped
    cases stepped'
    exact ⟨mirror.reset mirrored.worlds, fun _ => .none⟩

/-- Two runs side by side stay alike. -/
theorem Twins.mirrored {mirror : Mirror L M} {start s s' : Pool S ε W T}
    (entries : ∀ t name, Paired L Eq (entry t name) (entry t name)) (alike : Mirrored mirror start start)
    (twins : Twins mirror entry start s s') : Mirrored mirror s s' := by
  induction twins with
  | start => exact alike
  | next _ labels stepped stepped' ih => exact ih.step entries labels stepped stepped'

end Pool
end Interaction
