import Vdba.Interaction.Path

namespace Interaction
variable {S : Iface} {ε W : Type} {α β : Type}

/-- What a sequence of exchanges makes of the world, with what one operation may answer and do. -/
inductive Happens (serves : (op : S.Op) → W → Except ε (S.Ans op) → W → Prop) : W → List (Exchange S ε) → W → Prop
  | done {w} : Happens serves w [] w
  | next {w v u op answer trace} : serves op w answer v → Happens serves v trace u →
      Happens serves w (⟨op, answer⟩ :: trace) u

/-- What holds if the program has ended: `E` of a value, `X` of an exception. -/
def Prog.Ends {α : Type} (E : α → W → Prop) (X : ε → W → Prop) : Prog S ε α → W → Prop
  | .ret value, w => E value w
  | .raise exn, w => X exn w
  | .call .., _ | .iter .., _ => True

/-- From a world in `P` on, the world is in `I` wherever the program is stopped, and as `E` or `X` says when it has
ended. -/
def Crash (serves : (op : S.Op) → W → Except ε (S.Ans op) → W → Prop) (I P : W → Prop) (p : Prog S ε α)
    (E : α → W → Prop) (X : ε → W → Prop) : Prop :=
  ∀ w, P w → ∀ trace q v, p.Path trace q → Happens serves w trace v → I v ∧ q.Ends E X v

theorem Happens.split {serves : (op : S.Op) → W → Except ε (S.Ans op) → W → Prop} {w u : W}
    {front back : List (Exchange S ε)} (happens : Happens serves w (front ++ back) u) :
    ∃ v, Happens serves w front v ∧ Happens serves v back u := by
  induction front generalizing w with
  | nil => exact ⟨w, .done, happens⟩
  | cons exchange front ih =>
    cases happens with
    | next served rest =>
      obtain ⟨v, first, last⟩ := ih rest
      exact ⟨v, .next served first, last⟩

namespace Crash
variable {serves : (op : S.Op) → W → Except ε (S.Ans op) → W → Prop} {I P P' : W → Prop} {p : Prog S ε α}
  {E E' : α → W → Prop} {X X' : ε → W → Prop}

theorem ret {value : α} (post : ∀ w, P w → I w ∧ E value w) : Crash serves I P (.ret value) E X := by
  intro w start trace q v path happens
  cases path
  cases happens
  exact post w start

theorem raise {exn : ε} (post : ∀ w, P w → I w ∧ X exn w) : Crash serves I P (.raise exn) E X := by
  intro w start trace q v path happens
  cases path
  cases happens
  exact post w start

theorem perform {op : S.Op} {E : S.Ans op → W → Prop} (before : ∀ w, P w → I w)
    (value : ∀ w answer v, P w → serves op w (.ok answer) v → I v ∧ E answer v)
    (error : ∀ w exn v, P w → serves op w (.error exn) v → I v ∧ X exn v) :
    Crash serves I P (Prog.perform op) E X := by
  intro w start trace q v path happens
  cases path with
  | here =>
    cases happens
    exact ⟨before w start, trivial⟩
  | @call _ _ answer rest _ path =>
    cases happens with
    | next served later =>
      cases answer with
      | ok answer =>
        cases path
        cases later
        exact value w answer _ start served
      | error exn =>
        cases path
        cases later
        exact error w exn _ start served

theorem bind {F : β → W → Prop} {f : α → Prog S ε β} (first : Crash serves I P p E X)
    (rest : ∀ value, Crash serves I (E value) (f value) F X) : Crash serves I P (p.bind f) F X := by
  intro w start trace r v path happens
  rcases Prog.Path.of_bind path with ⟨q, inside, rfl⟩ | ⟨value, front, back, rfl, before, after⟩
  · obtain ⟨within, ended⟩ := first w start trace q v inside happens
    cases q with
    | ret a => exact rest a v ended [] _ v .here .done
    | raise e => exact ⟨within, ended⟩
    | call op next => exact ⟨within, trivial⟩
    | iter body next => exact ⟨within, trivial⟩
  · obtain ⟨m, early, late⟩ := happens.split
    obtain ⟨-, returned⟩ := first w start front _ m before early
    exact rest value m returned back r v after late

theorem mono (run : Crash serves I P p E X) (pre : ∀ w, P' w → P w) (value : ∀ a w, E a w → E' a w)
    (exn : ∀ e w, X e w → X' e w) : Crash serves I P' p E' X' := by
  intro w start trace q v path happens
  obtain ⟨within, ended⟩ := run w (pre w start) trace q v path happens
  refine ⟨within, ?_⟩
  cases q with
  | ret a => exact value a v ended
  | raise e => exact exn e v ended
  | call op next => trivial
  | iter body next => trivial

/-- What holds after an outcome. -/
def outcomes (E : α → W → Prop) (X : ε → W → Prop) : Except ε α → W → Prop
  | .ok a => E a
  | .error e => X e

theorem attempt {f : Except ε α → Prog S ε β} {F : β → W → Prop} (first : Crash serves I P p E X)
    (value : ∀ a, Crash serves I (E a) (f (.ok a)) F X') (exn : ∀ e, Crash serves I (X e) (f (.error e)) F X') :
    Crash serves I P (p.attempt.bind f) F X' := by
  have attempted : Crash serves I P p.attempt (outcomes E X) X' := by
    intro w start trace r v path happens
    obtain ⟨q, inside, rfl⟩ := Prog.Path.of_attempt path
    obtain ⟨within, ended⟩ := first w start trace q v inside happens
    refine ⟨within, ?_⟩
    cases q with
    | ret a => exact ended
    | raise e => exact ended
    | call op next => trivial
    | iter body next => trivial
  refine bind attempted fun outcome => ?_
  cases outcome with
  | ok a => exact value a
  | error e => exact exn e

theorem onError {handler : ε → Prog S ε α} (first : Crash serves I P p E X) (inside : ∀ a w, E a w → I w)
    (handled : ∀ e, Crash serves I (X e) (handler e) E X') : Crash serves I P (p.onError handler) E X' :=
  attempt first (fun a => ret fun w post => ⟨inside a w post, post⟩) handled

/-- Operations that change nothing keep every assertion. -/
theorem of_all {φ : S.Op → Prop} (all : p.All φ) (quiet : ∀ op w answer v, φ op → serves op w answer v → v = w)
    (inside : ∀ w, P w → I w) : Crash serves I P p (fun _ => P) (fun _ => P) := by
  intro w start trace q v path happens
  have same : v = w := by
    have quiet_ : ∀ x ∈ trace, φ x.1 := all.of_path path
    clear path start
    induction happens with
    | done => rfl
    | next served _ ih =>
      rw [ih fun x member => quiet_ x (List.mem_cons_of_mem _ member)]
      exact quiet _ _ _ _ (quiet_ _ List.mem_cons_self) served
  subst same
  refine ⟨inside v start, ?_⟩
  cases q with
  | ret a => exact start
  | raise e => exact start
  | call op next => trivial
  | iter body next => trivial

theorem of_fact {fact : Prop} (run : fact → Crash serves I P p E X) : Crash serves I (fun w => fact ∧ P w) p E X :=
  fun w start => run start.1 w start.2

end Crash
end Interaction
