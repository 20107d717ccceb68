import Mathlib.Algebra.GroupWithZero.Nat
import Vdba.Interaction.All

namespace Interaction
variable {S : Iface} {ε : Type} {α β : Type}

/-- An operation with its answer. -/
abbrev Exchange (S : Iface) (ε : Type) := Σ op : S.Op, Except ε (S.Ans op)

/-- The program performs the exchanges and is then where `q` is. -/
inductive Prog.Path {α : Type} : Prog S ε α → List (Exchange S ε) → Prog S ε α → Prop
  | here {p} : Path p [] p
  | call {op next answer trace q} : Path (next answer) trace q → Path (.call op next) (⟨op, answer⟩ :: trace) q
  | round {β : Type} {body : Prog S ε (Unit ⊕ β)} {next trace q} : Path (body.bind (.again body next)) trace q →
      Path (.iter body next) trace q

/-- A whole run of the program: its exchanges and its outcome. -/
def Prog.Runs (p : Prog S ε α) (trace : List (Exchange S ε)) (outcome : Except ε α) : Prop :=
  p.Path trace (.ofExcept outcome)

theorem Prog.round_bind {γ : Type} (body : Prog S ε (Unit ⊕ γ)) (next : γ → Prog S ε α) (f : α → Prog S ε β) :
    (body.bind (.again body next)).bind f = body.bind (.again body fun value => (next value).bind f) := by
  rw [Prog.bind_assoc]
  congr 1
  funext value
  exact Prog.again_bind body next f value

namespace Prog.Path
variable {p q : Prog S ε α} {trace : List (Exchange S ε)}

/-- A path through a sequence is in its first part, or has been through it. -/
theorem of_bind {f : α → Prog S ε β} {r : Prog S ε β} (path : (p.bind f).Path trace r) :
    (∃ q, p.Path trace q ∧ r = q.bind f) ∨
    ∃ value first rest, trace = first ++ rest ∧ p.Path first (.ret value) ∧ (f value).Path rest r := by
  generalize whole : p.bind f = start at path
  induction path generalizing p with
  | here =>
    subst whole
    exact Or.inl ⟨p, .here, rfl⟩
  | @call op next answer trace r path ih =>
    cases p with
    | ret value =>
      have there : (f value).Path (⟨op, answer⟩ :: trace) r := by
        rw [show f value = _ from whole]
        exact .call path
      exact Or.inr ⟨value, [], _, rfl, .here, there⟩
    | raise exn => cases whole
    | call op' next' =>
      cases whole
      rcases ih rfl with ⟨q, inside, same⟩ | ⟨value, first, rest, rfl, before, after⟩
      · exact Or.inl ⟨q, .call inside, same⟩
      · exact Or.inr ⟨value, _ :: first, rest, rfl, .call before, after⟩
    | iter body next' => cases whole
  | @round γ body next trace r path ih =>
    cases p with
    | ret value =>
      have there : (f value).Path trace r := by
        rw [show f value = _ from whole]
        exact .round path
      exact Or.inr ⟨value, [], _, rfl, .here, there⟩
    | raise exn => cases whole
    | call op' next' => cases whole
    | iter body' next' =>
      cases whole
      rcases ih (round_bind body next' f) with ⟨q, inside, same⟩ | ⟨value, first, rest, split, before, after⟩
      · exact Or.inl ⟨q, .round inside, same⟩
      · exact Or.inr ⟨value, first, rest, split, .round before, after⟩

/-- A path through a program whose outcome is kept is one through the program. -/
theorem of_attempt {r : Prog S ε (Except ε α)} (path : p.attempt.Path trace r) :
    ∃ q, p.Path trace q ∧ r = q.attempt := by
  generalize whole : p.attempt = start at path
  induction path generalizing p with
  | here =>
    subst whole
    exact ⟨p, .here, rfl⟩
  | call path ih =>
    cases p with
    | ret value => cases whole
    | raise exn => cases whole
    | iter body next => cases whole
    | call op next =>
      cases whole
      obtain ⟨q, inside, same⟩ := ih rfl
      exact ⟨q, .call inside, same⟩
  | round path ih =>
    cases p with
    | ret value => cases whole
    | raise exn => cases whole
    | call op next => cases whole
    | iter body next =>
      cases whole
      obtain ⟨q, inside, same⟩ := ih Ensures.attempt_again.symm
      exact ⟨q, .round inside, same⟩

theorem bind (path : p.Path trace q) (f : α → Prog S ε β) : (p.bind f).Path trace (q.bind f) := by
  induction path with
  | here => exact .here
  | call _ ih => exact .call ih
  | round _ ih =>
    refine .round ?_
    rw [← round_bind]
    exact ih

theorem perform_bind {op : S.Op} {value : S.Ans op} {f : S.Ans op → Prog S ε α} (after : (f value).Path trace q) :
    ((Prog.perform op).bind f).Path (⟨op, .ok value⟩ :: trace) q :=
  .call after

theorem attempt (path : p.Path trace q) : p.attempt.Path trace q.attempt := by
  induction path with
  | here => exact .here
  | call _ ih => exact .call ih
  | round _ ih =>
    refine .round ?_
    rw [Ensures.attempt_again]
    exact ih

theorem trans {rest : List (Exchange S ε)} {r : Prog S ε α} (path : p.Path trace q) (after : q.Path rest r) :
    p.Path (trace ++ rest) r := by
  induction path with
  | here => exact after
  | call _ ih => exact .call (ih after)
  | round _ ih => exact .round (ih after)

/-- What a program does after a path depends on nothing but the path. -/
theorem residual {rest : List (Exchange S ε)} {outcome : Except ε α} (path : p.Path trace q)
    (run : p.Runs (trace ++ rest) outcome) : q.Runs rest outcome := by
  induction path with
  | here => exact run
  | @call op next answer trace q _ ih =>
    unfold Runs at run
    generalize past : (Prog.ofExcept outcome : Prog S ε _) = last at run
    cases run with
    | call run =>
      subst past
      exact ih run
  | @round γ body next trace q _ ih =>
    unfold Runs at run
    generalize past : (Prog.ofExcept outcome : Prog S ε _) = last at run
    generalize whole : trace ++ rest = all at run ih
    cases run with
    | here => cases outcome <;> cases past
    | round run =>
      subst past
      exact ih run

theorem of_ret {value : α} (path : (Prog.ret value : Prog S ε α).Path trace q) : trace = [] := by
  cases path
  rfl

theorem of_raise {exn : ε} (path : (Prog.raise exn : Prog S ε α).Path trace q) : trace = [] := by
  cases path
  rfl

theorem of_perform {op : S.Op} {q : Prog S ε (S.Ans op)} (path : (Prog.perform op).Path trace q) :
    trace = [] ∨ ∃ answer, trace = [⟨op, answer⟩] := by
  cases path with
  | here => exact Or.inl rfl
  | @call _ _ answer rest _ after =>
    refine Or.inr ⟨answer, ?_⟩
    cases answer with
    | ok value => rw [of_ret after]
    | error exn => rw [of_raise after]

end Prog.Path

/-- The operations on a path are among those the program may perform. -/
theorem Prog.All.of_path {φ : S.Op → Prop} {p q : Prog S ε α} {trace : List (Exchange S ε)} (all : p.All φ)
    (path : p.Path trace q) : ∀ x ∈ trace, φ x.1 := by
  induction path with
  | here => simp
  | call _ ih =>
    rw [List.forall_mem_cons]
    exact ⟨all.1, ih (all.2 _)⟩
  | round _ ih =>
    refine ih (all.1.bind fun round => ?_)
    rcases round with _ | value
    · exact all
    · exact all.2 value

/-- What a trace costs, each operation at its price. -/
def weight (cost : S.Op → Nat) (trace : List (Exchange S ε)) : Nat := (trace.map fun exchange => cost exchange.1).sum

theorem weight_zero {cost : S.Op → Nat} {trace : List (Exchange S ε)} (free : weight cost trace ≤ 0) :
    ∀ x ∈ trace, cost x.1 = 0 := by
  induction trace with
  | nil => simp
  | cons x trace ih =>
    have split : weight cost (x :: trace) = cost x.1 + weight cost trace := by simp [weight]
    rw [List.forall_mem_cons]
    exact ⟨by omega, ih (by omega)⟩

/-- No path of the program costs more, whatever it is answered. -/
def Prog.Costs (cost : S.Op → Nat) (n : Nat) (p : Prog S ε α) : Prop :=
  ∀ trace q, p.Path trace q → weight cost trace ≤ n

namespace Prog.Costs
variable {cost : S.Op → Nat} {m n : Nat} {p : Prog S ε α}

theorem ret (value : α) : (Prog.ret value : Prog S ε α).Costs cost n := by
  intro trace q path
  rw [Path.of_ret path]
  exact Nat.zero_le n

theorem raise (exn : ε) : (Prog.raise exn : Prog S ε α).Costs cost n := by
  intro trace q path
  rw [Path.of_raise path]
  exact Nat.zero_le n

theorem perform (op : S.Op) : (Prog.perform op : Prog S ε (S.Ans op)).Costs cost (cost op) := by
  intro trace q path
  rcases Path.of_perform path with rfl | ⟨answer, rfl⟩ <;> simp [weight]

theorem bind {f : α → Prog S ε β} (first : p.Costs cost m) (next : ∀ value, (f value).Costs cost n) :
    (p.bind f).Costs cost (m + n) := by
  intro trace r path
  rcases Path.of_bind path with ⟨q, inside, -⟩ | ⟨value, front, rest, rfl, before, after⟩
  · have bound := first trace q inside
    omega
  · have head := first front _ before
    have tail := next value rest r after
    unfold weight at head tail ⊢
    rw [List.map_append, List.sum_append]
    omega

theorem mono (costs : p.Costs cost m) (less : m ≤ n) : p.Costs cost n :=
  fun trace q path => Nat.le_trans (costs trace q path) less

end Prog.Costs

namespace Prog.Runs
variable {p : Prog S ε α} {trace : List (Exchange S ε)}

theorem of_ret {value : α} {outcome : Except ε α} (run : (Prog.ret value : Prog S ε α).Runs trace outcome) :
    trace = [] ∧ outcome = .ok value := by
  cases outcome with
  | ok other => cases run; exact ⟨rfl, rfl⟩
  | error exn => cases run

theorem of_raise {exn : ε} {outcome : Except ε α} (run : (Prog.raise exn : Prog S ε α).Runs trace outcome) :
    trace = [] ∧ outcome = .error exn := by
  cases outcome with
  | ok other => cases run
  | error exn => cases run; exact ⟨rfl, rfl⟩

theorem of_call {op : S.Op} {next : Except ε (S.Ans op) → Prog S ε α} {outcome : Except ε α}
    (run : (Prog.call op next).Runs trace outcome) :
    ∃ answer rest, trace = [⟨op, answer⟩] ++ rest ∧ (next answer).Runs rest outcome := by
  unfold Runs at run
  generalize past : (Prog.ofExcept outcome : Prog S ε α) = last at run
  cases run with
  | here => cases outcome <;> cases past
  | @call _ _ answer rest _ run =>
    subst past
    exact ⟨answer, rest, rfl, run⟩

theorem of_perform {op : S.Op} {outcome : Except ε (S.Ans op)}
    (run : (Prog.perform op : Prog S ε (S.Ans op)).Runs trace outcome) : trace = [⟨op, outcome⟩] := by
  obtain ⟨answer, rest, rfl, after⟩ := of_call run
  cases answer with
  | ok value => obtain ⟨rfl, rfl⟩ := of_ret after; rfl
  | error exn => obtain ⟨rfl, rfl⟩ := of_raise after; rfl

theorem of_ofExcept {result outcome : Except ε α} (run : (Prog.ofExcept result : Prog S ε α).Runs trace outcome) :
    trace = [] ∧ outcome = result := by
  cases result with
  | ok value => exact of_ret run
  | error exn => exact of_raise run

theorem of_bind {f : α → Prog S ε β} {outcome : Except ε β} (run : (p.bind f).Runs trace outcome) :
    (∃ exn, p.Runs trace (.error exn) ∧ outcome = .error exn) ∨
    ∃ value first rest, trace = first ++ rest ∧ p.Runs first (.ok value) ∧ (f value).Runs rest outcome := by
  rcases Path.of_bind run with ⟨q, inside, same⟩ | ⟨value, first, rest, split, before, after⟩
  · cases q with
    | ret value => exact Or.inr ⟨value, trace, [], by simp, inside, by rw [Runs, same]; exact .here⟩
    | raise exn =>
      cases outcome with
      | ok value => cases same
      | error exn => cases same; exact Or.inl ⟨_, inside, rfl⟩
    | call op next => cases outcome <;> cases same
    | iter body next => cases outcome <;> cases same
  · exact Or.inr ⟨value, first, rest, split, before, after⟩

theorem of_attempt {outcome : Except ε (Except ε α)} (run : p.attempt.Runs trace outcome) :
    ∃ result, p.Runs trace result ∧ outcome = .ok result := by
  obtain ⟨q, inside, same⟩ := Path.of_attempt run
  cases q with
  | ret value => cases outcome <;> cases same; exact ⟨.ok value, inside, rfl⟩
  | raise exn => cases outcome <;> cases same; exact ⟨.error exn, inside, rfl⟩
  | call op next => cases outcome <;> cases same
  | iter body next => cases outcome <;> cases same

theorem of_onError {handler : ε → Prog S ε α} {outcome : Except ε α} (run : (p.onError handler).Runs trace outcome) :
    (∃ value, p.Runs trace (.ok value) ∧ outcome = .ok value) ∨
    ∃ exn first rest, trace = first ++ rest ∧ p.Runs first (.error exn) ∧ (handler exn).Runs rest outcome := by
  rcases of_bind run with ⟨exn, attempted, -⟩ | ⟨result, first, rest, rfl, attempted, after⟩
  · obtain ⟨result, -, same⟩ := of_attempt attempted
    cases same
  · obtain ⟨result, inside, same⟩ := of_attempt attempted
    cases same
    cases result with
    | ok value =>
      obtain ⟨rfl, rfl⟩ := of_ret after
      exact Or.inl ⟨value, by rwa [List.append_nil], rfl⟩
    | error exn => exact Or.inr ⟨exn, first, rest, rfl, inside, after⟩

theorem of_finally {last : Prog S ε Unit} {outcome : Except ε α} (run : (p.finally_ last).Runs trace outcome) :
    ∃ result first rest, trace = first ++ rest ∧ p.Runs first result ∧
      (last.Runs rest (.ok ()) ∧ outcome = result ∨ ∃ exn, last.Runs rest (.error exn) ∧ outcome = .error exn) := by
  rcases of_bind run with ⟨exn, attempted, -⟩ | ⟨result, first, rest, rfl, attempted, after⟩
  · obtain ⟨result, -, same⟩ := of_attempt attempted
    cases same
  · obtain ⟨result, inside, same⟩ := of_attempt attempted
    cases same
    rcases of_bind after with ⟨exn, ended, rfl⟩ | ⟨⟨⟩, middle, none, rfl, ended, passed⟩
    · exact ⟨result, first, rest, rfl, inside, Or.inr ⟨exn, ended, rfl⟩⟩
    · obtain ⟨rfl, rfl⟩ := of_ofExcept passed
      exact ⟨_, first, middle, by simp, inside, Or.inl ⟨ended, rfl⟩⟩

end Prog.Runs
end Interaction
