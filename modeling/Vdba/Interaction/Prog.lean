namespace Interaction

/-- What a program may ask of the world around it, with the type of each answer. -/
structure Iface where
  Op : Type
  Ans : Op → Type

/-- A sequential program that calls operations, raises and catches exceptions, and loops.
`iter body next` runs `body` again as long as it returns `inl`, and leaves with `inr`. -/
inductive Prog (S : Iface) (ε : Type) : Type → Type 1
  | ret {α : Type} (value : α) : Prog S ε α
  | raise {α : Type} (exn : ε) : Prog S ε α
  | call {α : Type} (op : S.Op) (next : Except ε (S.Ans op) → Prog S ε α) : Prog S ε α
  | iter {α β : Type} (body : Prog S ε (Unit ⊕ β)) (next : β → Prog S ε α) : Prog S ε α

namespace Prog
variable {S : Iface} {ε α β γ : Type}

def bind : Prog S ε α → (α → Prog S ε β) → Prog S ε β
  | ret value, f => f value
  | raise exn, _ => raise exn
  | call op next, f => call op fun answer => (next answer).bind f
  | iter body next, f => iter body fun value => (next value).bind f

instance : Monad (Prog S ε) where
  pure := ret
  bind := bind

/-- One operation; an exceptional answer is raised. -/
def perform (op : S.Op) : Prog S ε (S.Ans op) :=
  call op fun
    | .ok answer => ret answer
    | .error exn => raise exn

def ofExcept : Except ε α → Prog S ε α
  | .ok value => ret value
  | .error exn => raise exn

/-- What the loop does after one round of its body. -/
def again (body : Prog S ε (Unit ⊕ β)) (next : β → Prog S ε α) : Unit ⊕ β → Prog S ε α
  | .inl () => iter body next
  | .inr value => next value

/-- A round that raised leaves the loop with the exception. -/
def leave : Except ε (Unit ⊕ β) → Prog S ε (Unit ⊕ Except ε β)
  | .ok (.inl ()) => ret (.inl ())
  | .ok (.inr value) => ret (.inr (.ok value))
  | .error exn => ret (.inr (.error exn))

/-- An outcome passed on: `f` of the value, or the exception as the value. -/
def resume (f : α → Prog S ε (Except ε β)) : Except ε α → Prog S ε (Except ε β)
  | .ok value => f value
  | .error exn => ret (.error exn)

/-- The program with its outcome, value or exception, as its value. -/
def attempt {α : Type} : Prog S ε α → Prog S ε (Except ε α)
  | ret value => ret (.ok value)
  | raise exn => ret (.error exn)
  | call op next => call op fun answer => (next answer).attempt
  | iter body next => iter (body.attempt.bind leave) (resume fun value => (next value).attempt)

/-- `try p except e: handler e`. -/
def onError (p : Prog S ε α) (handler : ε → Prog S ε α) : Prog S ε α :=
  p.attempt.bind fun
    | .ok value => ret value
    | .error exn => handler exn

/-- `try p finally last`. -/
def finally_ (p : Prog S ε α) (last : Prog S ε Unit) : Prog S ε α :=
  p.attempt.bind fun outcome => last.bind fun _ => ofExcept outcome

/-- `for x in xs: f x`. -/
def forEach : List α → (α → Prog S ε Unit) → Prog S ε Unit
  | [], _ => ret ()
  | x :: xs, f => (f x).bind fun _ => forEach xs f

/-- `while cond: body`. -/
def while_ (cond : Prog S ε Bool) (body : Prog S ε Unit) : Prog S ε Unit :=
  iter (cond.bind fun holds =>
    if holds then body.bind fun _ => ret (.inl ()) else ret (.inr ())) ret

theorem bind_assoc (p : Prog S ε α) (f : α → Prog S ε β) (g : β → Prog S ε γ) :
    (p.bind f).bind g = p.bind fun value => (f value).bind g := by
  induction p with
  | ret => rfl
  | raise => rfl
  | call op next ih => simp only [bind, ih]
  | iter body next _ ih => simp only [bind, ih]

theorem again_bind (body : Prog S ε (Unit ⊕ γ)) (next : γ → Prog S ε α) (f : α → Prog S ε β)
    (round : Unit ⊕ γ) :
    (again body next round).bind f = again body (fun value => (next value).bind f) round := by
  rcases round with _ | _ <;> rfl

theorem attempt_bind (p : Prog S ε α) (f : α → Prog S ε β) :
    (p.bind f).attempt = p.attempt.bind (resume fun value => (f value).attempt) := by
  induction p with
  | ret => rfl
  | raise => rfl
  | call op next ih => simp only [bind, attempt, ih]
  | iter body next _ ih =>
    simp only [bind, attempt, ih]
    congr 1
    funext outcome
    cases outcome <;> rfl

@[simp] theorem bind_eq (p : Prog S ε α) (f : α → Prog S ε β) : p >>= f = p.bind f := rfl

@[simp] theorem pure_eq (value : α) : (pure value : Prog S ε α) = ret value := rfl

@[simp] theorem ret_bind (value : α) (f : α → Prog S ε β) : (ret value : Prog S ε α).bind f = f value := rfl

@[simp] theorem raise_bind (exn : ε) (f : α → Prog S ε β) : (raise exn : Prog S ε α).bind f = raise exn := rfl

@[simp] theorem attempt_ret (value : α) : (ret value : Prog S ε α).attempt = ret (.ok value) := rfl

@[simp] theorem attempt_raise (exn : ε) : (raise exn : Prog S ε α).attempt = ret (.error exn) := rfl

end Prog
end Interaction
