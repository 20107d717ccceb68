import Vdba.Discipline

namespace Vdba
open Interaction (Triple Stable)

/-- A thread at work on a grant whose lock it holds. -/
structure Job where
  thread : Nat
  id : GrantId
  row : Grant
  caller : Caller
  watch : Option Watch
  deadline : Option Time

def Busy (j : Job) (w : World) : Prop :=
  w.Held j.thread j.id j.row j.caller ∧ w.watch j.thread = j.watch ∧ w.deadline j.thread = j.deadline ∧
    ∀ id, (j.thread, id) ∈ w.inflight → id = j.id

/-- The others keep the assertion while the thread is at work. -/
def Keeps (terms : Terms) (j : Job) (P : World → Prop) : Prop :=
  ∀ v w, Busy j v → Rely terms j.thread v w → Inv terms w → P v → P w

/-- The assertion stays true as the grant is torn down, as long as no account is cleaned up. -/
def Hereditary (terms : Terms) (j : Job) (P : World → Prop) : Prop := ∀ v w, Aside terms j.id v w → P v → P w

/-- The assertion stays true as the grant is torn down. -/
def Down (j : Job) (P : World → Prop) : Prop := ∀ v w, Lessened j.id v w → P v → P w

/-- The thread is tearing its grant down. -/
def Job.Tearing (j : Job) : Prop := ∃ k, j.watch = some k ∧ k.grant = j.id

section work
variable {terms : Terms} {j : Job} {v w : World} {P : World → Prop}

theorem Busy.rely (busy : Busy j v) (rely : Rely terms j.thread v w) : Busy j w :=
  ⟨busy.1.rely rely, by rw [rely.watch, busy.2.1], by rw [rely.deadline, busy.2.2.1],
    fun id member => busy.2.2.2 id (rely.inflight id member)⟩

theorem Busy.frame (busy : Busy j v) (frame : Frame terms v w) : Busy j w :=
  ⟨busy.1.frame frame, by rw [frame.watch, busy.2.1], by rw [frame.deadline, busy.2.2.1],
    fun id member => busy.2.2.2 id (by rwa [frame.inflight] at member)⟩

theorem Busy.aside (busy : Busy j v) (tearing : j.Tearing) (rely : Rely terms j.thread v w) : Aside terms j.id v w := by
  obtain ⟨k, watch, grant⟩ := tearing
  have shrunk := rely.objects j.id busy.1.holds
  exact ⟨shrunk.lessened, fun name kept => shrunk.kept name kept k (by rw [busy.2.1, watch]) grant, rely.clock⟩

theorem Down.hereditary (down : Down j P) : Hereditary terms j P := fun v w aside => down v w aside.toLessened

theorem Hereditary.keeps (hereditary : Hereditary terms j P) (tearing : j.Tearing) : Keeps terms j P :=
  fun v w busy rely _ => hereditary v w (busy.aside tearing rely)

theorem Hereditary.and {Q : World → Prop} (left : Hereditary terms j P) (right : Hereditary terms j Q) :
    Hereditary terms j fun w => P w ∧ Q w :=
  fun v w aside held => ⟨left v w aside held.1, right v w aside held.2⟩

theorem Down.and {Q : World → Prop} (left : Down j P) (right : Down j Q) : Down j fun w => P w ∧ Q w :=
  fun v w lessened held => ⟨left v w lessened held.1, right v w lessened held.2⟩

theorem Down.const (fact : Prop) : Down j fun _ => fact := fun _ _ _ held => held

theorem Keeps.and {Q : World → Prop} (left : Keeps terms j P) (right : Keeps terms j Q) :
    Keeps terms j fun w => P w ∧ Q w :=
  fun v w busy rely inv held => ⟨left v w busy rely inv held.1, right v w busy rely inv held.2⟩

theorem Keeps.const (fact : Prop) : Keeps terms j fun _ => fact := fun _ _ _ _ _ held => held

theorem Keeps.stable (keeps : Keeps terms j P) : Stable (portal terms) j.thread fun w => Busy j w ∧ P w :=
  fun v w rely inv held => ⟨held.1.rely rely.1, keeps v w held.1 rely.1 inv held.2⟩

/-- A piece of code at work: it starts in `P` and leaves in `E` or `X`, on the grant all the while. -/
def Works (terms : Terms) (j : Job) (limit : Option Nat) (P : World → Prop) {α : Type} (p : Portal α)
    (E : α → World → Prop) (X : Exc → World → Prop) : Prop :=
  Triple (portal terms) j.thread limit (fun w => Busy j w ∧ P w) p (fun a w => Busy j w ∧ E a w)
    (fun e w => Busy j w ∧ X e w)

/-- An exception that is nobody's fault: it cannot come where calls go well. -/
def Fails (terms : Terms) (j : Job) (P : World → Prop) : Exc → World → Prop := fun _ w => P w ∧ ¬terms.smooth j.id

theorem Keeps.fails (keeps : Keeps terms j P) (exn : Exc) : Keeps terms j (Fails terms j P exn) :=
  keeps.and (Keeps.const _)

namespace Works
variable {limit : Option Nat} {α β : Type} {P P' : World → Prop} {p : Portal α} {E E' : α → World → Prop}
  {X X' : Exc → World → Prop}

theorem ret {value : α} (keeps : Keeps terms j P) (post : ∀ w, P w → E value w) :
    Works terms j limit P (.ret value) E X :=
  Triple.ret keeps.stable fun w held => ⟨held.1, post w held.2⟩

/-- The end of a piece of code, where the invariant may be used. -/
theorem retInv {value : α} (keeps : Keeps terms j P) (post : ∀ w, P w → Busy j w → Inv terms w → E value w) :
    Works terms j limit P (.ret value) E X := by
  refine Triple.of_inv keeps.stable (Triple.ret (fun v w rely inv held => ?_) fun w held => ?_)
  · exact ⟨keeps.stable v w rely inv held.1, inv⟩
  · exact ⟨held.1.1, post w held.1.2 held.1.1 held.2⟩

theorem raise {exn : Exc} (keeps : Keeps terms j P) (post : ∀ w, P w → X exn w) :
    Works terms j limit P (.raise exn : Portal α) E X :=
  Triple.raise keeps.stable fun w held => ⟨held.1, post w held.2⟩

theorem bind {F : β → World → Prop} {f : α → Portal β} (first : Works terms j limit P p E X)
    (rest : ∀ value, Works terms j limit (E value) (f value) F X) : Works terms j limit P (p.bind f) F X :=
  Triple.bind first rest

theorem mono (run : Works terms j limit P p E X) (pre : ∀ w, P' w → P w) (value : ∀ a w, E a w → E' a w)
    (exn : ∀ e w, X e w → X' e w) : Works terms j limit P' p E' X' :=
  Triple.mono run (fun w held => ⟨held.1, pre w held.2⟩) (fun a w _ held => ⟨held.1, value a w held.2⟩)
    (fun e w _ held => ⟨held.1, exn e w held.2⟩)

/-- What a piece of code leaves, with the job. -/
theorem leaves {F : α → World → Prop} {Y : Exc → World → Prop} (run : Works terms j limit P p E X)
    (value : ∀ a w, Busy j w → E a w → F a w) (exn : ∀ e w, Busy j w → X e w → Y e w) :
    Triple (portal terms) j.thread limit (fun w => Busy j w ∧ P w) p F Y :=
  Triple.mono run (fun _ held => held) (fun a w _ held => value a w held.1 held.2)
    fun e w _ failed => exn e w failed.1 failed.2

theorem onError {handler : Exc → Portal α} (first : Works terms j limit P p E X)
    (keeps : ∀ a, Keeps terms j (E a)) (handled : ∀ exn, Works terms j limit (X exn) (handler exn) E X') :
    Works terms j limit P (p.onError handler) E X' :=
  Triple.onError first (fun a => (keeps a).stable) handled

theorem forEach {f : α → Portal Unit} (I : List α → World → Prop) {xs : List α} (keeps : Keeps terms j (I []))
    (round : ∀ x rest, (∃ before, xs = before ++ x :: rest) →
      Works terms j limit (I (x :: rest)) (f x) (fun _ => I rest) X) :
    Works terms j limit (I xs) (Interaction.Prog.forEach xs f) (fun _ => I []) X :=
  Triple.forEach (fun rest w => Busy j w ∧ I rest w) keeps.stable round

theorem while_ {cond : Portal Bool} {body : Portal Unit} (I B : Nat → World → Prop) {E : Unit → World → Prop}
    (keepsE : Keeps terms j (E ())) (keepsI : ∀ n, Keeps terms j (I n))
    (tested : ∀ bound, Works terms j limit (I bound) cond (fun more w => if more = true then B bound w else E () w) X)
    (round : ∀ bound, Works terms j limit (B bound) body
      (fun _ w => ∃ lower, I lower w ∧ (limit = none → lower < bound)) X) (bound : Nat) :
    Works terms j limit (I bound) (Interaction.Prog.while_ cond body) E X := by
  refine Triple.while_ (fun n w => Busy j w ∧ I n w) (fun n w => Busy j w ∧ B n w) keepsE.stable
    (fun n => (keepsI n).stable) (fun bound => ?_) (fun bound => ?_) bound
  · refine Triple.mono (tested bound) (fun _ held => held) (fun more w _ held => ?_) fun _ _ _ failed => failed
    cases more with
    | true => exact held
    | false => exact held
  · refine Triple.mono (round bound) (fun _ held => held) (fun _ w _ held => ?_) fun _ _ _ failed => failed
    obtain ⟨busy, lower, held, less⟩ := held
    exact ⟨lower, ⟨busy, held⟩, less⟩

/-- One call whose effect is about the grant only. -/
theorem ask {op : Op} {E : Ans op → World → Prop} (keepsP : Keeps terms j P) (keepsE : ∀ a, Keeps terms j (E a))
    (keepsX : ∀ e, Keeps terms j (X e))
    (step : ∀ v c answer u, Busy j v → P v → Inv terms v → exec j.thread op c v = some (answer, u) →
      (terms.smooth j.id → Smooth j.thread op c v) →
      Legal terms v u ∧ Confined j.id v u ∧
        match answer with
        | .ok a => E a u
        | .error e => X e u) :
    Works terms j limit P (Vdba.ask op) E X := by
  refine Triple.perform keepsP.stable (fun a => (keepsE a).stable) (fun e => (keepsX e).stable) ?_
  rintro v ⟨busy, held⟩ inv answer u ⟨c, executed, allowed⟩
  have concerns : Concerns j.thread j.id op v := Or.inl ⟨_, _, busy.1.2⟩
  obtain ⟨legal, confined, post⟩ := step v c answer u busy held inv executed
    fun smooth => allowed.smooth j.id smooth concerns
  have guar : Guar terms j.thread v u := legal.toFrame.guar inv (fun id free => confined.untouched (busy.1.free free))
    fun id holds => (busy.1.only inv holds) ▸ confined
  refine ⟨legal.inv inv, ⟨guar, allowed.solo⟩, ?_⟩
  have busy' := busy.frame legal.toFrame
  cases answer with
  | ok a => exact ⟨busy', post⟩
  | error e => exact ⟨busy', post⟩

end Works

theorem Smooth.ok {t : Nat} {op : Op} {c : Choice} (smooth : Smooth t op c v) (plain : ∀ e, ¬GoneCase op e v) :
    c.fate = .ok := by
  rcases smooth.fate with ok | ⟨e, -, gone⟩
  · exact ok
  · exact absurd gone (plain e)

/-- How a call that can succeed went. -/
theorem settle_cases {α : Type} {c : Choice} {honest : World → Exc → Bool} {w' u : World} {value : α}
    {answer : Except Exc α} (done : settle c honest w w' value = some (answer, u)) :
    (answer = .ok value ∧ u = w' ∧ c.fate = .ok) ∨
      ∃ e, answer = .error e ∧ c.fate ≠ .ok ∧ (u = w ∧ c.fate = .fail e ∨ u = w') ∧ honest u e = true := by
  unfold settle at done
  split at done
  · rename_i fate
    cases done
    exact Or.inl ⟨rfl, rfl, fate⟩
  · rename_i e fate
    simp only [Option.ite_none_right_eq_some, Option.some.injEq, Prod.mk.injEq] at done
    obtain ⟨honest, rfl, rfl⟩ := done
    exact Or.inr ⟨e, rfl, by rw [fate]; exact nofun, Or.inl ⟨rfl, fate⟩, honest⟩
  · rename_i e fate
    simp only [Option.ite_none_right_eq_some, Option.some.injEq, Prod.mk.injEq, Bool.and_eq_true] at done
    obtain ⟨⟨honest, -⟩, rfl, rfl⟩ := done
    exact Or.inr ⟨e, rfl, by rw [fate]; exact nofun, Or.inr rfl, honest⟩

/-- A call that is refused has no effect. -/
theorem settle_refused {α : Type} {c : Choice} {honest : World → Exc → Bool} {w' u : World} {value : α} {e : Exc}
    (done : settle c honest w w' value = some (.error e, u)) (refused : e.cls = .forbidden) : u = w := by
  unfold settle at done
  split at done
  · cases done
  · simp only [Option.ite_none_right_eq_some, Option.some.injEq, Prod.mk.injEq] at done
    exact done.2.2.symm
  · simp only [Option.ite_none_right_eq_some, Option.some.injEq, Prod.mk.injEq, Bool.and_eq_true,
      Except.error.injEq, decide_eq_true_eq] at done
    obtain ⟨⟨-, other⟩, rfl, -⟩ := done
    exact absurd refused other

/-- Where calls go well, a call that can succeed fails only to say that its object is gone. -/
theorem Smooth.gone {t : Nat} {op : Op} {c : Choice} {α : Type} {honest : World → Exc → Bool} {w' u : World} {value : α}
    {e : Exc} (smooth : Smooth t op c v) (done : settle c honest w w' value = some (.error e, u)) :
    GoneCase op e v := by
  unfold settle at done
  rcases smooth.fate with ok | ⟨e', failed, gone⟩
  · rw [ok] at done
    cases done
  · rw [failed] at done
    simp only [Option.ite_none_right_eq_some, Option.some.injEq, Prod.mk.injEq, Except.error.injEq] at done
    rwa [← done.2.1]

theorem refuse_cases {α : Type} {c : Choice} {honest : World → Exc → Bool} {u : World} {answer : Except Exc α}
    (done : refuse c honest w = some (answer, u)) :
    ∃ e, answer = .error e ∧ u = w ∧ c.fate = .fail e ∧ honest w e = true := by
  unfold refuse at done
  split at done
  · rename_i e fate
    simp only [Option.ite_none_right_eq_some, Option.some.injEq, Prod.mk.injEq] at done
    obtain ⟨honest, rfl, rfl⟩ := done
    exact ⟨e, rfl, rfl, fate, honest⟩
  · cases done

theorem settleIf_cases {α : Type} {possible : Bool} {c : Choice} {honest : World → Exc → Bool} {w' u : World}
    {value : α} {answer : Except Exc α} (done : settleIf possible c honest w w' value = some (answer, u)) :
    (answer = .ok value ∧ u = w' ∧ c.fate = .ok ∧ possible = true) ∨
      ∃ e, answer = .error e ∧ c.fate ≠ .ok ∧ (u = w ∨ u = w' ∧ possible = true) ∧ honest u e = true := by
  unfold settleIf at done
  split at done
  · rename_i possible
    rcases settle_cases done with ⟨answer, effect, fate⟩ | ⟨e, answer, fate, effect, honest⟩
    · exact Or.inl ⟨answer, effect, fate, possible⟩
    · refine Or.inr ⟨e, answer, fate, ?_, honest⟩
      rcases effect with ⟨none, -⟩ | effect
      · exact Or.inl none
      · exact Or.inr ⟨effect, possible⟩
  · obtain ⟨e, answer, rfl, fate, honest⟩ := refuse_cases done
    exact Or.inr ⟨e, answer, by rw [fate]; exact nofun, Or.inl rfl, honest⟩

namespace Works
variable {limit : Option Nat} {α : Type} {P : World → Prop} {E : α → World → Prop} {E' : Time → World → Prop}
  {X X' : Exc → World → Prop}

/-- A call with an effect on the grant, if it is possible. -/
theorem settled {op : Op} {E : Ans op → World → Prop} {possible : Choice → World → Bool}
    {honest : World → Exc → Bool} {effect : Choice → World → World} {value : Choice → World → Ans op}
    (executes : ∀ c w, exec j.thread op c w = settleIf (possible c w) c honest w (effect c w) (value c w))
    (plain : ∀ e v, ¬GoneCase op e v) (keepsP : Keeps terms j P) (keepsE : ∀ a, Keeps terms j (E a))
    (legal : ∀ v c, Busy j v → P v → Inv terms v → possible c v = true →
      Legal terms v (effect c v) ∧ Confined j.id v (effect c v) ∧ P (effect c v))
    (post : ∀ v c, Busy j v → P v → Inv terms v → possible c v = true → E (value c v) (effect c v)) :
    Works terms j limit P (Vdba.ask op) E (Fails terms j P) := by
  refine ask keepsP keepsE (fun e => keepsP.fails e) fun v c answer u busy held inv executed smooth => ?_
  rw [executes] at executed
  rcases settleIf_cases executed with ⟨rfl, rfl, -, can⟩ | ⟨e, rfl, fate, effect, -⟩
  · obtain ⟨legal, confined, -⟩ := legal v c busy held inv can
    exact ⟨legal, confined, post v c busy held inv can⟩
  · have rough : ¬terms.smooth j.id := fun smooth' => fate ((smooth smooth').ok fun e => plain e v)
    rcases effect with rfl | ⟨rfl, can⟩
    · exact ⟨(Same.refl u).legal, Confined.refl j.id u, held, rough⟩
    · obtain ⟨legal, confined, kept⟩ := legal v c busy held inv can
      exact ⟨legal, confined, kept, rough⟩

/-- A call that only reads, with what its exceptions tell. -/
theorem reads {op : Op} {E : Ans op → World → Prop} {possible : Choice → World → Bool} {honest : World → Exc → Bool}
    {value : Choice → World → Ans op}
    (executes : ∀ c w, exec j.thread op c w = settleIf (possible c w) c honest w w (value c w))
    (keepsP : Keeps terms j P) (keepsE : ∀ a, Keeps terms j (E a)) (keepsX : ∀ e, Keeps terms j (X e))
    (post : ∀ v c, Busy j v → P v → Inv terms v → possible c v = true → E (value c v) v)
    (fail : ∀ v c e, P v → honest v e = true → c.fate ≠ .ok → (terms.smooth j.id → Smooth j.thread op c v) → X e v) :
    Works terms j limit P (Vdba.ask op) E X := by
  refine ask keepsP keepsE keepsX fun v c answer u busy held inv executed smooth => ?_
  rw [executes] at executed
  rcases settleIf_cases executed with ⟨rfl, rfl, -, can⟩ | ⟨e, rfl, fate, effect, honest⟩
  · exact ⟨(Same.refl u).legal, Confined.refl j.id u, post u c busy held inv can⟩
  · have same : u = v := by rcases effect with same | ⟨same, -⟩ <;> exact same
    subst same
    exact ⟨(Same.refl u).legal, Confined.refl j.id u, fail u c e held honest fate smooth⟩

/-- A call that only reads. -/
theorem quiet {op : Op} {E : Ans op → World → Prop} {possible : Choice → World → Bool} {honest : World → Exc → Bool}
    {value : Choice → World → Ans op}
    (executes : ∀ c w, exec j.thread op c w = settleIf (possible c w) c honest w w (value c w))
    (plain : ∀ e v, ¬GoneCase op e v) (keepsP : Keeps terms j P) (keepsE : ∀ a, Keeps terms j (E a))
    (post : ∀ v c, Busy j v → P v → Inv terms v → possible c v = true → E (value c v) v) :
    Works terms j limit P (Vdba.ask op) E (Fails terms j P) :=
  reads executes keepsP keepsE keepsP.fails post fun v _ _ held _ fate smooth =>
    ⟨held, fun smooth' => fate ((smooth smooth').ok fun e => plain e v)⟩

/-- A call of the process itself, which always succeeds. -/
theorem process {op : Op} {E : Ans op → World → Prop} (keepsP : Keeps terms j P) (keepsE : ∀ a, Keeps terms j (E a))
    (step : ∀ v c answer u, Busy j v → P v → exec j.thread op c v = some (answer, u) →
      (terms.smooth j.id → Smooth j.thread op c v) → Same terms v u ∧ ∃ a, answer = .ok a ∧ E a u) :
    Works terms j limit P (Vdba.ask op) E X := by
  have run : Works terms j limit P (Vdba.ask op) E fun _ _ => False := by
    refine ask keepsP keepsE (fun _ => Keeps.const _) fun v c answer u busy held _ executed smooth => ?_
    obtain ⟨same, a, rfl, post⟩ := step v c answer u busy held executed smooth
    exact ⟨same.legal, same.confined j.id, post⟩
  exact run.mono (fun _ held => held) (fun _ _ post => post) fun _ _ failed => failed.elim

theorem time (keepsP : Keeps terms j P) (keepsE : ∀ a, Keeps terms j (E' a))
    (post : ∀ v, P v → (terms.smooth j.id → ∀ deadline, j.deadline = some deadline → v.clock ≤ deadline) →
      E' v.clock v) : Works terms j limit P Vdba.time E' X := by
  refine process keepsP keepsE fun v c answer u busy held executed smooth => ?_
  cases executed
  refine ⟨Same.refl v, v.clock, rfl, post v held fun smooth' deadline known => ?_⟩
  exact (smooth smooth').inTime rfl deadline (by rw [busy.2.2.1, known])

theorem sleep {span : Time} {Q : World → Prop} (keepsP : Keeps terms j P) (keepsQ : Keeps terms j Q)
    (post : ∀ v, P v → Q (v.at_ (v.clock + span))) : Works terms j limit P (Vdba.sleep span) (fun _ => Q) X := by
  refine process keepsP (fun _ => keepsQ) fun v c answer u _ held executed _ => ?_
  cases executed
  have same : Same terms v (v.at_ (v.clock + span)) := { (Same.refl v : Same terms v v) with clock := fun _ => Nat.le_add_right _ _ }
  exact ⟨same, (), rfl, post v held⟩

theorem tokenHex {n : Nat} (keepsP : Keeps terms j P) :
    Works terms j limit P (Vdba.ask (.tokenHex n)) (fun _ => P) X := by
  refine process keepsP (fun _ => keepsP) fun v c answer u _ held executed _ => ?_
  simp only [exec, Option.dite_none_right_eq_some, Option.some.injEq, Prod.mk.injEq] at executed
  obtain ⟨digits, rfl, rfl⟩ := executed
  exact ⟨Same.refl v, _, rfl, held⟩

theorem setOrder (xs : List String) (keepsP : Keeps terms j P) :
    Works terms j limit P (Vdba.ask (.setOrder xs)) (fun (ys : List String) w => P w ∧ ∀ x, x ∈ ys ↔ x ∈ xs) X := by
  refine process keepsP (fun _ => keepsP.and (Keeps.const _)) fun v c answer u _ held executed _ => ?_
  simp only [exec, Option.ite_none_right_eq_some, Option.some.injEq, Prod.mk.injEq] at executed
  obtain ⟨perm, rfl, rfl⟩ := executed
  exact ⟨Same.refl v, _, rfl, held, fun x => (List.isPerm_iff.mp perm).mem_iff⟩

/-- A call of the shared client: one attempt, and another after a refusal. -/
theorem call {fn : Portal α} (keepsP : Keeps terms j P) (keepsE : ∀ a, Keeps terms j (E a))
    (keepsX : ∀ e, Keeps terms j (X e)) (run : Works terms j limit P fn E X)
    (again : ∀ e w, e.cls = .forbidden → X e w → P w)
    (down : ∀ e w, X e w → (e.cls = .vaultDown ∨ ∃ name, e.cls = .osError name) → X (unavailable e) w)
    (away : ∀ e w, P w → ¬terms.smooth j.id → e.cls = .vaultUnavailable → X e w) :
    Works terms j limit P (Service.call fn) E X := by
  have missing (v : World) (c : Choice) (e : Exc) (op : Op) (plain : ∀ e, ¬GoneCase op e v) (held : P v)
      (honest : World.noClient v e = true) (fate : c.fate ≠ .ok)
      (smooth : terms.smooth j.id → Smooth j.thread op c v) : X e v := by
    refine away e v held (fun smooth' => fate ((smooth smooth').ok plain)) ?_
    simpa [World.noClient] using honest
  have client : Works terms j limit P (Vdba.ask .client) (fun _ => P) X :=
    reads (fun c w => (rfl : _ = settleIf true c World.noClient w w ())) keepsP (fun _ => keepsP) keepsX
      (fun _ _ _ held _ _ => held) fun v c e => missing v c e .client fun _ => id
  have relogin : Works terms j limit P (Vdba.ask .relogin) (fun _ => P) X :=
    reads (fun c w => (rfl : _ = settleIf true c World.noClient w w ())) keepsP (fun _ => keepsP) keepsX
      (fun _ _ _ held _ _ => held) fun v c e => missing v c e .relogin fun _ => id
  refine onError (client.bind fun _ => run) keepsE fun exn => ?_
  cases cls : exn.cls
  case forbidden =>
    exact (relogin.bind fun _ => run).mono (fun w => again exn w cls) (fun _ _ post => post) fun _ _ post => post
  case vaultDown => exact raise (keepsX exn) fun w post => down exn w post (Or.inl cls)
  case osError name => exact raise (keepsX exn) fun w post => down exn w post (Or.inr ⟨name, cls⟩)
  all_goals exact raise (keepsX exn) fun _ post => post

theorem call_fails {fn : Portal α} (keepsP : Keeps terms j P) (keepsE : ∀ a, Keeps terms j (E a))
    (run : Works terms j limit P fn E (Fails terms j P)) :
    Works terms j limit P (Service.call fn) E (Fails terms j P) :=
  call keepsP keepsE keepsP.fails run (fun _ _ _ failed => failed.1) (fun _ _ failed _ => failed)
    fun _ _ held rough _ => ⟨held, rough⟩

/-- An exception that is swallowed. -/
theorem quietly {p : Portal Unit} (keepsP : Keeps terms j P) (keepsX : ∀ e, Keeps terms j (X e))
    (run : Works terms j limit P p (fun _ => P) X) (after : ∀ e w, X e w → P w) :
    Works terms j limit P (Vdba.quietly p) (fun _ => P) X' :=
  onError run (fun _ => keepsP) fun exn => ret (keepsX exn) (after exn)

end Works
end work
end Vdba
