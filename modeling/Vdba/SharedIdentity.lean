import Vdba.Interaction.Record
import Vdba.Interaction.Triple
import Vdba.Identity

namespace Vdba.Identity
open Interaction (Machine Pool Triple Stable)

/-- The one `Service` of the portal with its lock, the clock, and what Vault knows of the AppRole's tokens: those it
accepts, and those it has given out. -/
structure Shared where
  lock : Option Nat
  client : Option Secret
  loggedInAt : Time
  clock : Time
  live : List Secret
  issued : List Secret

/-- What the outside decides of an answer. `applied` is whether a request took effect whose answer was lost. -/
structure Reply (α : Type) where
  value : α
  text : String
  token : Secret
  fails : Option Exc
  applied : Bool

def Shared.drop (token : Secret) (w : Shared) : Shared := { w with live := w.live.filter (· ≠ token) }

/-- One step of a thread. A request is answered 403 only if its token is not live, and not otherwise than so where it is
not; a token that is given out is new. -/
def exec {α : Type} (t : Nat) : (op : Op) → Reply α → Shared → Option (Except Exc (Ans α op) × Shared)
  | .acquire, _, w => if w.lock = none then some (.ok (), { w with lock := some t }) else none
  | .release, _, w => some (.ok (), { w with lock := none })
  | .getClient, _, w => some (.ok w.client, w)
  | .getLoggedInAt, _, w => some (.ok w.loggedInAt, w)
  | .setClient token at_, _, w => some (.ok (), { w with client := some token, loggedInAt := at_ })
  | .now, _, w => some (.ok w.clock, w)
  | .readText _, r, w =>
    match r.fails with
    | none => some (.ok r.text, w)
    | some exn => some (.error exn, w)
  | .approleLogin .., r, w =>
    match r.fails with
    | none =>
      if r.token ∈ w.issued then none
      else some (.ok r.token, { w with live := r.token :: w.live, issued := r.token :: w.issued })
    | some exn => some (.error exn, w)
  | .revokeSelf token, r, w =>
    match r.fails with
    | none => if token ∈ w.live then some (.ok (), w.drop token) else none
    | some exn => some (.error exn, if r.applied then w.drop token else w)
  | .attempt token, r, w =>
    match r.fails with
    | none => if token ∈ w.live then some (.ok r.value, w) else none
    | some exn => if exn.cls = .forbidden ∧ token ∈ w.live then none else some (.error exn, w)

/-- What happens by itself: time passes, and Vault drops a token. -/
inductive Event
  | passes (span : Time)
  | drops (token : Secret)

def Event.happen : Event → Shared → Option Shared
  | .passes span, w => some { w with clock := w.clock + span }
  | .drops token, w => some (w.drop token)

/-- The portal's process with its threads. -/
def machine (α : Type) : Machine (steps α) Exc Shared Nat (Reply α) Event where
  exec := exec
  env := Event.happen
  reset w := { w with lock := none, client := none }

/-- What a thread does with the service. -/
inductive Use
  | call
  | client

def Use.code {α : Type} : Use → Code α Unit
  | .call => Identity.call.bind fun _ => .ret ()
  | .client => Identity.client.bind fun _ => .ret ()

/-- Who has been answered 403, and who has logged in because of it and has yet to make his second request. -/
structure Retries where
  denied : Nat → Bool
  renewed : Nat → Option Secret

def Retries.none : Retries := ⟨fun _ => false, fun _ => .none⟩

/-- The retries after a step. -/
def note {α : Type} (t : Nat) : (op : Op) → Shared → Except Exc (Ans α op) → Shared → Retries → Retries
  | .attempt _, _, .error exn, _, g =>
    ⟨Function.update g.denied t (exn.cls = .forbidden), Function.update g.renewed t .none⟩
  | .attempt _, _, .ok _, _, g => ⟨Function.update g.denied t false, Function.update g.renewed t .none⟩
  | .setClient token _, _, _, _, g =>
    ⟨Function.update g.denied t false, Function.update g.renewed t (if g.denied t then some token else .none)⟩
  | _, _, _, _, g => g

/-- The threads that share the service. -/
abbrev Sharing (α : Type) : Type 1 := Pool (steps α) Exc (Shared × Retries) Nat

abbrev Scheduled (α : Type) : Type := Interaction.Label Nat (Reply α) Event Use

def Sharing.step {α : Type} : Scheduled α → Sharing α → Option (Sharing α) :=
  Pool.step ((machine α).recording note) fun _ use => use.code

/-- The log-in works. -/
def Works {α : Type} : Op → Reply α → Prop
  | .readText _, r | .approleLogin .., r => r.fails = none
  | _, _ => True

/-- What is taken for granted: the log-in works, and Vault drops no token but the one that was current at the start. The
process lives on. -/
def Granted {α : Type} (original : Option Secret) (s : Sharing α) : Scheduled α → Prop
  | .run t r => ∀ op next, s.threads t = some (.call op next) → Works op r
  | .env (.drops token) => original = some token
  | .env (.passes _) | .spawn .. => True
  | .kill => False

/-- The step kills no token that another thread has logged in for and has yet to use for its second request. -/
def Spares {α : Type} (s : Sharing α) : Scheduled α → Prop
  | .run t r => ∀ token next, s.threads t = some (.call (.revokeSelf token) next) → (r.fails = none ∨ r.applied = true) →
      ∀ u, u ≠ t → s.world.2.renewed u ≠ some token
  | _ => True

/-- A state in which no thread has been started, and the tokens that are known were given out by Vault. -/
structure Shared.Begun (w : Shared) : Prop where
  free : w.lock = none
  known : ∀ token, w.client = some token → token ∈ w.issued
  given : ∀ token ∈ w.live, token ∈ w.issued

def Shared.start {α : Type} (w : Shared) : Sharing α := ⟨(w, .none), fun _ => none⟩

/-- The states that a run of allowed steps leads to. -/
abbrev Sharing.Run {α : Type} (start : Shared) (ok : Sharing α → Scheduled α → Prop) : Sharing α → Prop :=
  Pool.Reach ((machine α).recording note) (fun _ use => use.code) ok start.start

section rules
variable {α β : Type} {original : Option Secret} {t u : Nat} {limit : Option Nat} {x y : Shared × Retries}

/-- What always holds: who has a token for his second request has one that is live, and is not the first of all. -/
structure Kept (original : Option Secret) (x : Shared × Retries) : Prop where
  known : ∀ token, x.1.client = some token → token ∈ x.1.issued
  given : ∀ token ∈ x.1.live, token ∈ x.1.issued
  first : ∀ token, original = some token → token ∈ x.1.issued
  live : ∀ u token, x.2.renewed u = some token → token ∈ x.1.live ∧ original ≠ some token

/-- What others leave a thread: its retry, and what it needs while it has the lock. -/
structure Leaves (original : Option Secret) (t : Nat) (x y : Shared × Retries) : Prop where
  denied : y.2.denied t = x.2.denied t
  renewed : y.2.renewed t = x.2.renewed t
  lock : x.1.lock = some t → y.1.lock = some t
  client : x.1.lock = some t → y.1.client = x.1.client
  live : x.1.lock = some t → ∀ token ∈ x.1.live, original ≠ some token → token ∈ y.1.live

theorem Leaves.refl (original : Option Secret) (t : Nat) (x : Shared × Retries) : Leaves original t x x :=
  ⟨rfl, rfl, id, fun _ => rfl, fun _ _ member _ => member⟩

theorem Leaves.trans {z : Shared × Retries} (first : Leaves original t x y) (second : Leaves original t y z) :
    Leaves original t x z where
  denied := second.denied.trans first.denied
  renewed := second.renewed.trans first.renewed
  lock held := second.lock (first.lock held)
  client held := (second.client (first.lock held)).trans (first.client held)
  live held token member other := second.live (first.lock held) token (first.live held token member other) other

/-- The discipline of the threads. -/
def sharing (α : Type) (original : Option Secret) : Interaction.Discipline (steps α) Exc (Shared × Retries) Nat where
  Step t op x answer y := ∃ r, ((machine α).recording note).exec t op r x = some (answer, y) ∧ Works op r ∧
    ∀ token, op = .revokeSelf token → (r.fails = none ∨ r.applied = true) → ∀ u, u ≠ t → x.2.renewed u ≠ some token
  Inv := Kept original
  Rely := Leaves original
  Guar t x y := ∀ u, u ≠ t → Leaves original u x y
  rely_refl := Leaves.refl original
  rely_trans _ _ _ _ first second := first.trans second

/-- The thread has yet to log in; `d` is whether it has been answered 403. -/
def Before (d : Bool) (t : Nat) (x : Shared × Retries) : Prop := x.2.denied t = d ∧ x.2.renewed t = none

/-- The thread has logged in with the token. -/
def After (d : Bool) (token : Secret) (t : Nat) (x : Shared × Retries) : Prop :=
  x.2.denied t = false ∧ x.2.renewed t = if d then some token else none

def Locked (t : Nat) (x : Shared × Retries) : Prop := x.1.lock = some t

/-- The thread has been given a token, which no other has. -/
def Fresh (original : Option Secret) (token : Secret) (x : Shared × Retries) : Prop :=
  token ∈ x.1.live ∧ original ≠ some token ∧ x.1.client ≠ some token

theorem before_stable (d : Bool) : Stable (sharing α original) t (Before d t) := by
  rintro x y leaves - ⟨denied, renewed⟩
  exact ⟨leaves.denied.trans denied, leaves.renewed.trans renewed⟩

theorem after_stable (d : Bool) (token : Secret) : Stable (sharing α original) t (After d token t) := by
  rintro x y leaves - ⟨denied, renewed⟩
  exact ⟨leaves.denied.trans denied, leaves.renewed.trans renewed⟩

theorem locked_stable {P : Shared × Retries → Prop} (stable : Stable (sharing α original) t P) :
    Stable (sharing α original) t fun x => Locked t x ∧ P x :=
  fun x y leaves inv held => ⟨leaves.lock held.1, stable x y leaves inv held.2⟩

theorem fresh_stable {d : Bool} {token : Secret} :
    Stable (sharing α original) t fun x => Locked t x ∧ Fresh original token x ∧ Before d t x := by
  rintro x y leaves inv ⟨lock, ⟨live, other, client⟩, before⟩
  refine ⟨leaves.lock lock, ⟨leaves.live lock token live other, other, ?_⟩, before_stable d x y leaves inv before⟩
  rw [leaves.client lock]
  exact client

theorem stepped {op : Op} {r : Reply α} {v w : Shared} {g g' : Retries} {answer : Except Exc (Ans α op)}
    (executed : ((machine α).recording note).exec t op r (v, g) = some (answer, (w, g'))) :
    exec t op r v = some (answer, w) ∧ g' = note t op v answer w g :=
  Machine.recording_exec executed

/-- What only reads leaves everything as it is. -/
theorem read_triple {op : Op} {P : Shared × Retries → Prop} (stable : Stable (sharing α original) t P)
    (φ : Ans α op → Prop) (reads : ∀ r x answer y, Works op r → P x →
      ((machine α).recording note).exec t op r x = some (answer, y) → y = x ∧ ∃ a, answer = .ok a ∧ φ a) :
    Triple (sharing α original) t limit P (ask op) (fun a x => φ a ∧ P x) fun _ _ => False := by
  refine Triple.perform stable (fun a x y leaves inv held => ⟨held.1, stable x y leaves inv held.2⟩)
    (fun _ _ _ _ _ held => held) ?_
  rintro x held inv answer y ⟨r, executed, works, -⟩
  obtain ⟨rfl, a, rfl, known⟩ := reads r x answer y works held executed
  exact ⟨inv, fun u _ => .refl original u y, known, held⟩

theorem getClient_triple {P : Shared × Retries → Prop} (stable : Stable (sharing α original) t P)
    {φ : Option Secret → Prop} (known : ∀ x, P x → φ x.1.client) :
    Triple (sharing α original) t limit P (ask .getClient) (fun (old : Option Secret) x => φ old ∧ P x)
      fun _ _ => False := by
  refine @read_triple α original t limit .getClient P stable φ fun r x answer y _ held executed => ?_
  cases executed
  exact ⟨rfl, _, rfl, known x held⟩

theorem quiet_triple {op : Op} {P : Shared × Retries → Prop} (stable : Stable (sharing α original) t P)
    (reads : ∀ r x answer y, Works op r → ((machine α).recording note).exec t op r x = some (answer, y) →
      y = x ∧ ∃ a, answer = .ok a) : Triple (sharing α original) t limit P (ask op) (fun _ => P) fun _ _ => False := by
  refine (read_triple stable (fun _ => True) fun r x answer y works _ executed => ?_).mono (fun _ held => held)
    (fun _ _ _ held => held.2) fun _ _ _ failed => failed
  obtain ⟨same, a, done⟩ := reads r x answer y works executed
  exact ⟨same, a, done, trivial⟩

theorem readText_triple {P : Shared × Retries → Prop} (stable : Stable (sharing α original) t P) (file : String) :
    Triple (sharing α original) t limit P (ask (.readText file)) (fun _ => P) fun _ _ => False := by
  refine quiet_triple stable fun r x answer y works executed => ?_
  have works : r.fails = none := works
  simp only [Machine.recording, machine, exec, works, Option.map_some, Option.some.injEq] at executed
  cases executed
  exact ⟨rfl, _, rfl⟩

/-- The lock is free when it is taken. -/
theorem acquire_triple (d : Bool) :
    Triple (sharing α original) t limit (Before d t) (ask .acquire) (fun _ x => Locked t x ∧ Before d t x)
      fun _ _ => False := by
  refine Triple.perform (before_stable d) (fun _ => locked_stable (before_stable d)) (fun _ _ _ _ _ held => held) ?_
  rintro ⟨v, g⟩ held inv answer ⟨w, g'⟩ ⟨r, executed, -, -⟩
  obtain ⟨done, rfl⟩ := stepped executed
  obtain ⟨free, done⟩ := Option.ite_none_right_eq_some.mp done
  cases done
  refine ⟨⟨inv.known, inv.given, inv.first, inv.live⟩, fun u other => ?_, rfl, held⟩
  have unlocked (lock : v.lock = some u) : False := by
    rw [free] at lock
    cases lock
  exact ⟨rfl, rfl, fun lock => (unlocked lock).elim, fun lock => (unlocked lock).elim, fun lock => (unlocked lock).elim⟩

/-- What is the holder's to change. -/
theorem Leaves.of_lock {v w : Shared} {g g' : Retries} (other : u ≠ t) (lock : v.lock = some t)
    (denied : g'.denied u = g.denied u) (renewed : g'.renewed u = g.renewed u) :
    Leaves original u (v, g) (w, g') := by
  have unlocked (lock' : v.lock = some u) : False := by
    rw [lock] at lock'
    exact other (Option.some.inj lock').symm
  exact ⟨denied, renewed, fun lock => (unlocked lock).elim, fun lock => (unlocked lock).elim,
    fun lock => (unlocked lock).elim⟩

theorem release_triple (d : Bool) (token : Secret) :
    Triple (sharing α original) t limit (fun x => Locked t x ∧ After d token t x) (ask .release)
      (fun _ => After d token t) fun _ _ => False := by
  refine Triple.perform (locked_stable (after_stable d token)) (fun _ => after_stable d token)
    (fun _ _ _ _ _ held => held) ?_
  rintro ⟨v, g⟩ ⟨lock, held⟩ inv answer ⟨w, g'⟩ ⟨r, executed, -, -⟩
  obtain ⟨done, rfl⟩ := stepped executed
  cases done
  exact ⟨⟨inv.known, inv.given, inv.first, inv.live⟩, fun u other => Leaves.of_lock other lock rfl rfl, held⟩

theorem approleLogin_step (d : Bool) (roleId secretId : String) :
    Triple (sharing α original) t limit (fun x => Locked t x ∧ Before d t x) (ask (.approleLogin roleId secretId))
      (fun (token : Secret) x => Locked t x ∧ Fresh original token x ∧ Before d t x) fun _ _ => False := by
  refine Triple.perform (locked_stable (before_stable d)) (fun (token : Secret) => fresh_stable)
    (fun _ _ _ _ _ held => held) ?_
  rintro ⟨v, g⟩ ⟨lock, held⟩ inv answer ⟨w, g'⟩ ⟨r, executed, works, -⟩
  obtain ⟨done, rfl⟩ := stepped executed
  have works : r.fails = none := works
  simp only [exec, works, Option.ite_none_left_eq_some] at done
  obtain ⟨fresh, done⟩ := done
  cases done
  refine ⟨⟨fun token client => List.mem_cons_of_mem _ (inv.known token client), fun token live => ?_,
    fun token first => List.mem_cons_of_mem _ (inv.first token first), fun u token renewed => ?_⟩,
    fun u other => Leaves.of_lock other lock rfl rfl, lock, ⟨List.mem_cons_self, fun first => ?_, fun client => ?_⟩, held⟩
  · rcases List.mem_cons.mp live with rfl | live
    · exact List.mem_cons_self
    · exact List.mem_cons_of_mem _ (inv.given token live)
  · obtain ⟨live, other⟩ := inv.live u token renewed
    exact ⟨List.mem_cons_of_mem _ live, other⟩
  · exact fresh (inv.first _ first)
  · exact fresh (inv.known _ client)

/-- The client is set to the token that the thread has been given. -/
theorem setClient_triple (d : Bool) (token : Secret) (at_ : Time) :
    Triple (sharing α original) t limit (fun x => Locked t x ∧ Fresh original token x ∧ Before d t x)
      (ask (.setClient token at_)) (fun _ x => Locked t x ∧ After d token t x) fun _ _ => False := by
  refine Triple.perform fresh_stable (fun _ => locked_stable (after_stable d token)) (fun _ _ _ _ _ held => held) ?_
  rintro ⟨v, g⟩ ⟨lock, ⟨live, other, client⟩, denied, renewed⟩ inv answer ⟨w, g'⟩ ⟨r, executed, -, -⟩
  obtain ⟨done, rfl⟩ := stepped executed
  cases done
  have denied : g.denied t = d := denied
  refine ⟨⟨fun given same => ?_, inv.given, inv.first, fun u held at_u => ?_⟩, fun u differs => ?_, lock, ?_⟩
  · cases same
    exact inv.given _ live
  · by_cases own : u = t
    · subst own
      simp only [note, Function.update_self, denied] at at_u
      cases d with
      | true => cases at_u; exact ⟨live, other⟩
      | false => cases at_u
    · simp only [note, Function.update_of_ne own] at at_u
      exact inv.live u held at_u
  · exact Leaves.of_lock differs lock (Function.update_of_ne differs _ _) (Function.update_of_ne differs _ _)
  · exact ⟨Function.update_self .., by simp only [note, Function.update_self, denied]⟩

theorem drop_live {token other : Secret} {w : Shared} (live : token ∈ w.live) (differs : token ≠ other) :
    token ∈ (w.drop other).live := by
  simp [Shared.drop, live, differs]

theorem drop_given {token other : Secret} {w : Shared} (live : token ∈ (w.drop other).live) : token ∈ w.live :=
  (List.mem_filter.mp live).1

/-- A token is killed that nobody is about to use for a second request. -/
theorem drop_kept {v : Shared} {g : Retries} {old : Secret} (inv : Kept original (v, g))
    (spared : ∀ u, g.renewed u ≠ some old) : Kept original (v.drop old, g) := by
  refine ⟨inv.known, fun token live => inv.given token (drop_given live), inv.first, fun u token renewed => ?_⟩
  obtain ⟨live, other⟩ := inv.live u token renewed
  refine ⟨drop_live live fun same => ?_, other⟩
  rw [same] at renewed
  exact spared u renewed

theorem revokeSelf_triple (d : Bool) {token old : Secret} (differs : old ≠ token) :
    Triple (sharing α original) t limit (fun x => Locked t x ∧ After d token t x) (ask (.revokeSelf old))
      (fun _ x => Locked t x ∧ After d token t x) fun _ x => Locked t x ∧ After d token t x := by
  have stable := @locked_stable α original t _ (after_stable d token)
  refine Triple.perform stable (fun _ => stable) (fun _ => stable) ?_
  rintro ⟨v, _⟩ ⟨lock, held⟩ inv answer ⟨w, g⟩ ⟨r, executed, -, spares⟩
  obtain ⟨done, rfl⟩ := stepped executed
  have own : g.renewed t ≠ some old := by
    have renewed : g.renewed t = if d then some token else none := held.2
    rw [renewed]
    cases d with
    | true => exact fun same => differs (Option.some.inj same).symm
    | false => exact fun same => by cases same
  have killed (takes : r.fails = none ∨ r.applied = true) : Kept original (v.drop old, g) := by
    refine drop_kept inv fun u => ?_
    by_cases same : u = t
    · rw [same]
      exact own
    · exact spares old rfl takes u same
  simp only [exec] at done
  cases fails : r.fails with
  | none =>
    rw [fails] at done
    obtain ⟨-, done⟩ := Option.ite_none_right_eq_some.mp done
    cases done
    exact ⟨killed (Or.inl fails), fun u other => Leaves.of_lock other lock rfl rfl, lock, held⟩
  | some exn =>
    rw [fails] at done
    cases done
    by_cases applied : r.applied = true
    · rw [if_pos applied]
      exact ⟨killed (Or.inr applied), fun u other => Leaves.of_lock other lock rfl rfl, lock, held⟩
    · rw [if_neg applied]
      exact ⟨inv, fun u other => Leaves.refl original u _, lock, held⟩

theorem revokeOld_triple (d : Bool) {token : Secret} {old : Option Secret} (differs : old ≠ some token) :
    Triple (sharing α original) t limit (fun x => Locked t x ∧ After d token t x) (revokeOld old)
      (fun _ x => Locked t x ∧ After d token t x) fun _ _ => False := by
  have stable := @locked_stable α original t _ (after_stable d token)
  cases old with
  | none => exact Triple.ret stable fun _ held => held
  | some old =>
    have other : old ≠ token := fun same => differs (by rw [same])
    exact Triple.onError (revokeSelf_triple d other) (fun _ => stable) fun _ => Triple.ret stable fun _ held => held

theorem swap_triple (d : Bool) (token : Secret) :
    Triple (sharing α original) t limit (fun x => Locked t x ∧ Fresh original token x ∧ Before d t x) (swap token)
      (fun given x => given = token ∧ Locked t x ∧ After d token t x) fun _ _ => False := by
  unfold swap
  have read := @getClient_triple α original t limit _ (fresh_stable (d := d)) (· ≠ some token) fun x held => held.2.1.2.2
  refine Triple.bind read fun (old : Option Secret) => ?_
  refine Triple.of_fact fun differs => Triple.bind (quiet_triple fresh_stable fun r x answer y _ executed => ?_)
    fun (now : Time) => ?_
  · cases executed
    exact ⟨rfl, _, rfl⟩
  · refine Triple.bind (setClient_triple d token now) fun _ => Triple.bind (revokeOld_triple d differs) fun _ => ?_
    exact Triple.ret (locked_stable (after_stable d token)) fun _ held => ⟨rfl, held⟩

/-- A log-in that works leaves the thread with its token. -/
theorem login_triple (d : Bool) :
    Triple (sharing α original) t limit (fun x => Locked t x ∧ Before d t x) login
      (fun token x => Locked t x ∧ After d token t x) fun _ _ => False := by
  have stable := @locked_stable α original t _ (before_stable d)
  have read : Triple (sharing α original) t limit (fun x => Locked t x ∧ Before d t x) (readApprole (α := α))
      (fun _ x => Locked t x ∧ Before d t x) fun _ _ => False := by
    refine Triple.onError (Triple.bind (readText_triple stable _) fun roleId =>
      Triple.bind (readText_triple stable _) fun secretId => Triple.ret stable fun _ held => held) (fun _ => stable)
      fun exn w failed => failed.elim
  have given (roleId secretId : String) : Triple (sharing α original) t limit (fun x => Locked t x ∧ Before d t x)
      (approleLogin roleId secretId) (fun token x => Locked t x ∧ Fresh original token x ∧ Before d t x)
      fun _ _ => False :=
    Triple.onError (approleLogin_step d roleId secretId) (fun _ => fresh_stable) fun exn w failed => failed.elim
  unfold login
  refine Triple.bind read fun (roleId, secretId) => Triple.bind (given roleId secretId) fun token => ?_
  refine (swap_triple d token).mono (fun _ held => held) ?_ fun _ _ _ failed => failed
  rintro _ x - ⟨rfl, held⟩
  exact held

theorem locked_triple {d : Bool} {p : Code α Secret} (run : Triple (sharing α original) t limit
      (fun x => Locked t x ∧ Before d t x) p (fun token x => Locked t x ∧ After d token t x) fun _ _ => False) :
    Triple (sharing α original) t limit (Before d t) (locked p) (fun token => After d token t) fun _ _ => False := by
  unfold locked
  refine Triple.bind (acquire_triple d) fun _ => ?_
  exact Triple.finally_ run (fun token => release_triple d token) (fun _ w failed => failed.elim)
    (fun token => after_stable d token) fun _ _ _ _ _ failed => failed

/-- Without a 403 before, a token is as good as another. -/
theorem current_triple :
    Triple (sharing α original) t limit (fun x => Locked t x ∧ Before false t x) current
      (fun token x => Locked t x ∧ After false token t x) fun _ _ => False := by
  have stable := @locked_stable α original t _ (before_stable false)
  have read := @getClient_triple α original t limit _ stable (fun _ => True) fun _ _ => trivial
  unfold current
  refine Triple.bind read fun (held : Option Secret) => Triple.of_fact fun _ => ?_
  cases held with
  | none => exact login_triple false
  | some token =>
    refine Triple.bind (quiet_triple stable fun r x answer y _ executed => ?_) fun (now : Time) =>
      Triple.bind (quiet_triple stable fun r x answer y _ executed => ?_) fun (since : Time) => ?_
    · cases executed
      exact ⟨rfl, _, rfl⟩
    · cases executed
      exact ⟨rfl, _, rfl⟩
    · split
      · exact login_triple false
      · exact Triple.ret stable fun _ held => held

/-- After a request the thread has no token that it has yet to use. -/
theorem attempted_kept {v : Shared} {g : Retries} (inv : Kept original (v, g)) (denied : Bool) :
    Kept original (v, ⟨Function.update g.denied t denied, Function.update g.renewed t none⟩) ∧
      ∀ u, u ≠ t → Leaves original u (v, g) (v, ⟨Function.update g.denied t denied, Function.update g.renewed t none⟩) := by
  refine ⟨⟨inv.known, inv.given, inv.first, fun u token renewed => ?_⟩, fun u other => ?_⟩
  · by_cases own : u = t
    · subst own
      simp only [Function.update_self] at renewed
      cases renewed
    · simp only [Function.update_of_ne own] at renewed
      exact inv.live u token renewed
  · exact ⟨Function.update_of_ne other _ _, Function.update_of_ne other _ _, id, fun _ => rfl, fun _ _ live _ => live⟩

/-- The second request of a thread is not answered 403: its token is live. -/
theorem attempt_triple (d : Bool) (token : Secret) :
    Triple (sharing α original) t limit (After d token t) (ask (.attempt token)) (fun _ _ => True)
      fun exn x => exn.cls = .forbidden → d = false ∧ Before true t x := by
  refine Triple.perform (after_stable d token) (fun _ _ _ _ _ _ => trivial) (fun exn x y leaves inv held refused => ?_) ?_
  · exact ⟨(held refused).1, before_stable true x y leaves inv (held refused).2⟩
  rintro ⟨v, g⟩ ⟨-, renewed⟩ inv answer ⟨w, g'⟩ ⟨r, executed, -, -⟩
  obtain ⟨done, rfl⟩ := stepped executed
  simp only [exec] at done
  cases fails : r.fails with
  | none =>
    rw [fails] at done
    obtain ⟨-, done⟩ := Option.ite_none_right_eq_some.mp done
    cases done
    obtain ⟨kept, leaves⟩ := @attempted_kept original t v g inv false
    exact ⟨kept, leaves, trivial⟩
  | some exn =>
    rw [fails] at done
    obtain ⟨answered, done⟩ := Option.ite_none_left_eq_some.mp done
    cases done
    obtain ⟨kept, leaves⟩ := @attempted_kept original t v g inv (exn.cls = .forbidden)
    refine ⟨kept, leaves, fun refused => ⟨?_, ?_, Function.update_self ..⟩⟩
    · cases d with
      | false => rfl
      | true => exact absurd ⟨refused, (inv.live t token renewed).1⟩ answered
    · simp [note, refused]

/-- A call that has been answered 403 once is not answered so again. -/
theorem call_triple : Triple (sharing α original) t limit (Before false t) call (fun _ _ => True)
    fun exn _ => exn.cls ≠ .forbidden := by
  have stable (exn : Exc) : Stable (sharing α original) t fun x => exn.cls = .forbidden → Before true t x :=
    fun x y leaves inv held refused => before_stable true x y leaves inv (held refused)
  have first : Triple (sharing α original) t limit (Before false t)
      (client.bind fun token => ask (.attempt token)) (fun (_ : α) _ => True)
      fun exn x => exn.cls = .forbidden → Before true t x := by
    have given := (@locked_triple α original t limit _ _ current_triple).mono (fun _ held => held)
      (fun _ _ _ held => held) fun (exn : Exc) x _ (failed : False) =>
        (failed.elim : exn.cls = .forbidden → Before true t x)
    exact Triple.bind given fun token => (attempt_triple false token).mono (fun _ held => held)
      (fun _ _ _ held => held) fun _ _ _ held refused => (held refused).2
  have second : Triple (sharing α original) t limit (Before true t)
      ((locked login).bind fun token => ask (.attempt token)) (fun (_ : α) _ => True)
      fun exn _ => exn.cls ≠ .forbidden := by
    have given := (@locked_triple α original t limit _ _ (login_triple true)).mono (fun _ held => held)
      (fun _ _ _ held => held) fun (exn : Exc) _ _ (failed : False) => (failed.elim : exn.cls ≠ .forbidden)
    refine Triple.bind given fun token => (attempt_triple true token).mono (fun _ held => held)
      (fun _ _ _ held => held) fun exn _ _ held refused => ?_
    cases (held refused).1
  unfold call
  refine Triple.onError first (fun _ _ _ _ _ _ => trivial) fun exn => ?_
  have others {why : Exc} (cls : why.cls ≠ .forbidden) : Triple (sharing α original) t limit
      (fun x => exn.cls = .forbidden → Before true t x) (.raise why : Code α α) (fun _ _ => True)
      fun exn _ => exn.cls ≠ .forbidden := Triple.raise (stable exn) fun _ _ => cls
  split
  case h_1 refused => exact Triple.pre second fun _ held => held refused
  case h_2 => exact others (by simp [unavailable])
  case h_3 => exact others (by simp [unavailable])
  case h_4 other _ _ => exact others other

/-- No use of the service ends with a 403. -/
theorem use_triple (use : Use) : Triple (sharing α original) t limit (Before false t) (use.code (α := α))
    (fun _ _ => True) fun exn _ => exn.cls ≠ .forbidden := by
  have rest {β : Type} {p : Code α β} (run : Triple (sharing α original) t limit (Before false t) p (fun _ _ => True)
      fun exn _ => exn.cls ≠ .forbidden) : Triple (sharing α original) t limit (Before false t)
      (p.bind fun _ => .ret ()) (fun _ _ => True) fun exn _ => exn.cls ≠ .forbidden :=
    Triple.bind run fun _ => Triple.ret (fun _ _ _ _ held => held) fun _ held => held
  cases use with
  | call => exact rest call_triple
  | client =>
    exact rest ((locked_triple current_triple).mono (fun _ held => held) (fun _ _ _ _ => trivial)
      fun _ _ _ failed => failed.elim)

theorem happened {event : Event} (inv : Kept original x) (moved : ((machine α).recording note).env event x = some y)
    (allowed : ∀ token, event = .drops token → original = some token) :
    Kept original y ∧ ∀ t, Leaves original t x y := by
  obtain ⟨w, done, rfl⟩ := Option.map_eq_some_iff.mp moved
  cases event with
  | passes span =>
    cases done
    exact ⟨⟨inv.known, inv.given, inv.first, inv.live⟩, fun t => ⟨rfl, rfl, id, fun _ => rfl, fun _ _ live _ => live⟩⟩
  | drops token =>
    cases done
    have first := allowed token rfl
    refine ⟨drop_kept inv fun u renewed => (inv.live u token renewed).2 first, fun t =>
      ⟨rfl, rfl, id, fun _ => rfl, fun _ other live differs => drop_live live fun same => ?_⟩⟩
    rw [same] at differs
    exact differs first

theorem sharing_adequate (α : Type) (original : Option Secret) :
    Pool.Adequate (sharing α original) ((machine α).recording note) (fun _ use => use.code)
      (fun s label => Granted original s label ∧ Spares s label) (Before false)
      fun _ outcome _ => ∀ exn, outcome = .error exn → exn.cls ≠ .forbidden where
  exec {s t r op next answer w} allowed _ at_t executed := by
    refine ⟨r, executed, allowed.1 op next at_t, fun token same takes => ?_⟩
    subst same
    exact allowed.2 token next at_t takes
  others other _ leaves := leaves _ other
  env {s event w} allowed inv moved := by
    refine happened inv moved fun token same => ?_
    subst same
    exact allowed.1
  reset allowed _ := allowed.1.elim
  idle idle leaves := ⟨leaves.denied.trans idle.1, leaves.renewed.trans idle.2⟩
  entry {s t use} _ _ idle n := by
    refine (use_triple use s.world idle).mono fun outcome v _ post => ?_
    rintro exn rfl
    exact post

end rules

/-- Where no log-in kills a token that another thread is about to use for its second request, no call ends with a 403. -/
theorem Sharing.call_permitted {α : Type} {start : Shared} {s : Sharing α} {t : Nat} {exn : Exc} (begun : start.Begun)
    (run : Sharing.Run start (fun s label => Granted start.client s label ∧ Spares s label) s)
    (raised : s.threads t = some (.raise exn)) : exn.cls ≠ .forbidden := by
  have inv : Kept start.client (start, Retries.none) :=
    ⟨begun.known, begun.given, begun.known, fun u token renewed => by cases renewed⟩
  have first : Pool.Sound (sharing α start.client) (Before false)
      (fun _ outcome _ => ∀ exn, outcome = .error exn → exn.cls ≠ .forbidden) (start.start : Sharing α) :=
    ⟨inv, fun _ _ => ⟨rfl, rfl⟩, fun t p at_t => by cases at_t⟩
  have sound := (sharing_adequate α start.client).sound first run
  cases sound.threads t _ raised 0 with
  | raise post => exact post s.world (.refl _ _ _) sound.inv exn rfl

section runs

def raised {α : Type} : Option (Code α Unit) → Option Exc
  | some (.raise exn) => some exn
  | _ => none

theorem of_raised {α : Type} {p : Option (Code α Unit)} {exn : Exc} (outcome : raised p = some exn) :
    p = some (.raise exn) := by
  unfold raised at outcome
  split at outcome
  · cases outcome
    rfl
  · cases outcome

/-- The log-in works, and no token is dropped but the one with this text. -/
def granted (original : Secret) (s : Sharing Unit) : Scheduled Unit → Bool
  | .run t r =>
    match s.threads t with
    | some (.call (.readText _) _) | some (.call (.approleLogin ..) _) => r.fails.isNone
    | _ => true
  | .env (.drops token) => token = original
  | .env (.passes _) | .spawn .. => true
  | .kill => false

theorem granted_ok {start : Secret} (s : Sharing Unit) (label : Scheduled Unit) (tested : granted start s label = true) :
    Granted (some start) s label := by
  cases label with
  | spawn => trivial
  | kill => cases tested
  | env event =>
    cases event with
    | passes => trivial
    | drops token =>
      have same : token = start := by simpa [granted] using tested
      rw [same]
      rfl
  | run t r =>
    intro op next at_t
    simp only [granted, at_t] at tested
    cases op
    case readText => exact Option.isNone_iff_eq_none.mp tested
    case approleLogin => exact Option.isNone_iff_eq_none.mp tested
    all_goals trivial

/-- Only the first two threads run, and neither has the token revoked that the other has logged in for. -/
def sparesOther (s : Sharing Unit) : Scheduled Unit → Bool
  | .run t _ =>
    decide (t < 2) && match s.threads t with
    | some (.call (.revokeSelf token) _) => decide (s.world.2.renewed (1 - t) ≠ some token)
    | _ => true
  | _ => true

def firstToken : Secret := ⟨"first"⟩

/-- A service that has logged in before. -/
def signedIn : Shared := ⟨none, some firstToken, 0, 0, [firstToken], [firstToken]⟩

theorem signedIn_begun : signedIn.Begun where
  free := rfl
  known token same := by cases same; exact List.mem_cons_self
  given _ live := live

def gives (text : String) : Reply Unit := ⟨(), "", ⟨text⟩, none, false⟩

def fails (cls : ExcClass) : Reply Unit := ⟨(), "", ⟨""⟩, some ⟨cls, ""⟩, false⟩

/-- A thread is answered 403, and logs in for its second request; what it asks of the old token is answered so too. -/
def renews (t : Nat) (text : String) (old : Reply Unit) : List (Sharing Unit → Scheduled Unit) :=
  List.replicate 7 (fun _ => .run t (gives text)) ++ [fun _ => .run t old, fun _ => .run t (gives text)]

def asks (t : Nat) : List (Sharing Unit → Scheduled Unit) :=
  (fun _ => .spawn t .call) :: List.replicate 5 fun _ => .run t (gives "")

theorem renewed_same {t u : Nat} {op : Op} {v w : Shared} {answer : Except Exc (Ans Unit op)} {g : Retries}
    (other : u ≠ t) : (note t op v answer w g).renewed u = g.renewed u := by
  cases op
  case attempt => cases answer <;> simp only [note, Function.update_of_ne other]
  case setClient => simp only [note, Function.update_of_ne other]
  all_goals rfl

/-- A thread that does not run has not logged in. -/
theorem renewed_none {ok : Sharing Unit → Scheduled Unit → Prop} (two : ∀ s t r, ok s (.run t r) → t < 2)
    {s : Sharing Unit} (run : Sharing.Run signedIn ok s) {u : Nat} (late : 2 ≤ u) : s.world.2.renewed u = none := by
  induction run with
  | start => rfl
  | next _ allowed stepped ih =>
    rcases Pool.step_world stepped with same | ⟨t, r, op, next, answer, rfl, -, executed⟩ | ⟨event, -, moved⟩ | ⟨-, same⟩
    · rw [same, ih]
    · have earlier := two _ _ _ allowed
      rw [(Machine.recording_exec executed).2, renewed_same (by omega), ih]
    · obtain ⟨w, -, same⟩ := Option.map_eq_some_iff.mp moved
      rw [← same, ih]
    · rw [same]
      exact ih

theorem sparesOther_spares {s : Sharing Unit} {label : Scheduled Unit} (tested : sparesOther s label = true)
    (others : ∀ u, 2 ≤ u → s.world.2.renewed u = none) : Spares s label := by
  cases label with
  | run t r =>
    intro token next at_t _ u other
    simp only [sparesOther, at_t, Bool.and_eq_true, decide_eq_true_eq] at tested
    by_cases late : 2 ≤ u
    · rw [others u late]
      exact fun same => by cases same
    · have same : u = 1 - t := by omega
      rw [same]
      exact tested.2
  | spawn => trivial
  | env => trivial
  | kill => trivial

/-- Vault drops the token of two threads. Each is answered 403, logs in and comes too late for a second answer; the
log-in of the second revokes the token of the first, which is done with it. -/
def downRun : List (Sharing Unit → Scheduled Unit) :=
  asks 0 ++ asks 1 ++ [fun _ => .env (.drops firstToken), fun _ => .run 0 (fails .forbidden),
    fun _ => .run 1 (fails .forbidden)] ++ renews 0 "second" (fails .forbidden) ++ [fun _ => .run 0 (fails .vaultDown)] ++
    renews 1 "third" (gives "") ++ [fun _ => .run 1 (fails .vaultDown)]

def downState : Sharing Unit :=
  Pool.play ((machine Unit).recording note) (fun _ use => use.code) (fun s label => granted firstToken s label &&
    sparesOther s label) downRun signedIn.start

/-- Two calls raise, and only the last token is alive. -/
theorem downState_permitted : downState.world.1.live = [⟨"third"⟩] ∧ ∀ t < 2,
    ∃ exn, downState.threads t = some (.raise exn) ∧ exn.cls ≠ .forbidden := by
  have live : downState.world.1.live = [⟨"third"⟩] := by decide +kernel
  have outcome : ∀ t < 2, raised (downState.threads t) = some ⟨.vaultDown, ""⟩ := by decide +kernel
  have tested (s : Sharing Unit) (label : Scheduled Unit)
      (both : (granted firstToken s label && sparesOther s label) = true) :
      Granted signedIn.client s label ∧ sparesOther s label = true := by
    obtain ⟨granted, spares⟩ := Bool.and_eq_true_iff.mp both
    exact ⟨granted_ok s label granted, spares⟩
  have played : Sharing.Run signedIn (fun s label => Granted signedIn.client s label ∧ sparesOther s label = true) downState :=
    Pool.Reach.play tested downRun .start
  have run : Sharing.Run signedIn (fun s label => Granted signedIn.client s label ∧ Spares s label) downState := by
    refine Pool.Reach.mono (Pool.Reach.along played) fun s label allowed => ⟨allowed.1.1, ?_⟩
    refine sparesOther_spares allowed.1.2 fun u late => renewed_none (fun s t r allowed => ?_) allowed.2 late
    have tested := allowed.2
    simp only [sparesOther, Bool.and_eq_true, decide_eq_true_eq] at tested
    exact tested.1
  refine ⟨live, fun t earlier => ?_⟩
  exact ⟨_, of_raised (outcome t earlier), Sharing.call_permitted signedIn_begun run (of_raised (outcome t earlier))⟩

/-- Two calls are answered 403, and the log-in of the second kills the token that the first has just been given. -/
def crossedRun : List (Sharing Unit → Scheduled Unit) :=
  asks 0 ++ asks 1 ++ [fun _ => .env (.drops firstToken), fun _ => .run 0 (fails .forbidden),
    fun _ => .run 1 (fails .forbidden)] ++ renews 0 "second" (fails .forbidden) ++ renews 1 "third" (gives "") ++
    [fun _ => .run 0 (fails .forbidden)]

def crossedState : Sharing Unit :=
  Pool.play ((machine Unit).recording note) (fun _ use => use.code) (granted firstToken) crossedRun signedIn.start

theorem crossed_calls_denied : ¬∀ (start : Shared) (s : Sharing Unit) (t : Nat) (exn : Exc), start.Begun →
    Sharing.Run start (Granted start.client) s → s.threads t = some (.raise exn) → exn.cls ≠ .forbidden := by
  intro permitted
  have outcome : raised (crossedState.threads 0) = some ⟨.forbidden, ""⟩ := by decide +kernel
  have run : Sharing.Run signedIn (Granted signedIn.client) crossedState := Pool.Reach.play granted_ok crossedRun .start
  exact permitted signedIn crossedState 0 _ signedIn_begun run (of_raised outcome) rfl

end runs
end Vdba.Identity
