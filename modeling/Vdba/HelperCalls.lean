import Vdba.RevokeCalls

namespace Vdba
open Interaction (Triple Stable)

section helpers
variable {terms : Terms} {j : Job} {limit : Option Nat} {P : World → Prop} {suffix : Hex 2} {db : DbType}
  {statements : List String} {I : List String → World → Prop}

theorem Works.orCleanup {α : Type} {p : Portal α} {cleanup : Portal Unit} {E : α → World → Prop}
    {X X' : Exc → World → Prop}
    (run : Works terms j limit P p E X) (keepsE : ∀ a, Keeps terms j (E a)) (keepsX : ∀ e, Keeps terms j (X' e))
    (cleaned : ∀ e, Works terms j limit (X e) cleanup (fun _ => X' e) X') :
    Works terms j limit P (orCleanup p cleanup) E X' :=
  Works.onError run keepsE fun e => (cleaned e).bind fun _ => Works.raise (keepsX e) fun _ failed => failed

theorem hereditary_exists {ι : Type} {I : ι → World → Prop} (hereditary : ∀ i, Hereditary terms j (I i)) :
    Hereditary terms j fun w => ∃ i, I i w := by
  rintro v w aside ⟨i, held⟩
  exact ⟨i, hereditary i v w aside held⟩

/-- A lease of a helper runs nothing when it is revoked. -/
theorem helper_lease (tearing : j.Tearing) (hereditary : Hereditary terms j P) (suffix : Hex 2) (key : String) :
    LeaseProof terms j ("database/creds/" ++ j.id.helper suffix ++ "/" ++ key) P := by
  refine ⟨?_, hereditary.keeps tearing, fun w held => hereditary w _ (World.dropLease_aside _) held,
    fun lease text v u count proper same member held ran => ?_⟩
  · unfold GrantId.OwnsLease GrantId.helper
    simp only [String.toList_append, List.append_assoc]
    exact (List.prefix_append_right_inj _).mpr (List.prefix_append _ _)
  · rw [proper.of_helper same, List.mem_singleton] at member
    subst member
    rcases World.statement_cases ran with ⟨-, rfl⟩ | ⟨a, -, acts, -⟩
    · exact held
    · rw [act_selectOne] at acts
      cases acts

theorem forGiven_works {text : Option String} {f : String → Portal Unit} {X : Exc → World → Prop}
    (keeps : Keeps terms j P) (run : ∀ s ∈ text, Works terms j limit P (f s) (fun _ => P) X) :
    Works terms j limit P (forGiven text f) (fun _ => P) X := by
  unfold forGiven truthy
  cases text with
  | none => exact Works.ret keeps fun _ held => held
  | some s =>
    by_cases empty : s = ""
    · simp only [Option.filter_some, empty, ne_eq, not_true_eq_false, decide_false]
      exact Works.ret keeps fun _ held => held
    · simp only [Option.filter_some, ne_eq, empty, not_false_eq_true, decide_true, if_true]
      exact run s rfl

/-- The cleanup after a helper swallows what goes wrong. -/
theorem helperCleanup_works {lease accessor : Option String} {X : Exc → World → Prop} (tearing : j.Tearing)
    (hereditary : Hereditary terms j P)
    (leases : ∀ l ∈ lease, ∃ key, l = "database/creds/" ++ j.id.helper suffix ++ "/" ++ key)
    (drops : ∀ a ∈ accessor, ∀ w, P w → Drops j.id a w) :
    Works terms j limit P (helperCleanup (j.id.helper suffix) lease accessor) (fun _ => P) X := by
  have keeps := hereditary.keeps tearing
  have swallowed (p : Portal Unit) {Q : World → Prop} (run : Works terms j limit P p (fun _ w => P w ∧ Q w) (Fails terms j P)) :
      Works terms j limit P (quietly p) (fun _ => P) X :=
    Works.quietly keeps keeps.fails (run.mono (fun _ held => held) (fun _ _ held => held.1) fun _ _ failed => failed)
      fun _ _ failed => failed.1
  have first : Works terms j limit P (forGiven lease fun l => quietly (revokeLease l)) (fun _ => P) X := by
    refine forGiven_works keeps fun l member => ?_
    obtain ⟨key, rfl⟩ := leases l member
    exact swallowed _ (revokeLease_works (helper_lease tearing hereditary suffix key))
  have second : Works terms j limit P (forGiven accessor fun a => quietly (revokeAccessor a)) (fun _ => P) X := by
    refine forGiven_works keeps fun a member => ?_
    exact swallowed _ (revokeAccessor_works keeps (drops a member) fun w held =>
      hereditary w _ (World.dropToken_aside a) held)
  have third : Works terms j limit P
      ((deleteRole (j.id.helper suffix)).onError fun _ => mark (.leftBehind (j.id.helper suffix))) (fun _ => P) X := by
    have gone (w : World) (held : P w) : P (w.setRole (j.id.helper suffix) none) :=
      hereditary w _ (World.setRole_aside (Or.inl rfl)) held
    refine Works.onError (deleteRole_works keeps keeps (j.id.owns_helper suffix) gone gone) (fun _ => keeps) fun e => ?_
    have noted : Works terms j limit P (mark (.leftBehind (j.id.helper suffix))) (fun _ => P) fun _ _ => False := by
      refine Works.ask keeps (fun _ => keeps) (fun _ => Keeps.const False) fun v c answer u _ held _ executed _ => ?_
      cases executed
      exact ⟨(Same.refl _).legal, Confined.refl j.id _, held⟩
    exact noted.mono (fun _ failed => failed.1) (fun _ _ held => held) fun _ _ failed => failed.elim
  exact first.bind fun _ => second.bind fun _ => third

/-- The role of a helper while it is at work. -/
def helperRole (db : DbType) (statements : List String) : Role := ⟨db, statements, ["SELECT 1"]⟩

/-- The assertion, and the helper's role is as it was written. -/
def Helped (j : Job) (suffix : Hex 2) (db : DbType) (statements : List String) (P : World → Prop) (w : World) : Prop :=
  P w ∧ w.vault.roles (j.id.helper suffix) = some (helperRole db statements)

theorem Helped.keeps (keeps : Keeps terms j P) : Keeps terms j (Helped j suffix db statements P) := by
  intro v w busy rely inv held
  refine ⟨keeps v w busy rely inv held.1, ?_⟩
  rw [(rely.objects j.id busy.1.holds).roles _ (j.id.owns_helper suffix)]
  exact held.2

/-- `run_as_manager` runs the statements in order; whatever goes wrong, it cleans up after itself. -/
theorem runAsManager_works (tearing : j.Tearing) (hereditary : ∀ rest, Hereditary terms j (I rest))
    (effect : ∀ account text rest v u count, (∃ before, statements = before ++ text :: rest) → Busy j v →
      I (text :: rest) v → Inv terms v → (terms.smooth j.id → count = 0) →
      v.statement db text account count = some u → Effect terms j v u (I rest)) :
    Works terms j limit (I statements) (runAsManager db (j.id.helper suffix) statements) (fun _ => I [])
      (fun _ w => (∃ rest, I rest w) ∧ ¬terms.smooth j.id) := by
  have owns := j.id.owns_helper suffix
  have helper : j.id.helper suffix ≠ j.id.text := j.id.helper_ne j.id suffix
  have keeps (rest : List String) : Keeps terms j (I rest) := (hereditary rest).keeps tearing
  have some_left : Hereditary terms j fun w => (∃ rest, I rest w) ∧ ¬terms.smooth j.id :=
    (hereditary_exists hereditary).and (Down.const _).hereditary
  have keepsZ : Keeps terms j fun w => (∃ rest, I rest w) ∧ ¬terms.smooth j.id := some_left.keeps tearing
  let K (rest : List String) : World → Prop := Helped j suffix db statements (I rest)
  let L (accessor : String) (rest : List String) (w : World) : Prop := K rest w ∧ Drops j.id accessor w
  have keepsK (rest : List String) : Keeps terms j (K rest) := Helped.keeps (keeps rest)
  have keepsL (accessor : String) (rest : List String) : Keeps terms j (L accessor rest) :=
    (keepsK rest).and Drops.down.keeps
  have write : Works terms j limit (I statements) (writeRole (j.id.helper suffix) db statements ["SELECT 1"]
      HELPER_TTL_SECONDS) (fun _ => K statements) (Fails terms j (I statements)) := by
    have kept (w : World) (held : I statements w) :
        I statements (w.setRole (j.id.helper suffix) (some (helperRole db statements))) :=
      hereditary _ w _ (World.setRole_aside (Or.inr helper)) held
    exact writeRole_works (keeps _) (keepsK _) owns (fun same => absurd same helper) kept
      fun w held => ⟨kept w held, World.setRole_roles_self w _ _⟩
  have create : Works terms j limit (K statements) (createGrantToken HELPER_TTL_SECONDS (j.id.helper suffix))
      (fun (a : Secret × String) => L a.2 statements) (Fails terms j (K statements)) := by
    refine createGrantToken_works (keepsK _) (fun a => keepsL a.2 _) owns (fun same => absurd same helper)
      fun w secret accessor _ held _ fresh => ?_
    have kept : K statements (w.addToken ⟨accessor, secret, j.id.helper suffix⟩) :=
      ⟨hereditary _ w _ (World.addToken_aside fresh helper) held.1, held.2⟩
    refine ⟨kept, kept, j.id.helper suffix, by simp [World.addToken], Or.inl owns⟩
  have read (token : Secret) (accessor : String) : Works terms j limit (L accessor statements)
      (readCredentials token (j.id.helper suffix))
      (fun creds w => L accessor [] w ∧ Told terms (j.id.helper suffix) creds w)
      (fun _ w => (∃ rest, L accessor rest w) ∧ ¬terms.smooth j.id) := by
    refine readCredentials_works (keepsL accessor) owns (fun w held => held.1.2)
      (fun chars text rest v u count _ split busy held inv ended ran => ?_) (fun chars key => ?_)
      (fun same => absurd same helper) fun o key secret duration v same held => ?_
    · obtain ⟨legal, confined, post⟩ := effect _ text rest v u count split busy held.1.1 inv ended ran
      refine ⟨legal, confined, ⟨post, ?_⟩, ?_⟩
      · rw [World.statement_vault ran]
        exact held.1.2
      · unfold Drops
        rw [World.statement_vault ran]
        exact held.2
    · refine ⟨j.id, ?_, Or.inl ⟨suffix, rfl, rfl⟩⟩
      exact j.id.owns_append (j.id.owns_append owns "_") (String.ofList chars)
    · have aside : Aside terms j.id v (v.closed o key secret duration) :=
        World.closed_aside (by rw [same]; exact helper)
      exact ⟨⟨hereditary _ v _ aside held.1.1, held.1.2⟩, Drops.down v _ aside.toLessened held.2⟩
  have cleaned (accessor : Option String) {Q : World → Prop} (within : ∀ w, Q w → (∃ rest, I rest w) ∧
      (∀ a ∈ accessor, Drops j.id a w) ∧ ¬terms.smooth j.id) (e : Exc) :
      Works terms j limit Q (helperCleanup (j.id.helper suffix) none accessor)
        (fun _ w => (∃ rest, I rest w) ∧ ¬terms.smooth j.id) fun _ w => (∃ rest, I rest w) ∧ ¬terms.smooth j.id := by
    have down : Down j fun w => ∀ a ∈ accessor, Drops j.id a w := fun v w lessened held a member =>
      Drops.down v w lessened (held a member)
    refine (helperCleanup_works (P := fun w => ((∃ rest, I rest w) ∧ ¬terms.smooth j.id) ∧ ∀ a ∈ accessor, Drops j.id a w)
      tearing (some_left.and down.hereditary) (fun _ none => by cases none)
      fun a member w held => held.2 a member).mono (fun w held => ?_) (fun _ _ held => held.1) fun _ _ failed => failed
    obtain ⟨left, drops, rough⟩ := within w held
    exact ⟨⟨left, rough⟩, drops⟩
  have none_dropped (w : World) : ∀ a ∈ (none : Option String), Drops j.id a w := fun _ member => by cases member
  unfold runAsManager
  refine (Works.orCleanup write (fun _ => keepsK _) (fun _ => keepsZ) (cleaned none fun w failed =>
    ⟨⟨_, failed.1⟩, none_dropped w, failed.2⟩)).bind fun _ => ?_
  refine (Works.orCleanup create (fun a => keepsL a.2 _) (fun _ => keepsZ) (cleaned none fun w failed =>
    ⟨⟨_, failed.1.1⟩, none_dropped w, failed.2⟩)).bind fun a => ?_
  obtain ⟨token, accessor⟩ := a
  refine (Works.orCleanup (read token accessor) (fun _ => (keepsL accessor []).and (Told.keeps _ _)) (fun _ => keepsZ)
    (cleaned (some accessor) fun w failed => ?_)).bind fun creds => ?_
  · obtain ⟨⟨rest, held⟩, rough⟩ := failed
    refine ⟨⟨rest, held.1.1⟩, fun a member => ?_, rough⟩
    cases member
    exact held.2
  · rintro w ⟨busy, held, told⟩
    obtain ⟨⟨key, same⟩, -⟩ := told
    refine (helperCleanup_works (P := fun w => I [] w ∧ Drops j.id accessor w) tearing
      ((hereditary []).and Drops.down.hereditary) (fun l member => ?_) (fun a member w held => ?_)).mono
      (fun _ held => held) (fun _ _ held => held.1) (fun _ _ failed => failed) w ⟨busy, held.1.1, held.2⟩
    · cases member
      exact ⟨key, same⟩
    · cases member
      exact held.2

/-- `_run`. -/
theorem run_works (tearing : j.Tearing) (hereditary : ∀ rest, Hereditary terms j (I rest))
    (effect : ∀ account text rest v u count, (∃ before, statements = before ++ text :: rest) → Busy j v →
      I (text :: rest) v → Inv terms v → (terms.smooth j.id → count = 0) →
      v.statement db text account count = some u → Effect terms j v u (I rest)) :
    Works terms j limit (I statements) (run_ db j.id statements) (fun _ => I [])
      (fun _ w => (∃ rest, I rest w) ∧ ¬terms.smooth j.id) := by
  have keeps (rest : List String) : Keeps terms j (I rest) := (hereditary rest).keeps tearing
  unfold run_
  split
  · rename_i empty
    rw [empty]
    exact Works.ret (keeps []) fun _ held => held
  · exact (Works.tokenHex (keeps _)).bind fun suffix => runAsManager_works tearing hereditary effect

end helpers
end Vdba
