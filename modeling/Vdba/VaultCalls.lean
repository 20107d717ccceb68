import Vdba.Work

namespace Vdba
open Interaction (Triple Stable)

/-- An effect on the grant that keeps the discipline and reaches `Q`. -/
def Effect (terms : Terms) (j : Job) (v w : World) (Q : World → Prop) : Prop :=
  Legal terms v w ∧ Confined j.id v w ∧ Q w

section calls
variable {terms : Terms} {j : Job} {limit : Option Nat} {P Q : World → Prop} {v w : World}

/-- Only the grant itself is called by the name of its own role. -/
theorem alive_of (inv : Busy j w) (alive : j.row.status.terminal = false) {name : String} (owns : j.id.Owns name)
    (id : GrantId) (same : name = id.text) : Alive id w := by
  have eq : id = j.id := GrantId.Owns.unique (by rw [same]; exact id.owns_self) owns
  rw [eq]
  exact ⟨j.row, inv.1.1, alive⟩

theorem writeRole_works {name : String} {db : DbType} {creation revocation : List String} {ttl : Int}
    (keepsP : Keeps terms j P) (keepsQ : Keeps terms j Q) (owns : j.id.Owns name)
    (alive : name = j.id.text → j.row.status.terminal = false)
    (kept : ∀ w, P w → P (w.setRole name (some ⟨db, creation, revocation⟩)))
    (post : ∀ w, P w → Q (w.setRole name (some ⟨db, creation, revocation⟩))) :
    Works terms j limit P (writeRole name db creation revocation ttl) (fun _ => Q) (Fails terms j P) := by
  refine Works.call_fails keepsP (fun _ => keepsQ) (Works.settled (fun c w => (rfl : _ = settleIf true c anyExc w
    (w.setRole name (some ⟨db, creation, revocation⟩)) ())) (fun _ _ => id) keepsP (fun _ => keepsQ)
    (fun v _ busy held _ _ => ⟨?_, World.setRole_confined owns, kept v held⟩) fun v _ _ held _ _ => post v held)
  refine World.setRole_legal (Or.inr fun id same => ?_)
  have eq : id = j.id := GrantId.Owns.unique (by rw [same]; exact id.owns_self) owns
  exact alive_of busy (alive (by rw [same, eq])) owns id same

theorem deleteRole_works {name : String} (keepsP : Keeps terms j P) (keepsQ : Keeps terms j Q) (owns : j.id.Owns name)
    (kept : ∀ w, P w → P (w.setRole name none)) (post : ∀ w, P w → Q (w.setRole name none)) :
    Works terms j limit P (deleteRole name) (fun _ => Q) (Fails terms j P) :=
  Works.call_fails keepsP (fun _ => keepsQ) (Works.settled (fun c w => (rfl : _ = settleIf true c anyExc w
    (w.setRole name none) ())) (fun _ _ => id) keepsP (fun _ => keepsQ)
    (fun v _ _ held _ _ => ⟨World.setRole_legal (Or.inl rfl), World.setRole_confined owns, kept v held⟩)
    fun v _ _ held _ _ => post v held)

theorem createGrantToken_works {ttl : Int} {label : String} {E : Secret × String → World → Prop}
    (keepsP : Keeps terms j P) (keepsE : ∀ a, Keeps terms j (E a)) (owns : j.id.Owns label)
    (unrecorded : label = j.id.text → j.row.status.terminal = false ∧ j.row.tokenAccessor = none)
    (post : ∀ w secret accessor, Busy j w → P w → Inv terms w → w.vault.accessors accessor = none →
      P (w.addToken ⟨accessor, secret, label⟩) ∧ E (secret, accessor) (w.addToken ⟨accessor, secret, label⟩)) :
    Works terms j limit P (createGrantToken ttl label) E (Fails terms j P) := by
  refine Works.call_fails keepsP keepsE (Works.settled (fun c w => (rfl : _ = settleIf
    ((w.vault.accessors c.key).isNone && w.vault.tokens.all (·.secret ≠ c.secret)) c anyExc w
    (w.addToken ⟨c.key, c.secret, label⟩) (c.secret, c.key))) (fun _ _ => id) keepsP keepsE
    (fun v c busy held inv possible => ?_) fun v c busy held inv possible => ?_)
  · simp only [Bool.and_eq_true, Option.isNone_iff_eq_none] at possible
    refine ⟨World.addToken_legal possible.1 fun id same => ?_, World.addToken_confined owns,
      (post v _ _ busy held inv possible.1).1⟩
    have same : label = id.text := same
    have eq : id = j.id := GrantId.Owns.unique (by rw [same]; exact id.owns_self) owns
    subst eq
    obtain ⟨alive, none⟩ := unrecorded same
    exact ⟨j.row, busy.1.1, alive, none⟩
  · simp only [Bool.and_eq_true, Option.isNone_iff_eq_none] at possible
    exact (post v _ _ busy held inv possible.1).2

/-- A statement of a role or a lease of the grant. -/
theorem runStatement_works {db : DbType} {text account : String} {I J : World → Prop} (keepsI : Keeps terms j I)
    (keepsJ : Keeps terms j J)
    (effect : ∀ v u count, Busy j v → I v → Inv terms v → (terms.smooth j.id → count = 0) →
      v.statement db text account count = some u → Effect terms j v u J) :
    Works terms j limit I (ask (.runStatement db text account)) (fun _ => J)
      (fun e w => (I w ∨ J w) ∧ ¬terms.smooth j.id ∧ e.leaseGone = false) := by
  have keepsX (e : Exc) : Keeps terms j fun w => (I w ∨ J w) ∧ ¬terms.smooth j.id ∧ e.leaseGone = false := by
    refine Keeps.and (fun v w busy rely inv held => ?_) (Keeps.const _)
    rcases held with held | held
    · exact Or.inl (keepsI v w busy rely inv held)
    · exact Or.inr (keepsJ v w busy rely inv held)
  refine Works.ask keepsI (fun _ => keepsJ) keepsX fun v c answer u busy held inv executed smooth => ?_
  have rough (e : Exc) (fate : c.fate ≠ .ok) : ¬terms.smooth j.id :=
    fun smooth' => fate ((smooth smooth').ok fun _ => id)
  change exec j.thread (.runStatement db text account) c v = some (answer, u) at executed
  cases ran : v.statement db text account c.count with
  | none =>
    simp only [exec, ran] at executed
    obtain ⟨e, rfl, rfl, fate, honest⟩ := refuse_cases executed
    refine ⟨(Same.refl u).legal, Confined.refl j.id u, Or.inl held,
      rough e (fun same => by rw [fate] at same; cases same), ?_⟩
    simpa [World.honestStatement] using honest
  | some w' =>
    simp only [exec, ran] at executed
    obtain ⟨legal, confined, post⟩ := effect v w' c.count busy held inv (fun smooth' => (smooth smooth').ended _ _ _ rfl) ran
    rcases settle_cases executed with ⟨rfl, rfl, -⟩ | ⟨e, rfl, fate, ⟨rfl, -⟩ | rfl, honest⟩
    · exact ⟨legal, confined, post⟩
    · refine ⟨(Same.refl u).legal, Confined.refl j.id u, Or.inl held, rough e fate, ?_⟩
      simpa [World.honestStatement] using honest
    · refine ⟨legal, confined, Or.inr post, rough e fate, ?_⟩
      simpa [World.honestStatement] using honest

/-- Statements run in list order, with an assertion on what is left of the list. -/
theorem runStatements_works {db : DbType} {texts : List String} {account : String} {I : List String → World → Prop}
    (keeps : ∀ rest, Keeps terms j (I rest))
    (effect : ∀ text rest v u count, (∃ before, texts = before ++ text :: rest) → Busy j v → I (text :: rest) v →
      Inv terms v → (terms.smooth j.id → count = 0) → v.statement db text account count = some u →
      Effect terms j v u (I rest)) :
    Works terms j limit (I texts) (Interaction.Prog.forEach texts fun text => ask (.runStatement db text account))
      (fun _ => I []) (fun e w => (∃ rest, I rest w) ∧ ¬terms.smooth j.id ∧ e.leaseGone = false) := by
  refine Works.forEach I (keeps []) fun text rest split => ?_
  refine (runStatement_works (keeps _) (keeps rest) fun v u count => effect text rest v u count split).mono
    (fun _ held => held) (fun _ _ held => held) fun e w failed => ?_
  obtain ⟨left | left, rough⟩ := failed
  · exact ⟨⟨_, left⟩, rough⟩
  · exact ⟨⟨_, left⟩, rough⟩

theorem keeps_exists {ι : Type} {I : ι → World → Prop} (keeps : ∀ i, Keeps terms j (I i)) :
    Keeps terms j fun w => ∃ i, I i w := by
  rintro v w busy rely inv ⟨i, held⟩
  exact ⟨i, keeps i v w busy rely inv held⟩

/-- What a read of credentials tells. -/
def Told (terms : Terms) (name : String) (creds : Creds) (w : World) : Prop :=
  (∃ key, creds.leaseId = "database/creds/" ++ name ++ "/" ++ key) ∧
    ∃ read ∈ w.credsLog, read.role = name ∧ read.duration = creds.leaseDuration ∧ (terms.monotone → read.time ≤ w.clock)

theorem Told.keeps (name : String) (creds : Creds) : Keeps terms j (Told terms name creds) := by
  rintro v w busy rely inv ⟨key, read, member, role, duration, before⟩
  exact ⟨key, read, rely.reads read member, role, duration,
    fun monotone => (before monotone).trans (rely.clock monotone)⟩

/-- What Vault answers to a read of credentials; where calls go well it is not empty. -/
def Answered (terms : Terms) (j : Job) (name : String) (P : World → Prop) : Option Creds → World → Prop
  | some creds, w => P w ∧ Told terms name creds w
  | none, w => P w ∧ ¬terms.smooth j.id

theorem Answered.keeps {name : String} (keepsP : Keeps terms j P) (answer : Option Creds) :
    Keeps terms j (Answered terms j name P answer) := by
  cases answer with
  | some creds => exact keepsP.and (Told.keeps name creds)
  | none => exact keepsP.and (Keeps.const _)

/-- A read of the credentials of one of the grant's roles: the creation statements run under a new account
name, then there is a lease. -/
theorem readCredentials_works {token : Secret} {name : String} {role : Role} {I : List String → World → Prop}
    (keeps : ∀ rest, Keeps terms j (I rest)) (owns : j.id.Owns name)
    (known : ∀ w, I role.creation w → w.vault.roles name = some role)
    (effect : ∀ chars text rest v u count, isSuffix chars = true →
      (∃ before, role.creation = before ++ text :: rest) → Busy j v → I (text :: rest) v → Inv terms v →
      (terms.smooth j.id → count = 0) →
      v.statement role.db text (name ++ "_" ++ String.ofList chars) count = some u → Effect terms j v u (I rest))
    (proper : ∀ chars key, ProperLease (World.lease (World.opened name role chars) key))
    (alive : name = j.id.text → j.row.status.terminal = false)
    (close : ∀ o key secret duration v, o.role = name → I [] v → I [] (v.closed o key secret duration)) :
    Works terms j limit (I role.creation) (readCredentials token name)
      (fun creds w => I [] w ∧ Told terms name creds w)
      (fun _ w => (∃ rest, I rest w) ∧ ¬terms.smooth j.id) := by
  have keepsX (_ : Exc) : Keeps terms j fun w => (∃ rest, I rest w) ∧ ¬terms.smooth j.id :=
    (keeps_exists keeps).and (Keeps.const _)
  have opening : Works terms j limit (I role.creation) (ask (.credsOpen token name))
      (fun o w => (∃ chars, isSuffix chars = true ∧ o = World.opened name role chars) ∧ I role.creation w)
      (fun _ w => (∃ rest, I rest w) ∧ ¬terms.smooth j.id) := by
    refine Works.ask (keeps _) (fun _ => (Keeps.const _).and (keeps _)) keepsX
      fun v c answer u _ held _ executed smooth => ?_
    change exec j.thread (.credsOpen token name) c v = some (answer, u) at executed
    simp only [exec, known v held] at executed
    rcases settleIf_cases executed with ⟨rfl, rfl, -, possible⟩ | ⟨e, rfl, fate, effect, -⟩
    · simp only [Bool.and_eq_true] at possible
      exact ⟨(Same.refl u).legal, Confined.refl j.id u, ⟨c.chars, possible.2, rfl⟩, held⟩
    · have same : u = v := by rcases effect with same | ⟨same, -⟩ <;> exact same
      subst same
      exact ⟨(Same.refl u).legal, Confined.refl j.id u, ⟨_, held⟩,
        fun smooth' => fate ((smooth smooth').ok fun _ => id)⟩
  have closing (chars : List Char) : Works terms j limit (I []) (ask (.credsClose (World.opened name role chars)))
      (Answered terms j name (I []))
      (fun _ w => (∃ rest, I rest w) ∧ ¬terms.smooth j.id) := by
    refine Works.ask (keeps _) (Answered.keeps (keeps _)) keepsX fun v c answer u busy held inv executed smooth => ?_
    have legal (key : String) (secret : Secret) (duration : Nat) :
        Legal terms v (v.closed (World.opened name role chars) key secret duration) :=
      World.closed_legal (proper chars key) fun id same => by
        have same : name = id.text := same
        have eq : id = j.id := GrantId.Owns.unique (by rw [same]; exact id.owns_self) owns
        exact alive_of busy (alive (by rw [← eq, same])) owns id same
    have confined (key : String) (secret : Secret) (duration : Nat) :
        Confined j.id v (v.closed (World.opened name role chars) key secret duration) := World.closed_confined owns
    have executed : settleIf (v.liveLease (World.lease (World.opened name role chars) c.key).id).isNone c anyExc v
      (v.closed (World.opened name role chars) c.key c.secret c.count) (if c.flag then none else
        some ⟨name ++ "_" ++ String.ofList chars, c.secret, (World.lease (World.opened name role chars) c.key).id,
          c.count⟩) = some (answer, u) := executed
    have kept := close (World.opened name role chars) c.key c.secret c.count v rfl held
    rcases settleIf_cases executed with ⟨rfl, rfl, -, -⟩ | ⟨e, rfl, fate, rfl | ⟨rfl, -⟩, -⟩
    · refine ⟨legal _ _ _, confined _ _ _, ?_⟩
      cases flag : c.flag with
      | true =>
        refine ⟨kept, fun smooth' => ?_⟩
        rw [(smooth smooth').answered _ rfl] at flag
        cases flag
      | false =>
        exact ⟨kept, ⟨c.key, rfl⟩, _, List.mem_cons_self, rfl, rfl, fun _ => Nat.le_refl _⟩
    · exact ⟨(Same.refl u).legal, Confined.refl j.id u, ⟨_, held⟩,
        fun smooth' => fate ((smooth smooth').ok fun _ => id)⟩
    · exact ⟨legal _ _ _, confined _ _ _, ⟨[], kept⟩, fun smooth' => fate ((smooth smooth').ok fun _ => id)⟩
  have server : Works terms j limit (I role.creation) (vaultReadCreds token name) (Answered terms j name (I []))
      (fun _ w => (∃ rest, I rest w) ∧ ¬terms.smooth j.id) := by
    refine opening.bind fun o => ?_
    rintro w ⟨busy, ⟨chars, suffix, rfl⟩, held⟩
    have ran : Works terms j limit (I role.creation) _ _ _ := runStatements_works keeps fun text rest v u count =>
      effect chars text rest v u count suffix
    have statements := ran.mono (fun _ held => held) (fun _ _ post => post)
        (fun _ w failed => (⟨failed.1, failed.2.1⟩ : (∃ rest, I rest w) ∧ ¬terms.smooth j.id))
    exact (statements.bind fun _ => closing chars) w ⟨busy, held⟩
  refine server.bind fun answer => ?_
  cases answer with
  | some creds => exact Works.ret (Answered.keeps (keeps _) _) fun _ held => held
  | none => exact Works.raise (Answered.keeps (keeps _) _) fun _ held => ⟨⟨[], held.1⟩, held.2⟩

end calls
end Vdba
