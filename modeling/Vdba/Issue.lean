import Vdba.Sections

namespace Vdba
open Interaction (Triple Stable)

theorem isAccount_suffix (id : GrantId) {chars : List Char} (suffix : isSuffix chars = true) :
    isAccount (id.text ++ "_" ++ String.ofList chars) = true := by
  obtain ⟨⟨digits, length, hex⟩⟩ := id
  simp only [isSuffix, Bool.and_eq_true, decide_eq_true_eq] at suffix
  have text : (GrantId.text ⟨⟨digits, length, hex⟩⟩ ++ "_" ++ String.ofList chars).toList =
      "vdba_".toList ++ (digits ++ ("_".toList ++ chars)) := by
    simp only [String.toList_append, GrantId.text_toList, String.toList_ofList, List.append_assoc]
  have five : "vdba_".toList.length = 5 := rfl
  unfold isAccount
  rw [text]
  have after : ("vdba_".toList ++ (digits ++ ("_".toList ++ chars))).drop 5 = digits ++ ("_".toList ++ chars) :=
    List.drop_left' five
  have past : ("vdba_".toList ++ (digits ++ ("_".toList ++ chars))).drop 15 = "_".toList ++ chars := by
    rw [show (15 : Nat) = 5 + 10 from rfl, ← List.drop_drop, after]
    exact List.drop_left' length
  have last : ("vdba_".toList ++ (digits ++ ("_".toList ++ chars))).drop 16 = chars := by
    rw [show (16 : Nat) = 15 + 1 from rfl, ← List.drop_drop, past]
    rfl
  have total : ("vdba_".toList ++ (digits ++ ("_".toList ++ chars))).length = 22 := by
    have one : "_".toList.length = 1 := rfl
    simp only [List.length_append, length, suffix.1, five, one]
  have front : ("vdba_".toList ++ (digits ++ ("_".toList ++ chars))).take 5 = "vdba_".toList := List.take_left' five
  have middle : (digits ++ ("_".toList ++ chars)).take 10 = digits := List.take_left' length
  have dash : ("_".toList ++ chars).take 1 = ['_'] := rfl
  simp only [total, front, after, middle, past, dash, last, decide_true, Bool.true_and, Bool.and_eq_true,
    List.all_eq_true, decide_eq_true_eq]
  exact ⟨⟨hex, trivial⟩, fun c member => List.all_eq_true.mp suffix.2 c member⟩

section issue
variable {terms : Terms} {j : Job} {limit : Option Nat} {P : World → Prop} {v w : World} {role : Role}

/-- No account of the grant was ever locked out. -/
def Unbarred (id : GrantId) (w : World) : Prop := ∀ name, (id, name) ∉ w.lockedOut

theorem Unbarred.keeps : Keeps terms j (Unbarred j.id) := fun _ _ busy rely _ unbarred name member =>
  unbarred name ((rely.objects j.id busy.1.holds).lockedOut name member)

/-- The role of the grant as it was written. -/
def Written (id : GrantId) (role : Role) (w : World) : Prop := w.vault.roles id.text = some role

theorem Written.keeps : Keeps terms j (Written j.id role) := by
  intro v w busy rely _ written
  unfold Written
  rw [(rely.objects j.id busy.1.holds).roles j.id.text j.id.owns_self]
  exact written

/-- The grant has no token. -/
def Tokenless (id : GrantId) (w : World) : Prop := ∀ token ∈ w.vault.tokens, token.label ≠ id.text

theorem Tokenless.keeps : Keeps terms j (Tokenless j.id) := fun _ _ busy rely _ none token member label =>
  none token ((rely.objects j.id busy.1.holds).lessened.tokens token label member) label

/-- The token of the grant, if it lives, is the one of that accessor. -/
def Recorded (id : GrantId) (accessor : String) (w : World) : Prop :=
  w.vault.accessors accessor = some id.text ∧ ∀ token ∈ w.vault.tokens, token.label = id.text → token.accessor = accessor

theorem Recorded.keeps {accessor : String} : Keeps terms j (Recorded j.id accessor) := by
  intro v w busy rely _ recorded
  exact ⟨rely.accessors _ _ recorded.1, fun token member label =>
    recorded.2 token ((rely.objects j.id busy.1.holds).lessened.tokens token label member) label⟩

/-- The account Vault creates for the grant. -/
theorem create_effect {db : DbType} {text : String} {chars : List Char} {count : Nat} (busy : Busy j v)
    (inv : Inv terms v)
    (alive : j.row.status.terminal = false) (type : j.row.dbType = db) (unbarred : Unbarred j.id v)
    (suffix : isSuffix chars = true) (creating : Creating text)
    (ran : v.statement db text (j.id.text ++ "_" ++ String.ofList chars) count = some w) :
    Legal terms v w ∧ Confined j.id v w ∧ w.vault = v.vault ∧ w.lockedOut = v.lockedOut := by
  have frame : Frame terms v w := World.statement_frame ran
  have vault : w.vault = v.vault := World.statement_vault ran
  have account : j.id.OwnsAccount (j.id.text ++ "_" ++ String.ofList chars) := j.id.ownsAccount_suffix _
  rcases creating with none | create
  · have about : About j.id text (j.id.text ++ "_" ++ String.ofList chars) := by
      intro a acts
      rw [none] at acts
      cases acts
    have mild : Mild db text := by
      intro a acts
      rw [none] at acts
      cases acts
    exact ⟨World.statement_legal ran mild, World.statement_confined ran about, vault, frame.lockedOut⟩
  · have about : About j.id text (j.id.text ++ "_" ++ String.ofList chars) := by
      intro a acts
      rw [create] at acts
      cases acts
      rw [fill_hole]
      exact GrantId.owns_of_account account
    rcases World.statement_cases ran with ⟨none, -⟩ | ⟨a, d', acts, applied, same⟩
    · rw [create] at none
      cases none
    rw [create] at acts
    cases acts
    subst same
    simp only [fill_hole, Database.apply, Option.ite_none_left_eq_some, Option.some.injEq] at applied
    obtain ⟨-, rfl⟩ := applied
    refine ⟨⟨frame, fun _ member => Or.inl member, fun _ member => Or.inl member, fun db' name member => ?_,
      fun _ none => Or.inl none, fun id name _ barred shut => ?_⟩,
      World.statement_confined ran about, vault, frame.lockedOut⟩
    · by_cases here : db' = db
      · subst here
        rw [World.setDb_self] at member
        rcases List.mem_cons.mp member with rfl | member
        · refine Or.inr ⟨isAccount_suffix j.id suffix, fun id owns => ?_⟩
          rw [owns.unique account]
          exact ⟨j.row, busy.1.1, alive, type⟩
        · exact Or.inl member
      · rw [World.setDb_other v _ here] at member
        exact Or.inl member
    · have differs : name ≠ j.id.text ++ "_" ++ String.ofList chars := by
        rintro rfl
        have same : id = j.id := (inv.shut id _ barred).1.unique (GrantId.owns_of_account account)
        exact unbarred _ (same ▸ barred)
      unfold World.Shut Event.canLogin at shut ⊢
      by_cases here : DbType.postgres = db
      · subst here
        rw [World.setDb_self]
        simpa [differs] using shut
      · rwa [World.setDb_other v _ here]

theorem create_role_works {db : DbType} {creation revocation : List String} {ttl : Int}
    (alive : j.row.status.terminal = false) :
    Works terms j limit (fun w => Tokenless j.id w ∧ Unbarred j.id w) (writeRole j.id.text db creation revocation ttl)
      (fun _ w => Written j.id ⟨db, creation, revocation⟩ w ∧ Tokenless j.id w ∧ Unbarred j.id w)
      (fun _ _ => ¬terms.smooth j.id) := by
  have keeps : Keeps terms j fun w => Tokenless j.id w ∧ Unbarred j.id w := Tokenless.keeps.and Unbarred.keeps
  have run : Works terms j limit (fun w => Tokenless j.id w ∧ Unbarred j.id w)
      (writeRole j.id.text db creation revocation ttl)
      (fun _ w => Written j.id ⟨db, creation, revocation⟩ w ∧ Tokenless j.id w ∧ Unbarred j.id w)
      (Fails terms j fun w => Tokenless j.id w ∧ Unbarred j.id w) :=
    writeRole_works keeps (Written.keeps.and keeps) j.id.owns_self (fun _ => alive) (fun _ held => held)
      fun w held => ⟨by simp [Written, World.setRole], held⟩
  exact run.mono (fun _ held => held) (fun _ _ held => held) fun _ _ failed => failed.2

/-- A refusal of the token leaves none; any other failure may leave one. -/
theorem issue_token_works {ttl : Int} (alive : j.row.status.terminal = false) (blank : j.row.tokenAccessor = none) :
    Works terms j limit (fun w => Written j.id role w ∧ Tokenless j.id w ∧ Unbarred j.id w)
      (createGrantToken ttl j.id.text)
      (fun answer w => Recorded j.id answer.2 w ∧ Written j.id role w ∧ Unbarred j.id w)
      (fun _ _ => ¬terms.smooth j.id) := by
  let X (e : Exc) (w : World) : Prop :=
    (Written j.id role w ∧ (e.cls = .forbidden → Tokenless j.id w) ∧ Unbarred j.id w) ∧ ¬terms.smooth j.id
  have keepsP : Keeps terms j fun w => Written j.id role w ∧ Tokenless j.id w ∧ Unbarred j.id w :=
    Written.keeps.and (Tokenless.keeps.and Unbarred.keeps)
  have keepsE (answer : Secret × String) : Keeps terms j fun w =>
      Recorded j.id answer.2 w ∧ Written j.id role w ∧ Unbarred j.id w :=
    Recorded.keeps.and (Written.keeps.and Unbarred.keeps)
  have keepsX (e : Exc) : Keeps terms j (X e) := fun v w busy rely inv failed =>
    ⟨⟨Written.keeps v w busy rely inv failed.1.1, fun refused =>
      Tokenless.keeps v w busy rely inv (failed.1.2.1 refused), Unbarred.keeps v w busy rely inv failed.1.2.2⟩, failed.2⟩
  have run (ttl : Int) : Works terms j limit (fun w => Written j.id role w ∧ Tokenless j.id w ∧ Unbarred j.id w)
      (ask (.createToken ttl j.id.text))
      (fun (answer : Secret × String) w => Recorded j.id answer.2 w ∧ Written j.id role w ∧ Unbarred j.id w) X := by
    refine Works.ask keepsP keepsE keepsX fun v c answer u busy held inv executed smooth => ?_
    obtain ⟨written, tokenless, unbarred⟩ := held
    have rough (fate : c.fate ≠ .ok) : ¬terms.smooth j.id := fun smooth' => fate ((smooth smooth').ok fun _ => id)
    have executed : settleIf ((v.vault.accessors c.key).isNone && v.vault.tokens.all (·.secret ≠ c.secret)) c anyExc v
      (v.addToken ⟨c.key, c.secret, j.id.text⟩) (c.secret, c.key) = some (answer, u) := executed
    have effect (fresh : v.vault.accessors c.key = none) : Legal terms v (v.addToken ⟨c.key, c.secret, j.id.text⟩) ∧
        Confined j.id v (v.addToken ⟨c.key, c.secret, j.id.text⟩) := by
      refine ⟨World.addToken_legal fresh fun id same => ?_, World.addToken_confined j.id.owns_self⟩
      have eq : id = j.id := (GrantId.text_injective same).symm
      rw [eq]
      exact ⟨j.row, busy.1.1, alive, blank⟩
    rcases settleIf_cases executed with ⟨rfl, rfl, -, possible⟩ | ⟨e, rfl, fate, outcome, -⟩
    · simp only [Bool.and_eq_true, Option.isNone_iff_eq_none] at possible
      refine ⟨(effect possible.1).1, (effect possible.1).2, ⟨by simp [World.addToken], fun token member label => ?_⟩,
        written, unbarred⟩
      simp only [World.addToken, List.mem_cons] at member
      rcases member with rfl | member
      · rfl
      · exact absurd label (tokenless token member)
    · rcases outcome with rfl | ⟨rfl, possible⟩
      · exact ⟨(Same.refl u).legal, Confined.refl j.id u, ⟨written, fun _ => tokenless, unbarred⟩,
          rough fate⟩
      · have fresh := possible
        simp only [Bool.and_eq_true, Option.isNone_iff_eq_none] at fresh
        refine ⟨(effect fresh.1).1, (effect fresh.1).2, ⟨written, fun refused => ?_, unbarred⟩, rough fate⟩
        rw [settleIf, if_pos possible] at executed
        rw [settle_refused executed refused]
        exact tokenless
  have called := Works.call keepsP keepsE keepsX (run (ttl + TOKEN_GRACE_SECONDS)) (fun e w refused failed =>
      (⟨failed.1.1, failed.1.2.1 refused, failed.1.2.2⟩ : _ ∧ _ ∧ _))
    (fun e w failed _ => ⟨⟨failed.1.1, (fun refused => by cases refused), failed.1.2.2⟩, failed.2⟩)
    fun e w held rough _ => ⟨⟨held.1, fun _ => held.2.1, held.2.2⟩, rough⟩
  exact called.mono (fun _ held => held) (fun _ _ held => held) fun _ _ failed => failed.2

/-- The thread is still at work on the grant, whose row is not finished. -/
def Going (j : Job) (w : World) : Prop := ∃ j', Follows j j' ∧ j'.row.status.terminal = false ∧ Busy j' w

theorem Going.stable : Stable (portal terms) j.thread (Going j) := by
  rintro v w rely _ ⟨j', follows, alive, busy⟩
  rw [← follows.thread] at rely
  exact ⟨j', follows, alive, busy.rely rely.1⟩

theorem Going.earlier {j' : Job} (follows : Follows j j') (going : Going j' w) : Going j w := by
  obtain ⟨j'', later, alive, busy⟩ := going
  exact ⟨j'', follows.trans later, alive, busy⟩

theorem Going.now (alive : j.row.status.terminal = false) (busy : Busy j w) : Going j w :=
  ⟨j, ⟨rfl, rfl, rfl, rfl⟩, alive, busy⟩

theorem Miswritten.going {fields : GrantFields} {e : Exc} (failed : Miswritten terms j fields e w)
    (alive : j.row.status.terminal = false) (inactive : (fields.status.getD j.row.status).terminal = false) :
    Going j w := by
  rcases failed.1 with busy | ⟨now, busy⟩
  · exact .now alive busy
  · exact ⟨j.written now fields, ⟨rfl, rfl, rfl, rfl⟩, inactive, busy⟩

/-- The account, the lease and what Vault tells of them. -/
theorem issue_credentials_works {token : Secret} (alive : j.row.status.terminal = false) (type : j.row.dbType = role.db)
    (creating : ∀ text ∈ role.creation, Creating text) (revoking : role.revocation = revocationOf role.db) :
    Works terms j limit (fun w => Written j.id role w ∧ Unbarred j.id w) (readCredentials token j.id.text)
      (fun creds => Told terms j.id.text creds) (fun _ _ => ¬terms.smooth j.id) := by
  have keeps : Keeps terms j fun w => Written j.id role w ∧ Unbarred j.id w := Written.keeps.and Unbarred.keeps
  have run : Works terms j limit (fun w => Written j.id role w ∧ Unbarred j.id w) (readCredentials token j.id.text)
      (fun creds w => (Written j.id role w ∧ Unbarred j.id w) ∧ Told terms j.id.text creds w)
      (fun _ w => (∃ _ : List String, Written j.id role w ∧ Unbarred j.id w) ∧ ¬terms.smooth j.id) := by
    refine readCredentials_works (I := fun _ w => Written j.id role w ∧ Unbarred j.id w) (fun _ => keeps) j.id.owns_self
      (fun w held => held.1) (fun chars text rest v u count suffix split busy held inv _ ran => ?_)
      (fun chars key => ?_) (fun _ => alive) fun o key secret duration v _ held => held
    · obtain ⟨before, split⟩ := split
      obtain ⟨legal, confined, vault, lockedOut⟩ := create_effect busy inv alive type held.2 suffix
        (creating text (by rw [split]; simp)) ran
      refine ⟨legal, confined, ?_, ?_⟩
      · unfold Written
        rw [vault]
        exact held.1
      · unfold Unbarred
        rw [lockedOut]
        exact held.2
    · refine ⟨j.id, GrantId.owns_of_account (j.id.ownsAccount_suffix _), Or.inr ⟨rfl, ?_⟩⟩
      exact revoking
  exact run.mono (fun _ held => held) (fun _ _ held => held.2) fun _ _ failed => failed.2

/-- What `issue` writes of the credentials it has read. -/
def activation (creds : Creds) (now : Time) : GrantFields where
  status := some .active
  username := some creds.username
  leaseId := some creds.leaseId
  expiresAt := some (now + seconds creds.leaseDuration)

/-- The row of an active grant fits what Vault told. -/
theorem active_fits {creds : Creds} {now stamp : Time} (inv : Inv terms w) (busy : Busy j w)
    (told : Told terms j.id.text creds w) (read : terms.monotone → ∃ read ∈ w.credsLog, read.role = j.id.text ∧
      read.duration = creds.leaseDuration ∧ read.time ≤ now) :
    World.RowFits terms j.id (j.row.set stamp (activation creds now)) w := by
  refine ⟨nofun, fun a given => ?_, fun a given => ?_, fun l given => ?_, fun _ monotone _ => ?_⟩
  · exact inv.recorded j.id j.row a busy.1.1 given
  · exact inv.accessor j.id j.row a busy.1.1 given
  · have same : creds.leaseId = l := Option.some.inj given
    obtain ⟨key, lease⟩ := told.1
    rw [← same, lease]
    exact j.id.owns_leaseId key
  · obtain ⟨read, member, role, duration, before⟩ := read monotone
    refine ⟨read, member, role, _, rfl, ?_⟩
    rw [duration]
    exact Nat.add_le_add_right before _

/-- The inner `try` of `issue`: the row is not finished however it ends. -/
theorem issueSteps_triple {req : GrantRequest} {creation revocation : List String}
    (creating : ∀ text ∈ creation, Creating text) (revoking : revocation = revocationOf req.dbType)
    (status : j.row.status = .issuing) (type : j.row.dbType = req.dbType) (blank : j.row.tokenAccessor = none)
    (watch : j.watch = none) :
    Triple (portal terms) j.thread limit (fun w => Busy j w ∧ Tokenless j.id w ∧ Unbarred j.id w)
      (issueSteps req j.id creation revocation) (fun _ => Going j) (fun _ => Going j) := by
  have alive : j.row.status.terminal = false := by rw [status]; rfl
  let role : Role := ⟨req.dbType, creation, revocation⟩
  unfold issueSteps
  refine Triple.bind ((create_role_works alive).leaves (F := fun _ w => Busy j w ∧ Written j.id role w ∧
    Tokenless j.id w ∧ Unbarred j.id w) (fun _ _ busy held => ⟨busy, held⟩) fun _ _ busy _ => .now alive busy) fun _ => ?_
  refine Triple.bind ((issue_token_works alive blank).leaves (F := fun (answer : Secret × String) w =>
    Busy j w ∧ Recorded j.id answer.2 w ∧ Written j.id role w ∧ Unbarred j.id w)
    (fun _ _ busy held => ⟨busy, held⟩) fun _ _ busy _ => .now alive busy) fun answer => ?_
  obtain ⟨token, accessor⟩ := answer
  have record : Triple (portal terms) j.thread limit
      (fun w => Busy j w ∧ Recorded j.id accessor w ∧ Written j.id role w ∧ Unbarred j.id w)
      (updateGrant j.id { tokenAccessor := some accessor })
      (fun _ w => ∃ now, Busy (j.written now { tokenAccessor := some accessor }) w ∧
        Recorded j.id accessor w ∧ Written j.id role w ∧ Unbarred j.id w) (Miswritten terms j { tokenAccessor := some accessor }) := by
    have keeps (j : Job) : Keeps terms j fun w => Recorded j.id accessor w ∧ Written j.id role w ∧ Unbarred j.id w :=
      Recorded.keeps.and (Written.keeps.and Unbarred.keeps)
    refine updateGrant_triple (keeps j) (fun now => keeps (j.written now _)) (fun w now held => ?_)
      (fun w now busy held inv => ?_) (Or.inr watch) (fun k at_k => ?_) fun _ terminal => ?_
    · obtain ⟨vault, -, -, lockedOut, -⟩ := @World.updated_eq j.thread j.id w now { tokenAccessor := some accessor }
      unfold Recorded Written Unbarred
      rw [vault, lockedOut]
      exact held
    · refine ⟨fun terminal => ?_, fun a given => ?_, fun a given => ?_, fun l given => ?_, fun _ _ active => ?_⟩
      · exact absurd (alive.symm.trans terminal) nofun
      · have same : a = accessor := by
          have given := Option.mem_filter_iff.mp (given : a ∈ truthy (some accessor))
          exact (Option.some.inj given.1).symm
        rw [same]
        exact held.1.2
      · have same : accessor = a := Option.some.inj given
        rw [← same]
        exact held.1.1
      · exact inv.leaseId j.id j.row l busy.1.1 given
      · have active : j.row.status = .active := active
        rw [status] at active
        cases active
    · rw [watch] at at_k
      cases at_k
    · exact absurd (alive.symm.trans terminal) nofun
  refine Triple.bind (record.mono (fun _ held => held) (fun _ _ _ held => held) fun _ _ _ failed =>
    failed.going alive alive) fun _ => ?_
  refine Triple.of_forall fun stamp => ?_
  have follows : Follows j (j.written stamp { tokenAccessor := some accessor }) := ⟨rfl, rfl, rfl, rfl⟩
  generalize job : j.written stamp { tokenAccessor := some accessor } = j' at follows
  have same_id : j'.id = j.id := follows.id
  have same_thread : j'.thread = j.thread := follows.thread
  have alive' : j'.row.status.terminal = false := by rw [← job]; exact alive
  have type' : j'.row.dbType = role.db := by rw [← job]; exact type
  have watch' : j'.watch = none := by rw [← job]; exact watch
  rw [← same_id, ← same_thread]
  have read : Triple (portal terms) j'.thread limit
      (fun w => Busy j' w ∧ Recorded j'.id accessor w ∧ Written j'.id role w ∧ Unbarred j'.id w)
      (readCredentials token j'.id.text) (fun creds w => Busy j' w ∧ Told terms j'.id.text creds w)
      (fun _ => Going j) :=
    Triple.pre ((issue_credentials_works alive' type' creating revoking).leaves (fun _ _ busy told => ⟨busy, told⟩)
      fun _ _ busy _ => Going.earlier follows (.now alive' busy)) fun _ held => ⟨held.1, held.2.2⟩
  refine Triple.bind read fun creds => ?_
  have clock : Works terms j' limit (Told terms j'.id.text creds) time
      (fun now w => Told terms j'.id.text creds w ∧ (terms.monotone → ∃ read ∈ w.credsLog, read.role = j'.id.text ∧
        read.duration = creds.leaseDuration ∧ read.time ≤ now)) fun _ _ => False := by
    refine Works.time (Told.keeps _ _) (fun now => (Told.keeps _ _).and fun v w busy rely _ read monotone => ?_)
      fun v told _ => ⟨told, fun monotone => ?_⟩
    · obtain ⟨read, member, rest⟩ := read monotone
      exact ⟨read, rely.reads read member, rest⟩
    · obtain ⟨-, read, member, role, duration, before⟩ := told
      exact ⟨read, member, role, duration, before monotone⟩
  refine Triple.bind (clock.leaves (fun _ _ busy held => And.intro busy held) fun _ _ _ failed => failed.elim) fun now => ?_
  let fields : GrantFields := activation creds now
  have activate : Triple (portal terms) j'.thread limit (fun w => Busy j' w ∧ Told terms j'.id.text creds w ∧
      (terms.monotone → ∃ read ∈ w.credsLog, read.role = j'.id.text ∧ read.duration = creds.leaseDuration ∧
        read.time ≤ now)) (updateGrant j'.id fields)
      (fun _ w => ∃ stamp, Busy (j'.written stamp fields) w ∧ Told terms j'.id.text creds w ∧
        (terms.monotone → ∃ read ∈ w.credsLog, read.role = j'.id.text ∧ read.duration = creds.leaseDuration ∧
          read.time ≤ now)) (Miswritten terms j' fields) := by
    have keeps (j' : Job) : Keeps terms j' fun w => Told terms j'.id.text creds w ∧ (terms.monotone →
        ∃ read ∈ w.credsLog, read.role = j'.id.text ∧ read.duration = creds.leaseDuration ∧ read.time ≤ now) := by
      refine (Told.keeps _ _).and fun v w busy rely _ read monotone => ?_
      obtain ⟨read, member, rest⟩ := read monotone
      exact ⟨read, rely.reads read member, rest⟩
    refine updateGrant_triple (keeps j') (fun stamp => keeps (j'.written stamp fields)) (fun w stamp held => ?_)
      (fun w stamp busy held inv => active_fits inv busy held.1 held.2) (Or.inl rfl) (fun k at_k => ?_)
      fun _ terminal => ?_
    · obtain ⟨-, -, -, -, reads, clock, -⟩ := @World.updated_eq j'.thread j'.id w stamp fields
      unfold Told
      rw [reads, clock]
      exact held
    · rw [watch'] at at_k
      cases at_k
    · exact absurd (alive'.symm.trans terminal) nofun
  have going (stamp : Time) (w : World) (busy : Busy (j'.written stamp fields) w) : Going j w :=
    Going.earlier follows ⟨j'.written stamp fields, ⟨rfl, rfl, rfl, rfl⟩, rfl, busy⟩
  refine Triple.bind (activate.mono (fun _ held => held) (fun _ w _ held => ?_) fun _ w _ failed =>
    Going.earlier follows (failed.going alive' rfl)) fun _ => Triple.ret ?_ fun _ held => held
  · obtain ⟨stamp, busy, -⟩ := held
    exact going stamp w busy
  · rw [same_thread]
    exact Going.stable

/-- The thread has the lock and nothing else in flight. -/
def Locking (t : Nat) (db : DbType) (id : GrantId) (caller : Caller) (w : World) : Prop :=
  w.locks db = some ⟨t, id, caller⟩ ∧ ∀ other, (t, other) ∈ w.inflight → other = id

theorem Locking.stable {t : Nat} {db : DbType} {id : GrantId} {caller : Caller} :
    Stable (portal terms) t (Locking t db id caller) := fun _ _ rely _ locking =>
  ⟨(rely.1.locks db _ rfl).mpr locking.1, fun other member => locking.2 other (rely.1.inflight other member)⟩

theorem Busy.locking (busy : Busy j w) : Locking j.thread j.row.dbType j.id j.caller w := ⟨busy.1.2, busy.2.2.2⟩

theorem Going.locking (going : Going j w) : Locking j.thread j.row.dbType j.id j.caller w := by
  obtain ⟨j', follows, -, busy⟩ := going
  rw [← follows.thread, ← follows.id, ← follows.caller, ← follows.dbType]
  exact busy.locking

theorem Finished.locking {final : Status} (finished : Finished terms j final w) :
    Locking j.thread j.row.dbType j.id j.caller w := by
  obtain ⟨j', follows, busy, -⟩ := finished
  rw [← follows.thread, ← follows.id, ← follows.caller, ← follows.dbType]
  exact busy.locking

theorem Miswritten.locking {fields : GrantFields} {e : Exc} (failed : Miswritten terms j fields e w) :
    Locking j.thread j.row.dbType j.id j.caller w := by
  rcases failed.1 with busy | ⟨now, busy⟩
  · exact busy.locking
  · exact busy.locking

/-- The `except` of `issue` passes the exception on with the lock still held. -/
theorem issueFailed_triple {actor requestId : String} {exn : Exc} (caller : j.caller = .issue)
    {E : Creds → World → Prop}
    (monotone : limit = none → terms.monotone) :
    Triple (portal terms) j.thread limit (Going j) (issueFailed j.id actor requestId exn) E
      (fun _ => Locking j.thread j.row.dbType j.id j.caller) := by
  rintro w ⟨j', follows, alive, busy⟩
  have locking (w : World) (held : Locking j'.thread j'.row.dbType j'.id j'.caller w) :
      Locking j.thread j.row.dbType j.id j.caller w := by
    rw [← follows.thread, ← follows.id, ← follows.caller, ← follows.dbType]
    exact held
  have recorded : Triple (portal terms) j'.thread limit (fun w => Busy j' w ∧ True)
      (audit (some requestId) (some j'.id) actor "issue" "error" exn.cls.name)
      (fun _ w => Busy j' w ∧ Decides terms j' .failed w) (fun _ => Locking j'.thread j'.row.dbType j'.id j'.caller) :=
    (audit_works _ _ _ _ _ _).leaves (fun _ _ busy _ => ⟨busy, fun reconcile => by
      rw [follows.caller, caller] at reconcile
      cases reconcile⟩) fun _ w busy _ => busy.locking
  have cleaned : Triple (portal terms) j'.thread limit (fun w => Busy j' w ∧ Decides terms j' .failed w)
      (teardown j'.id .failed (some requestId) "system" false)
      (fun _ => Locking j'.thread j'.row.dbType j'.id j'.caller)
      (fun _ => Locking j'.thread j'.row.dbType j'.id j'.caller) :=
    (teardown_triple alive rfl monotone).mono (fun _ held => held) (fun _ _ _ finished => finished.locking)
      fun _ w _ failed => failed.1.locking
  have run : Triple (portal terms) j'.thread limit (fun w => Busy j' w ∧ True)
      (issueFailed j'.id actor requestId exn) E (fun _ => Locking j.thread j.row.dbType j.id j.caller) :=
    (Triple.bind recorded fun _ => Triple.bind cleaned fun _ => Triple.raise Locking.stable fun w held => held).mono
      (fun _ held => held) (fun _ _ _ held => held) fun _ w _ held => locking w held
  rw [follows.thread, follows.id] at run
  exact run w ⟨busy, trivial⟩

/-- A new row: nothing of the grant is there yet. -/
theorem insert_triple {t : Nat} {db : DbType} {id : GrantId} {g : NewGrant} (same : g.id = id) (type : g.dbType = db) :
    Triple (portal terms) t limit (Entered t db id .issue) (insertGrant g)
      (fun _ w => ∃ j, j.thread = t ∧ j.id = id ∧ j.caller = .issue ∧ j.watch = none ∧ (∃ now, j.row = World.newRow now g) ∧
        Busy j w ∧ Tokenless id w ∧ Unbarred id w) (fun _ => Entered t db id .issue) := by
  have after : Stable (portal terms) t fun w => ∃ j, j.thread = t ∧ j.id = id ∧ j.caller = .issue ∧ j.watch = none ∧
      (∃ now, j.row = World.newRow now g) ∧ Busy j w ∧ Tokenless id w ∧ Unbarred id w := by
    rintro v w rely inv ⟨j, rfl, rfl, caller, watch, row, busy, held⟩
    have keeps : Keeps terms j fun w => Tokenless j.id w ∧ Unbarred j.id w := Tokenless.keeps.and Unbarred.keeps
    exact ⟨j, rfl, rfl, caller, watch, row, busy.rely rely.1, keeps v w busy rely.1 inv held⟩
  have clock : Triple (portal terms) t limit (Entered t db id .issue) time (fun _ => Entered t db id .issue)
      (fun _ => Entered t db id .issue) := by
    refine Triple.perform Entered.stable (fun _ => Entered.stable) (fun _ => Entered.stable) ?_
    rintro v entered inv answer u ⟨c, executed, allowed⟩
    cases executed
    exact ⟨inv, ⟨(Same.refl v).guar inv t, allowed.solo⟩, entered⟩
  unfold insertGrant
  refine Triple.bind clock fun now => ?_
  refine Triple.perform Entered.stable (fun _ => after) (fun _ => Entered.stable) ?_
  rintro v entered inv answer u ⟨c, executed, allowed⟩
  have executed : settleIf (v.row g.id).isNone c anyExc v (v.inserted t now g) () = some (answer, u) := executed
  have effect (absent : (v.row g.id).isNone = true) : Inv terms (v.inserted t now g) ∧
      (portal terms).Guar t v (v.inserted t now g) ∧ Entered t db id .issue (v.inserted t now g) ∧
      ∃ j, j.thread = t ∧ j.id = id ∧ j.caller = .issue ∧ j.watch = none ∧ (∃ now, j.row = World.newRow now g) ∧
        Busy j (v.inserted t now g) ∧ Tokenless id (v.inserted t now g) ∧ Unbarred id (v.inserted t now g) := by
    rw [Option.isNone_iff_eq_none] at absent
    obtain ⟨clean, unbarred⟩ := inv.absent g.id absent
    refine ⟨World.insert_inv inv absent, ⟨World.insert_guar absent ⟨db, .issue, ?_⟩ entered.watch, allowed.solo⟩,
      ⟨entered.lock, entered.watch, entered.inflight⟩, ⟨t, id, World.newRow now g, .issue, none, v.deadline t⟩, rfl, rfl,
      rfl, rfl, ⟨now, rfl⟩, ⟨⟨?_, ?_⟩, entered.watch, rfl, entered.inflight⟩, ?_, ?_⟩
    · rw [same]
      exact entered.lock
    · rw [← same]
      exact World.inserted_row absent
    · change v.locks g.dbType = _
      rw [type]
      exact entered.lock
    · rw [← same]
      exact clean.tokens
    · rw [← same]
      exact unbarred
  rcases settleIf_cases executed with ⟨rfl, rfl, -, absent⟩ | ⟨e, rfl, -, rfl | ⟨rfl, absent⟩, -⟩
  · obtain ⟨inv', guar, -, post⟩ := effect absent
    exact ⟨inv', guar, post⟩
  · exact ⟨inv, ⟨(Same.refl u).guar inv t, allowed.solo⟩, entered⟩
  · obtain ⟨inv', guar, entered', -⟩ := effect absent
    exact ⟨inv', guar, entered'⟩

theorem Entered.locking {t : Nat} {db : DbType} {id : GrantId} {caller : Caller} (entered : Entered t db id caller w) :
    Locking t db id caller w := ⟨entered.lock, entered.inflight⟩

theorem issueLocked_triple {t : Nat} {id : GrantId} {req : GrantRequest} {actor requestId : String}
    {creation revocation : List String} (creating : ∀ text ∈ creation, Creating text)
    (revoking : revocation = revocationOf req.dbType) (monotone : limit = none → terms.monotone) :
    Triple (portal terms) t limit (Entered t req.dbType id .issue) (issueLocked req actor requestId id creation revocation)
      (fun _ => Locking t req.dbType id .issue) (fun _ => Locking t req.dbType id .issue) := by
  unfold issueLocked
  refine Triple.bind ((insert_triple rfl rfl).mono (fun _ held => held) (fun _ _ _ held => held)
    fun _ _ _ entered => entered.locking) fun _ => ?_
  refine Triple.of_forall fun j => ?_
  rintro w ⟨rfl, rfl, caller, watch, ⟨now, row⟩, held⟩
  have type : j.row.dbType = req.dbType := by rw [row]; rfl
  have status : j.row.status = .issuing := by rw [row]; rfl
  have blank : j.row.tokenAccessor = none := by rw [row]; rfl
  have locks (w : World) (held : Locking j.thread j.row.dbType j.id j.caller w) :
      Locking j.thread req.dbType j.id .issue w := by
    rw [← type, ← caller]
    exact held
  have steps : Triple (portal terms) j.thread limit (fun w => Busy j w ∧ Tokenless j.id w ∧ Unbarred j.id w)
      ((issueSteps req j.id creation revocation).onError (issueFailed j.id actor requestId)) (fun _ => Going j)
      (fun _ => Locking j.thread j.row.dbType j.id j.caller) :=
    Triple.onError (issueSteps_triple creating revoking status type blank watch) (fun _ => Going.stable)
      fun exn => issueFailed_triple caller monotone
  refine Triple.bind (steps.mono (fun _ held => held) (fun _ _ _ held => held) fun _ w _ held => locks w held)
    (fun creds => ?_) w held
  have recorded : Triple (portal terms) j.thread limit (Going j)
      (audit (some requestId) (some j.id) actor "issue" "ok" (req.dbType.value ++ " " ++ req.scope.value))
      (fun _ => Locking j.thread j.row.dbType j.id j.caller) (fun _ => Locking j.thread j.row.dbType j.id j.caller) := by
    rintro w ⟨j', follows, alive, busy⟩
    have locking (w : World) (busy : Busy j' w) : Locking j.thread j.row.dbType j.id j.caller w :=
      Going.locking ⟨j', follows, alive, busy⟩
    have run : Triple (portal terms) j'.thread limit (fun w => Busy j' w ∧ True)
        (audit (some requestId) (some j.id) actor "issue" "ok" (req.dbType.value ++ " " ++ req.scope.value))
        (fun _ => Locking j.thread j.row.dbType j.id j.caller) (fun _ => Locking j.thread j.row.dbType j.id j.caller) :=
      (audit_works _ _ _ _ _ _).leaves (fun _ w busy _ => locking w busy) fun _ w busy _ => locking w busy
    rw [follows.thread] at run
    exact run w ⟨busy, trivial⟩
  refine Triple.bind (recorded.mono (fun _ held => held) (fun _ w _ held => locks w held) fun _ w _ held =>
    locks w held) fun _ => Triple.ret Locking.stable fun _ held => held

/-- `mutate_statements` adds no statement that does anything to an account. -/
theorem mutateStatements_triple {t : Nat} {cfg : Config} {creation : List String}
    (creating : ∀ text ∈ creation, Creating text) :
    Triple (portal terms) t limit (fun w => w.Resting t ∧ True) (mutateStatements cfg creation)
      (fun mutated w => (∀ text ∈ mutated, Creating text) ∧ w.Resting t ∧ True) (fun _ w => w.Resting t ∧ True) := by
  have rests : Lasting terms t fun _ => True := Lasting.const True
  have stable : Stable (portal terms) t fun w => w.Resting t ∧ True := resting_stable rests.stable
  unfold mutateStatements
  split
  · refine Triple.bind (Plain.ask rests rfl) fun (armed : Bool) => ?_
    split
    · refine Triple.ret stable fun w held => ⟨fun text member => ?_, held⟩
      rcases List.mem_append.mp member with member | member
      · exact creating text member
      · rw [List.mem_singleton.mp member]
        exact Or.inl (act_grant (by decide))
    · exact Triple.ret stable fun w held => ⟨creating, held⟩
  · exact Triple.ret stable fun w held => ⟨creating, held⟩

theorem newGrantId_plain {t : Nat} : Plain terms t limit (fun _ => True) newGrantId :=
  Plain.bind (Plain.ask (Lasting.const True) rfl) fun _ => Plain.ret (Lasting.const True) _

theorem issue_triple {t : Nat} (cfg : Config) (req : GrantRequest) (actor requestId : String)
    (loud : ∀ id, ¬terms.quiet id) (monotone : limit = none → terms.monotone) :
    Plain terms t limit (fun _ => True) (issue cfg req actor requestId) := by
  have rests : Lasting terms t fun _ => True := Lasting.const True
  unfold issue
  refine Plain.bind (Plain.lift rests _) fun _ => Plain.bind (Plain.catalog rests _) fun cat => ?_
  cases built : buildStatements req.dbType req.scope req.tables req.commands cat.tables cat.sequences with
  | error exn => exact Plain.raise rests exn
  | ok statements =>
    obtain ⟨creation, revocation⟩ := statements
    obtain ⟨creating, revoking⟩ := buildStatements_ok built
    change Triple _ _ _ _ ((mutateStatements cfg creation).bind _) _ _
    refine Triple.bind (mutateStatements_triple creating) fun mutated => Triple.of_fact fun creating' => ?_
    refine Triple.bind newGrantId_plain fun id => ?_
    have entered : Triple (portal terms) t limit (fun w => w.Resting t ∧ True) (begin_ req.dbType id .issue)
        (fun _ => Entered t req.dbType id .issue) (fun _ w => w.Resting t ∧ True) :=
      (begin_triple rests (fun w _ other => absurd rfl other) (loud id)).mono (fun _ held => held)
        (fun _ _ _ held => held.1.1) fun _ _ _ held => held.1
    refine Triple.bind entered fun _ => ?_
    have leave : Triple (portal terms) t limit (Locking t req.dbType id .issue) (end_ req.dbType id)
        (fun _ w => w.Resting t ∧ True) (fun _ w => w.Resting t ∧ True) :=
      Triple.pre (end_triple rests) fun _ locking => ⟨locking, trivial⟩
    have stable : Stable (portal terms) t fun w => w.Resting t ∧ True := resting_stable rests.stable
    refine Triple.bind (Triple.finally_ (issueLocked_triple creating' revoking monotone) (fun _ => leave) (fun _ => leave)
      (fun _ => stable) fun _ => stable) fun creds => ?_
    exact Plain.bind (Plain.publicGrant rests id) fun g => Plain.ret rests _

end issue
end Vdba
