import Vdba.HelperCalls

namespace Vdba
open Interaction (Triple Stable)

section searches
variable {terms : Terms} {j : Job} {limit : Option Nat} {P : World → Prop} {v w : World} {db : DbType}

/-- Every lease of the grant's role is in the list. -/
def CoversLeases (id : GrantId) (listed : List String) (w : World) : Prop :=
  ∀ lease ∈ w.vault.leases, lease.role = id.text → lease.id ∈ listed

/-- Every token of the grant is in the list. -/
def CoversTokens (id : GrantId) (accessors : List String) (w : World) : Prop :=
  ∀ token ∈ w.vault.tokens, token.label = id.text → token.accessor ∈ accessors

/-- Every account of the grant in the database is in the list. -/
def CoversAccounts (db : DbType) (id : GrantId) (names : List String) (w : World) : Prop :=
  ∀ name ∈ (w.dbs db).accounts, id.OwnsAccount name → name ∈ names

theorem CoversLeases.down (listed : List String) : Down j (CoversLeases j.id listed) :=
  fun _ _ lessened covers lease member role => covers lease (lessened.leases lease role member) role

theorem CoversTokens.down (accessors : List String) : Down j (CoversTokens j.id accessors) :=
  fun _ _ lessened covers token member label => covers token (lessened.tokens token label member) label

theorem CoversAccounts.down (names : List String) : Down j (CoversAccounts db j.id names) :=
  fun _ _ lessened covers name member owns =>
    covers name (lessened.accounts db name (GrantId.owns_of_account owns) member) owns

/-- All the accessors are of tokens that no other grant owns. -/
def DropsAll (id : GrantId) (accessors : List String) (w : World) : Prop := ∀ a ∈ accessors, Drops id a w

theorem DropsAll.down (accessors : List String) : Down j (DropsAll j.id accessors) :=
  fun v w lessened drops a member => Drops.down v w lessened (drops a member)

theorem listLeases_works (keepsP : Keeps terms j P) :
    Works terms j limit P (listLeases j.id.text)
      (fun listed w => (∀ l ∈ listed, j.id.OwnsLease l) ∧ P w ∧ CoversLeases j.id listed w) (Fails terms j P) := by
  let full (resp : Option (List String)) : List String :=
    (resp.getD []).map fun key => "database/creds/" ++ j.id.text ++ "/" ++ key
  have keepsE (resp : Option (List String)) : Keeps terms j fun w => P w ∧ CoversLeases j.id (full resp) w :=
    keepsP.and (CoversLeases.down _).keeps
  have keys_of (w : World) (names : List String)
      (perm : names.isPerm ((w.vault.leases.filter (·.role = j.id.text)).map (·.key)) = true) :
      CoversLeases j.id (full (some names)) w := by
    intro lease member role
    refine List.mem_map.mpr ⟨lease.key, ?_, by rw [Lease.id, role]⟩
    rw [Option.getD_some, (List.isPerm_iff.mp perm).mem_iff]
    exact List.mem_map.mpr ⟨lease, List.mem_filter.mpr ⟨member, by simpa using role⟩, rfl⟩
  have run : Works terms j limit P (ask (.listLeases j.id.text))
      (fun (resp : Option (List String)) w => P w ∧ CoversLeases j.id (full resp) w) (Fails terms j P) := by
    refine Works.ask keepsP keepsE keepsP.fails fun v c answer u _ held _ executed smooth => ?_
    have executed : (if c.flag && ((v.vault.leases.filter (·.role = j.id.text)).map (·.key)).isEmpty then
        settle c anyExc v v none
      else settleIf (c.names.isPerm ((v.vault.leases.filter (·.role = j.id.text)).map (·.key))) c anyExc v v
        (some c.names)) = some (answer, u) := executed
    have rough (fate : c.fate ≠ .ok) : ¬terms.smooth j.id := fun smooth' => fate ((smooth smooth').ok fun _ => id)
    split at executed
    · rename_i none
      simp only [Bool.and_eq_true, List.isEmpty_iff, List.map_eq_nil_iff] at none
      rcases settle_cases executed with ⟨rfl, rfl, -⟩ | ⟨e, rfl, fate, effect, -⟩
      · refine ⟨(Same.refl u).legal, Confined.refl j.id u, held, fun lease member role => ?_⟩
        have found : lease ∈ u.vault.leases.filter (·.role = j.id.text) :=
          List.mem_filter.mpr ⟨member, by simpa using role⟩
        rw [none.2] at found
        cases found
      · have eq : u = v := by rcases effect with ⟨eq, -⟩ | eq <;> exact eq
        subst eq
        exact ⟨(Same.refl u).legal, Confined.refl j.id u, held, rough fate⟩
    · rcases settleIf_cases executed with ⟨rfl, rfl, -, perm⟩ | ⟨e, rfl, fate, effect, -⟩
      · exact ⟨(Same.refl u).legal, Confined.refl j.id u, held, keys_of u c.names perm⟩
      · have eq : u = v := by rcases effect with eq | ⟨eq, -⟩ <;> exact eq
        subst eq
        exact ⟨(Same.refl u).legal, Confined.refl j.id u, held, rough fate⟩
  refine (Works.call_fails keepsP keepsE run).bind fun resp => Works.ret (keepsE resp) fun w held => ⟨?_, held⟩
  intro l member
  obtain ⟨key, -, rfl⟩ := List.mem_map.mp member
  exact j.id.owns_leaseId key

theorem connect_works (keepsP : Keeps terms j P) :
    Works terms j limit P (connect_ db) (fun _ => P) (Fails terms j P) := by
  have login (db : DbType) : Works terms j limit P (introspectCredentials db) (fun _ => P) (Fails terms j P) :=
    Works.call_fails keepsP (fun _ => keepsP) (Works.quiet
      (fun c w => (rfl : _ = settleIf true c anyExc w w (c.key, c.secret))) (fun _ _ => id) keepsP (fun _ => keepsP)
      fun _ _ _ held _ _ => held)
  have connect (user : String) (password : Secret) :
      Works terms j limit P (ask (.connect db user password)) (fun _ => P) (Fails terms j P) :=
    Works.quiet (fun c w => (rfl : _ = settleIf true c anyExc w w ())) (fun _ _ => id) keepsP (fun _ => keepsP)
      fun _ _ _ held _ _ => held
  cases db with
  | postgres => exact (login .postgres).bind fun creds => connect creds.1 creds.2
  | clickhouse => exact (login .clickhouse).bind fun creds => connect creds.1 creds.2

theorem accountsWith_mem {name : String} :
    name ∈ w.accountsWith db (j.id.text ++ "_") ↔ name ∈ (w.dbs db).accounts ∧ j.id.OwnsAccount name := by
  rw [World.accountsWith, List.mem_filter, decide_eq_true_eq]
  rfl

/-- What a search for the accounts of the grant tells. -/
structure AccountsFound (terms : Terms) (j : Job) (db : DbType) (names : List String) (w : World) : Prop where
  covers : CoversAccounts db j.id names w
  sought : db = .postgres → ∀ name ∈ names, terms.kept name → w.Sought j.id name

/-- The accounts of a list are accounts of the grant. -/
def Accounts (id : GrantId) (names : List String) : Prop :=
  ∀ name ∈ names, isAccount name = true ∧ id.OwnsAccount name

theorem AccountsFound.hereditary {names : List String} (accounts : Accounts j.id names) :
    Hereditary terms j (AccountsFound terms j db names) := fun v w aside found =>
  ⟨CoversAccounts.down names v w aside.toLessened found.covers, fun postgres name member kept =>
    aside.sought name kept (GrantId.owns_of_account (accounts name member).2) (found.sought postgres name member kept)⟩

theorem World.searched_listed {names : List String} {name : String} (busy : Busy j v) (tearing : j.Tearing)
    (member : name ∈ names) : (j.id, name) ∈ (v.searched j.thread names).listed := by
  obtain ⟨k, watch, grant⟩ := tearing
  unfold searched
  rw [busy.2.1, watch, Option.toList_some, List.flatMap_singleton, ← grant]
  exact List.mem_append_left _ (List.mem_map_of_mem member)

theorem findAccounts_works (tearing : j.Tearing) (down : Down j P) :
    Works terms j limit P (findAccounts db j.id)
      (fun names w => (Accounts j.id names ∧ ∀ name ∈ names, ∃ v, P v ∧ name ∈ (v.dbs db).accounts) ∧
        P w ∧ AccountsFound terms j db names w) (Fails terms j P) := by
  have keepsP : Keeps terms j P := down.keeps
  refine (connect_works keepsP).bind fun _ => ?_
  have keepsE (names : List String) : Keeps terms j fun w =>
      (Accounts j.id names ∧ ∀ name ∈ names, ∃ v, P v ∧ name ∈ (v.dbs db).accounts) ∧
        P w ∧ AccountsFound terms j db names w := by
    rintro v w busy rely inv ⟨accounts, held, found⟩
    exact ⟨accounts, keepsP v w busy rely inv held,
      (AccountsFound.hereditary accounts.1).keeps tearing v w busy rely inv found⟩
  have searched (v : World) (names : List String) : Same terms v (v.searched j.thread names) :=
    v.searched_same j.thread names
  have after (v : World) (names : List String) (held : P v) : P (v.searched j.thread names) :=
    down v _ ((searched v names).shrunk j.thread j.id).lessened held
  refine Works.settled (fun c w => (rfl : _ = settleIf (c.names.isPerm (w.accountsWith db (j.id.text ++ "_"))) c anyExc w
    (w.searched j.thread c.names) c.names)) (fun _ _ => id) keepsP keepsE (fun v c _ held _ _ => ?_)
    fun v c busy held inv perm => ?_
  · exact ⟨(searched v c.names).legal, (searched v c.names).confined j.id, after v c.names held⟩
  have dbs := (searched v c.names).dbs
  have found (name : String) : name ∈ c.names ↔ name ∈ (v.dbs db).accounts ∧ j.id.OwnsAccount name := by
    rw [(List.isPerm_iff.mp perm).mem_iff]
    exact accountsWith_mem
  refine ⟨⟨fun name member => ?_, fun name member => ⟨v, held, ((found name).mp member).1⟩⟩, after v c.names held,
    fun name member owns => ?_, fun postgres name member _ => ⟨World.searched_listed busy tearing member, ?_⟩⟩
  · obtain ⟨present, owns⟩ := (found name).mp member
    exact ⟨(inv.accounts db name present).1, owns⟩
  · rw [dbs] at member
    exact (found name).mpr ⟨member, owns⟩
  · obtain ⟨present, -⟩ := (found name).mp member
    rw [postgres] at present
    unfold World.Ready World.Closing Event.canLogin
    rw [dbs]
    cases login : (v.dbs .postgres).login name with
    | true => exact Or.inl (by simp [present])
    | false => exact Or.inr ⟨rfl, Or.inl present⟩

/-- What a lookup of an accessor tells. -/
def Looked (id : GrantId) (a : String) : Option String → World → Prop
  | some name, w => ∃ label, w.vault.accessors a = some label ∧ name = "token-" ++ dashed label
  | none, w => NoToken id a w

theorem Looked.down (a : String) (info : Option String) : Down j (Looked j.id a info) := by
  cases info with
  | none => exact NoToken.down
  | some name =>
    rintro v w lessened ⟨label, known, same⟩
    exact ⟨label, lessened.accessors a label known, same⟩

theorem lookup_works (keepsP : Keeps terms j P) (a : String) :
    Works terms j limit P ((Service.call (ask (.lookupAccessor a))).onError fun exn =>
      if exn.gone then .ret none else .raise exn) (fun info w => P w ∧ Looked j.id a info w) (Fails terms j P) := by
  have keepsE (info : Option String) : Keeps terms j fun w => P w ∧ Looked j.id a info w :=
    keepsP.and (Looked.down a info).keeps
  refine Works.unlessGone speaks_gone keepsP NoToken.down keepsE ?_ fun _ held none => ⟨held, none⟩
  refine Works.ask keepsP keepsE (GoneFails.keeps keepsP NoToken.down) fun v c answer u _ held inv executed smooth => ?_
  change exec j.thread (.lookupAccessor a) c v = some (answer, u) at executed
  cases at_a : v.vault.tokens.find? (·.accessor = a) with
  | some token =>
    simp only [exec, at_a] at executed
    have member := List.mem_of_find?_eq_some at_a
    have same : token.accessor = a := by simpa using List.find?_some at_a
    rcases settle_cases executed with ⟨rfl, rfl, -⟩ | ⟨e, rfl, fate, effect, honest⟩
    · refine ⟨(Same.refl u).legal, Confined.refl j.id u, held, token.label, ?_, rfl⟩
      rw [← same]
      exact inv.tokens token member
    · have eq : u = v := by rcases effect with ⟨eq, -⟩ | eq <;> exact eq
      subst eq
      refine ⟨(Same.refl u).legal, Confined.refl j.id u, held, fun said => ?_, fun smooth' => ?_⟩
      · exact noToken_of_live _ (by simpa [World.honestLookup, said] using honest)
      · have gone := (smooth smooth').gone executed
        exact gone.1
  | none =>
    simp only [exec, at_a] at executed
    obtain ⟨e, rfl, rfl, fate, -⟩ := refuse_cases executed
    refine ⟨(Same.refl u).legal, Confined.refl j.id u, held, fun _ token member _ => ?_,
      fun smooth' => ?_⟩
    · simpa using List.find?_eq_none.mp at_a token member
    · rcases (smooth smooth').fate with ok | ⟨e', failed, gone⟩
      · rw [fate] at ok
        cases ok
      · rw [fate] at failed
        cases failed
        exact gone.1

/-- The tokens of the grant among the keys are found. -/
def Caught (id : GrantId) (keys found : List String) (w : World) : Prop :=
  ∀ token ∈ w.vault.tokens, token.label = id.text → token.accessor ∈ keys → token.accessor ∈ found

theorem Caught.down (keys found : List String) : Down j (Caught j.id keys found) :=
  fun _ _ lessened caught token member label => caught token (lessened.tokens token label member) label

/-- The token behind a looked-up accessor is the grant's if the name is one of the grant's. -/
theorem Looked.drops {a name : String} (looked : Looked j.id a (some name) w) (found : name ∈ displayNames j.id.text) :
    Drops j.id a w := by
  obtain ⟨label, known, rfl⟩ := looked
  have dash : dashed label = dashed j.id.text :=
    @dashed_of_displayName j.id ⟨a, ⟨""⟩, label⟩ found
  exact ⟨label, known, Or.inr dash⟩

theorem Looked.other {a name : String} (looked : Looked j.id a (some name) w) (missed : name ∉ displayNames j.id.text)
    (inv : Inv terms w) : NoToken j.id a w := by
  intro token member label same
  obtain ⟨known_label, known, rfl⟩ := looked
  have own := inv.tokens token member
  rw [same, known] at own
  cases own
  exact missed (displayName_mem j.id token label)

theorem lookupAll_works (keys : List String) (keepsP : Keeps terms j P) :
    Works terms j limit P (lookupAll (displayNames j.id.text) keys)
      (fun found w => P w ∧ Caught j.id keys found w ∧ DropsAll j.id found w) (Fails terms j P) := by
  induction keys generalizing P with
  | nil =>
    refine Works.ret keepsP fun w held => ⟨held, fun token member label key => ?_, fun a key => ?_⟩
    · cases key
    · cases key
  | cons a rest ih =>
    have keepsL (info : Option String) : Keeps terms j fun w => P w ∧ Looked j.id a info w :=
      keepsP.and (Looked.down a info).keeps
    have keepsF (info : Option String) (found : List String) : Keeps terms j fun w =>
        (P w ∧ Looked j.id a info w) ∧ Caught j.id rest found w ∧ DropsAll j.id found w :=
      (keepsL info).and ((Caught.down rest found).keeps.and (DropsAll.down found).keeps)
    have missed {found : List String} {w : World} (none : NoToken j.id a w) (caught : Caught j.id rest found w) :
        Caught j.id (a :: rest) found w := by
      intro token member label key
      rcases List.mem_cons.mp key with same | key
      · exact absurd same (none token member label)
      · exact caught token member label key
    refine (lookup_works keepsP a).bind fun info => ?_
    refine ((ih (keepsL info)).mono (fun _ held => held) (fun _ _ held => held) fun _ _ failed =>
      ⟨failed.1.1, failed.2⟩).bind fun found => ?_
    cases info with
    | none =>
      exact Works.ret (keepsF _ found) fun w held => ⟨held.1.1, missed held.1.2 held.2.1, held.2.2⟩
    | some name =>
      by_cases shown : name ∈ displayNames j.id.text
      · simp only [shown, if_true]
        refine Works.ret (keepsF _ found) fun w held => ⟨held.1.1, fun token member label key => ?_, fun b member => ?_⟩
        · rcases List.mem_cons.mp key with same | key
          · rw [same]
            exact List.mem_cons_self
          · exact List.mem_cons_of_mem _ (held.2.1 token member label key)
        · rcases List.mem_cons.mp member with rfl | member
          · exact held.1.2.drops shown
          · exact held.2.2 b member
      · simp only [shown, if_false]
        refine Works.retInv (keepsF _ found) fun w held _ inv => ?_
        exact ⟨held.1.1, missed (held.1.2.other shown inv) held.2.1, held.2.2⟩

/-- `find_token_accessors` finds every token of the grant, or raises. -/
theorem findTokenAccessors_works (keepsP : Keeps terms j P) :
    Works terms j limit P (findTokenAccessors j.id.text)
      (fun found w => P w ∧ CoversTokens j.id found w ∧ DropsAll j.id found w) (Fails terms j P) := by
  let Listed (resp : Option (List String)) (w : World) : Prop :=
    (P w ∧ (terms.smooth j.id → (resp.getD []).length ≤ MAX_ACCESSOR_SCAN)) ∧ CoversTokens j.id (resp.getD []) w
  have keepsE (resp : Option (List String)) : Keeps terms j (Listed resp) :=
    (keepsP.and (Keeps.const _)).and (CoversTokens.down _).keeps
  have run : Works terms j limit P (ask .listAccessors) Listed (Fails terms j P) := by
    refine Works.ask keepsP keepsE keepsP.fails fun v c answer u _ held _ executed smooth => ?_
    have executed : (if c.flag && v.vault.tokens.isEmpty then settle c anyExc v v none
      else settleIf (c.names.isPerm (v.vault.tokens.map (·.accessor))) c anyExc v v (some c.names)) =
        some (answer, u) := executed
    have rough (fate : c.fate ≠ .ok) : ¬terms.smooth j.id := fun smooth' => fate ((smooth smooth').ok fun _ => id)
    split at executed
    · rename_i none
      simp only [Bool.and_eq_true, List.isEmpty_iff] at none
      rcases settle_cases executed with ⟨rfl, rfl, -⟩ | ⟨e, rfl, fate, effect, -⟩
      · refine ⟨(Same.refl u).legal, Confined.refl j.id u, ⟨held, fun _ => Nat.zero_le _⟩,
          fun token member _ => ?_⟩
        rw [none.2] at member
        cases member
      · have eq : u = v := by rcases effect with ⟨eq, -⟩ | eq <;> exact eq
        subst eq
        exact ⟨(Same.refl u).legal, Confined.refl j.id u, held, rough fate⟩
    · rcases settleIf_cases executed with ⟨rfl, rfl, -, perm⟩ | ⟨e, rfl, fate, effect, -⟩
      · have perm := List.isPerm_iff.mp perm
        refine ⟨(Same.refl u).legal, Confined.refl j.id u, ⟨held, fun smooth' => ?_⟩,
          fun token member _ => perm.mem_iff.mpr (List.mem_map_of_mem member)⟩
        have few := (smooth smooth').scannable rfl
        have same := perm.length_eq
        rw [List.length_map] at same
        exact same.le.trans few
      · have eq : u = v := by rcases effect with eq | ⟨eq, -⟩ <;> exact eq
        subst eq
        exact ⟨(Same.refl u).legal, Confined.refl j.id u, held, rough fate⟩
  refine (Works.call_fails keepsP keepsE run).bind fun resp => ?_
  by_cases many : MAX_ACCESSOR_SCAN < (resp.getD []).length
  · simp only [many, if_true]
    refine Works.raise (keepsE resp) fun w held => ⟨held.1.1, fun smooth => ?_⟩
    have few := held.1.2 smooth
    omega
  · simp only [many, if_false]
    refine (lookupAll_works _ (keepsE resp)).mono (fun _ held => held) (fun found w held => ?_) fun _ _ failed =>
      ⟨failed.1.1.1, failed.2⟩
    exact ⟨held.1.1.1, fun token member label => held.2.1 token member label (held.1.2 token member label), held.2.2⟩

/-- The accessors a teardown has to revoke. -/
theorem tokensOf_works (keepsP : Keeps terms j P) :
    Works terms j limit P (tokensOf j.row j.id)
      (fun found w => P w ∧ CoversTokens j.id found w ∧ DropsAll j.id found w) (Fails terms j P) := by
  unfold tokensOf
  cases recorded : truthy j.row.tokenAccessor with
  | none => exact findTokenAccessors_works keepsP
  | some a =>
    have known : j.row.tokenAccessor = some a := by
      unfold truthy at recorded
      exact (Option.filter_eq_some_iff.mp recorded).1
    refine Works.retInv keepsP fun w held busy inv => ⟨held, fun token member label => ?_, fun b member => ?_⟩
    · rw [inv.recorded j.id j.row a busy.1.1 recorded token member label]
      exact List.mem_cons_self
    · rw [List.mem_singleton] at member
      subst member
      exact ⟨j.id.text, inv.accessor j.id j.row b busy.1.1 known, Or.inl j.id.owns_self⟩

end searches
end Vdba
