import Vdba.Lockout

namespace Vdba
open Interaction (Triple Stable)

section steps
variable {terms : Terms} {j : Job} {limit : Option Nat} {P : World → Prop} {account : String} {db : DbType}

theorem clean_down : Down j (World.Clean j.id) := fun _ _ lessened clean =>
  ⟨fun db name member owns => clean.accounts db name
      (lessened.accounts db name (GrantId.owns_of_account owns) member) owns,
    fun lease member role => clean.leases lease (lessened.leases lease role member) role,
    fun token member label => clean.tokens token (lessened.tokens token label member) label,
    lessened.role clean.role⟩

/-- Dropping an account that is shut: afterwards it is not there. -/
theorem drop_works (tearing : j.Tearing) (hereditary : Hereditary terms j P) (valid : isAccount account = true)
    (owns : j.id.Owns account) (shut : ∀ w, P w → terms.kept account → db = .postgres → w.Shut account) :
    Works terms j limit P (lift (dropStatements db account) >>= run_ db j.id)
      (fun _ w => P w ∧ account ∉ (w.dbs db).accounts) (Fails terms j P) := by
  let I (rest : List String) (w : World) : Prop := P w ∧ (rest = [] → account ∉ (w.dbs db).accounts)
  have gone : Down j fun w => account ∉ (w.dbs db).accounts :=
    fun _ _ lessened none member => none (lessened.accounts db account owns member)
  have hereditaryI (rest : List String) : Hereditary terms j (I rest) := hereditary.and gone.implied.hereditary
  have step {helper text : String} {rest : List String} {v u : World} {count : Nat} {deed : Deed}
      (acts : act text = some ⟨deed, account⟩) (creates : deed ≠ .create) (drops : deed = .drop → db = .clickhouse)
      (last : rest = [] → deed = .cleanup ∨ deed = .drop) (held : P v)
      (ran : v.statement db text helper count = some u) : Effect terms j v u (I rest) := by
    have aside : Aside terms j.id v u := by
      refine World.statement_aside ran (fun a acts' => ?_) (fun a acts' _ kept postgres => ?_) j.id
      · rw [acts] at acts'
        cases acts'
        exact ⟨creates, drops⟩
      · rw [acts] at acts'
        cases acts'
        rw [fill_account valid] at kept ⊢
        exact (shut v held kept postgres).2
    refine helper_statement ran acts valid owns creates drops ⟨hereditary v u aside held, fun none => ?_⟩
    obtain ⟨d, applied, rfl⟩ := World.statement_deed ran acts valid
    rw [World.setDb_self]
    exact Database.apply_gone applied (last none)
  have finished (e : Exc) (w : World) (failed : (∃ rest, I rest w) ∧ ¬terms.smooth j.id) : Fails terms j P e w :=
    ⟨failed.1.choose_spec.1, failed.2⟩
  unfold dropStatements
  simp only [validAccount, valid, if_true]
  cases db with
  | postgres =>
    have ran := @run_works terms j limit .postgres [cleanupText account] I tearing hereditaryI
      fun helper text rest v u count split _ held _ _ ran => by
        obtain ⟨before, split⟩ := split
        obtain ⟨rfl, rfl⟩ := single_split split
        exact step (act_cleanupText account) (by decide) (fun same => by cases same) (fun _ => Or.inl rfl) held.1 ran
    exact ran.mono (fun w held => ⟨held, fun none => by cases none⟩) (fun _ w held => ⟨held.1, held.2 rfl⟩) finished
  | clickhouse =>
    have ran := @run_works terms j limit .clickhouse [killText account, dropUserText account] I tearing hereditaryI
      fun helper text rest v u count split _ held _ _ ran => by
        obtain ⟨before, split⟩ := split
        cases before with
        | nil =>
          cases split
          exact step (act_killText account) (by decide) (fun same => by cases same) (fun same => by cases same) held.1 ran
        | cons first before =>
          simp only [List.cons_append, List.cons.injEq] at split
          obtain ⟨rfl, rfl⟩ := single_split split.2
          exact step (act_dropUserText account) (by decide) (fun _ => rfl) (fun _ => Or.inr rfl) held.1 ran
    exact ran.mono (fun w held => ⟨held, fun none => by cases none⟩) (fun _ w held => ⟨held.1, held.2 rfl⟩) finished

theorem main_lease {l : String} (down : Down j P) (owns : j.id.OwnsLease l) : LeaseProof terms j l P :=
  ⟨owns, down.keeps, fun w held => down w _ (World.dropLease_aside l : Aside terms _ _ _).toLessened held,
    fun _ _ v u _ proper _ member held ran =>
      down v u (World.statement_lessened ran (proper.statement member).1 j.id) held⟩

/-- What a teardown knows of the tokens it will revoke. -/
def TokensKnown (j : Job) (accessors : List String) (w : World) : Prop :=
  CoversTokens j.id accessors w ∧ DropsAll j.id accessors w

theorem TokensKnown.down (accessors : List String) : Down j (TokensKnown j accessors) :=
  (CoversTokens.down accessors).and (DropsAll.down accessors)

/-- Accounts of a list were found, and can log in or are locked out. -/
def AllSought (terms : Terms) (j : Job) (db : DbType) (names : List String) (w : World) : Prop :=
  db = .postgres → ∀ name ∈ names, terms.kept name → w.Sought j.id name

theorem AllSought.hereditary {names : List String} (accounts : Accounts j.id names) :
    Hereditary terms j (AllSought terms j db names) := fun _ _ aside sought postgres name member kept =>
  aside.sought name kept (GrantId.owns_of_account (accounts name member).2) (sought postgres name member kept)

theorem revokeLeases_works {leases : List String} (down : Down j P) (owns : ∀ l ∈ leases, j.id.OwnsLease l) :
    Works terms j limit (fun w => P w ∧ CoversLeases j.id leases w)
      (Interaction.Prog.forEach leases revokeLease) (fun _ w => P w ∧ CoversLeases j.id [] w)
      (fun _ _ => ¬terms.smooth j.id) := by
  let I (rest : List String) (w : World) : Prop := P w ∧ CoversLeases j.id rest w
  have downI (rest : List String) : Down j (I rest) := down.and (CoversLeases.down rest)
  refine Works.forEach I (downI []).keeps fun l rest split => ?_
  obtain ⟨before, split⟩ := split
  have member : l ∈ leases := by
    rw [split]
    exact List.mem_append_right _ List.mem_cons_self
  refine (revokeLease_works (main_lease (downI (l :: rest)) (owns l member))).mono (fun _ held => held)
    (fun _ w held => ⟨held.1.1, fun lease live role => ?_⟩) fun _ _ failed => failed.2
  have covered := held.1.2 lease live role
  exact (List.mem_cons.mp covered).resolve_left (held.2 lease live role)

theorem revokeAccessors_works {accessors : List String} (down : Down j P) :
    Works terms j limit (fun w => P w ∧ TokensKnown j accessors w)
      (Interaction.Prog.forEach accessors revokeAccessor) (fun _ w => P w ∧ CoversTokens j.id [] w)
      (fun _ _ => ¬terms.smooth j.id) := by
  let I (rest : List String) (w : World) : Prop := P w ∧ TokensKnown j rest w
  have downI (rest : List String) : Down j (I rest) := down.and (TokensKnown.down rest)
  have run : Works terms j limit (I accessors) (Interaction.Prog.forEach accessors revokeAccessor) (fun _ => I [])
      (fun _ _ => ¬terms.smooth j.id) := by
    refine Works.forEach I (downI []).keeps fun a rest _ => ?_
    refine (revokeAccessor_works (downI (a :: rest)).keeps (fun w held => held.2.2 a List.mem_cons_self)
      fun w held => downI _ w _ (World.dropToken_aside a : Aside terms _ _ _).toLessened held).mono (fun _ held => held)
      (fun _ w held => ⟨held.1.1, fun token live label => ?_, fun b member =>
        held.1.2.2 b (List.mem_cons_of_mem _ member)⟩) fun _ _ failed => failed.2
    have covered := held.1.2.1 token live label
    exact (List.mem_cons.mp covered).resolve_left (held.2 token live label)
  exact run.mono (fun _ held => held) (fun _ _ held => ⟨held.1, held.2.1⟩) fun _ _ failed => failed

/-- The teardown of the accounts that are left: each is locked out, then dropped. -/
theorem dropAccounts_triple {present : List String} (tearing : j.Tearing) (down : Down j P)
    (idle : j.deadline = none) (alive : j.row.status.terminal = false) (accounts : Accounts j.id present)
    (monotone : limit = none → terms.monotone) :
    Triple (portal terms) j.thread limit
      (fun w => Busy j w ∧ (P w ∧ AllSought terms j db present w) ∧ CoversAccounts db j.id present w)
      (Interaction.Prog.forEach present fun account => do
        lockOutAndTerminate db account j.id
        let statements ← lift (dropStatements db account)
        run_ db j.id statements)
      (fun _ w => Busy j w ∧ P w ∧ CoversAccounts db j.id [] w) (Broken terms j) := by
  let I (rest : List String) (w : World) : Prop :=
    (P w ∧ AllSought terms j db present w) ∧ CoversAccounts db j.id rest w
  have hereditary (rest : List String) : Hereditary terms j (I rest) :=
    (down.hereditary.and (AllSought.hereditary accounts)).and (CoversAccounts.down rest).hereditary
  have run : Triple (portal terms) j.thread limit (fun w => Busy j w ∧ I present w)
      (Interaction.Prog.forEach present fun account => do
        lockOutAndTerminate db account j.id
        let statements ← lift (dropStatements db account)
        run_ db j.id statements) (fun _ w => Busy j w ∧ I [] w) (Broken terms j) := by
    refine Triple.forEach (fun rest w => Busy j w ∧ I rest w) ((hereditary []).keeps tearing).stable
      fun account rest split => ?_
    obtain ⟨before, split⟩ := split
    have member : account ∈ present := by
      rw [split]
      exact List.mem_append_right _ List.mem_cons_self
    obtain ⟨valid, owned⟩ := accounts account member
    have owns := GrantId.owns_of_account owned
    refine Triple.bind (lockOutAndTerminate_triple tearing (hereditary (account :: rest)) idle alive valid owns
      (fun w held kept postgres => held.1.2 postgres account member kept) monotone) fun _ => ?_
    have shut : Hereditary terms j fun w => I (account :: rest) w ∧ (terms.kept account → db = .postgres → w.Shut account) :=
      (hereditary _).and (shut_down owns).implied.implied.hereditary
    refine (drop_works tearing shut valid owns fun w held => held.2).leaves
      (fun _ w busy held => ⟨busy, held.1.1.1, fun name live owned => ?_⟩) fun _ _ busy failed => ⟨Or.inl busy, failed.2⟩
    have covered := held.1.1.2 name live owned
    refine (List.mem_cons.mp covered).resolve_left ?_
    rintro rfl
    exact held.2 live
  exact run.mono (fun _ held => held) (fun _ _ _ held => ⟨held.1, held.2.1.1, held.2.2⟩) fun _ _ _ failed => failed

/-- The first lockouts: no assertion about the objects of the grant is lost. -/
theorem lockOutAll_triple {names : List String} (tearing : j.Tearing) (down : Down j P) (idle : j.deadline = none)
    (alive : j.row.status.terminal = false) (accounts : Accounts j.id names) (monotone : limit = none → terms.monotone) :
    Triple (portal terms) j.thread limit (fun w => Busy j w ∧ P w ∧ AllSought terms j db names w)
      (Interaction.Prog.forEach names fun account => lockOutAndTerminate db account j.id)
      (fun _ w => Busy j w ∧ P w) (Broken terms j) := by
  let I (_ : List String) (w : World) : Prop := P w ∧ AllSought terms j db names w
  have hereditary (rest : List String) : Hereditary terms j (I rest) :=
    down.hereditary.and (AllSought.hereditary accounts)
  have run : Triple (portal terms) j.thread limit (fun w => Busy j w ∧ I names w)
      (Interaction.Prog.forEach names fun account => lockOutAndTerminate db account j.id)
      (fun _ w => Busy j w ∧ I [] w) (Broken terms j) := by
    refine Triple.forEach (fun rest w => Busy j w ∧ I rest w) ((hereditary []).keeps tearing).stable
      fun account rest split => ?_
    obtain ⟨before, split⟩ := split
    have member : account ∈ names := by
      rw [split]
      exact List.mem_append_right _ List.mem_cons_self
    obtain ⟨valid, owned⟩ := accounts account member
    have locked : Triple (portal terms) j.thread limit (fun w => Busy j w ∧ I rest w)
        (lockOutAndTerminate db account j.id)
        (fun _ w => Busy j w ∧ I rest w ∧ (terms.kept account → db = .postgres → w.Shut account)) (Broken terms j) :=
      lockOutAndTerminate_triple tearing (hereditary rest) idle alive valid (GrantId.owns_of_account owned)
        (fun w held kept postgres => held.2 postgres account member kept) monotone
    exact locked.mono (fun _ held => held) (fun _ _ _ held => ⟨held.1, held.2.1⟩) fun _ _ _ failed => failed
  exact run.mono (fun _ held => held) (fun _ _ _ held => ⟨held.1, held.2.1⟩) fun _ _ _ failed => failed

/-- The search that confirms that no account is left finds none. -/
theorem noneLeft {names : List String} (accounts : Accounts j.id names)
    (there : ∀ name ∈ names, ∃ v, (P v ∧ CoversAccounts db j.id [] v) ∧ name ∈ (v.dbs db).accounts) : names = [] := by
  cases names with
  | nil => rfl
  | cons name names =>
    obtain ⟨v, ⟨-, covers⟩, present⟩ := there name List.mem_cons_self
    exact absurd (covers name present (accounts name List.mem_cons_self).2) List.not_mem_nil

theorem deleteMain_works (down : Down j P) :
    Works terms j limit P (deleteRole j.id.text) (fun _ w => P w ∧ w.vault.roles j.id.text = none) (Fails terms j P) := by
  have gone : Down j fun w => w.vault.roles j.id.text = none := fun _ _ lessened none => lessened.role none
  have dropped (w : World) (held : P w) : P (w.setRole j.id.text none) :=
    down w _ (World.setRole_aside (Or.inl rfl) : Aside terms j.id w _).toLessened held
  exact deleteRole_works down.keeps (down.and gone).keeps j.id.owns_self dropped
    fun w held => ⟨dropped w held, World.setRole_roles_self w _ _⟩

/-- What is left when the steps are through: no lease, account, token or role of the grant. -/
theorem clean_of_covers {w : World} (inv : Inv terms w) (busy : Busy j w) (leases : CoversLeases j.id [] w)
    (accounts : CoversAccounts j.row.dbType j.id [] w) (tokens : CoversTokens j.id [] w)
    (role : w.vault.roles j.id.text = none) : w.Clean j.id := by
  refine ⟨fun db name member owns => ?_, fun lease member same => ?_, fun token member same => ?_, role⟩
  · obtain ⟨-, place⟩ := inv.accounts db name member
    have here := place j.id j.row owns busy.1.1
    rw [← here] at member
    exact absurd (accounts name member owns) List.not_mem_nil
  · exact absurd (leases lease member same) List.not_mem_nil
  · exact absurd (tokens token member same) List.not_mem_nil

/-- When the steps of a teardown are through, nothing of the grant is left. -/
theorem teardownSteps_triple (tearing : j.Tearing) (idle : j.deadline = none) (alive : j.row.status.terminal = false)
    (monotone : limit = none → terms.monotone) :
    Triple (portal terms) j.thread limit (Busy j) (teardownSteps j.row j.id)
      (fun _ w => Busy j w ∧ w.Clean j.id) (Broken terms j) := by
  have rough {α : Type} {p : Portal α} {P : World → Prop} {E : α → World → Prop}
      (run : Works terms j limit P p E fun _ _ => ¬terms.smooth j.id) :
      Triple (portal terms) j.thread limit (fun w => Busy j w ∧ P w) p (fun a w => Busy j w ∧ E a w) (Broken terms j) :=
    run.leaves (fun _ _ busy held => ⟨busy, held⟩) fun _ _ busy failed => ⟨Or.inl busy, failed⟩
  have steps (recorded : ∀ l, j.row.leaseId = some l → j.id.OwnsLease l) :
      Triple (portal terms) j.thread limit (fun w => Busy j w ∧ True) (teardownSteps j.row j.id)
        (fun _ w => Busy j w ∧ w.Clean j.id) (Broken terms j) := by
    unfold teardownSteps
    refine Triple.bind (tokensOf_works (Keeps.const True)).broken fun accessors => ?_
    have tokens : Down j (TokensKnown j accessors) := TokensKnown.down accessors
    refine Triple.pre (Triple.bind (findAccounts_works tearing tokens).broken fun names => ?_)
      fun w held => ⟨held.1, held.2.2⟩
    rintro w ⟨busy, ⟨accounts, -⟩, known, found⟩
    refine Triple.bind (lockOutAll_triple tearing tokens idle alive accounts monotone) (fun _ => ?_) w
      ⟨busy, known, found.sought⟩
    refine Triple.bind (listLeases_works tokens.keeps).broken fun listed => ?_
    rintro w ⟨busy, listed_owns, known, covers⟩
    have owns (l : String) (member : l ∈ sortedSet (listed ++ (truthy j.row.leaseId).toList)) : j.id.OwnsLease l := by
      rw [mem_sortedSet, List.mem_append, Option.mem_toList] at member
      rcases member with member | given
      · exact listed_owns l member
      · unfold truthy at given
        exact recorded l (Option.filter_eq_some_iff.mp given).1
    have all : CoversLeases j.id (sortedSet (listed ++ (truthy j.row.leaseId).toList)) w := by
      intro lease member role
      rw [mem_sortedSet, List.mem_append]
      exact Or.inl (covers lease member role)
    refine Triple.bind (rough (revokeLeases_works tokens owns)) (fun _ => ?_) w ⟨busy, known, all⟩
    have leases := tokens.and (CoversLeases.down [])
    refine Triple.bind (findAccounts_works tearing leases).broken fun present => ?_
    rintro w ⟨busy, ⟨accounts, -⟩, known, found⟩
    refine Triple.bind (dropAccounts_triple tearing leases idle alive accounts monotone) (fun _ => ?_) w
      ⟨busy, ⟨known, found.sought⟩, found.covers⟩
    have dropped : Down j fun w => (TokensKnown j accessors w ∧ CoversLeases j.id [] w) ∧
        CoversAccounts j.row.dbType j.id [] w := leases.and (CoversAccounts.down [])
    refine Triple.bind (findAccounts_works tearing dropped).broken fun left => ?_
    rintro w ⟨busy, ⟨accounts, there⟩, known, -⟩
    obtain rfl := noneLeft accounts there
    have order : Works terms j limit _ _ _ fun _ _ => ¬terms.smooth j.id :=
      Works.setOrder (fromkeys accessors) dropped.keeps
    refine Triple.bind (rough order) (fun (shuffled : List String) => ?_) w ⟨busy, known⟩
    rintro w ⟨busy, ⟨⟨known, leases⟩, accounts⟩, same⟩
    have shuffledKnown : TokensKnown j shuffled w := by
      refine ⟨fun token member label => ?_, fun a member => ?_⟩
      · rw [same, mem_fromkeys]
        exact known.1 token member label
      · rw [same, mem_fromkeys] at member
        exact known.2 a member
    have rest : Down j fun w => CoversLeases j.id [] w ∧ CoversAccounts j.row.dbType j.id [] w :=
      (CoversLeases.down []).and (CoversAccounts.down [])
    refine Triple.bind (rough (revokeAccessors_works rest)) (fun _ => ?_) w ⟨busy, ⟨leases, accounts⟩, shuffledKnown⟩
    have revoked : Down j fun w => (CoversLeases j.id [] w ∧ CoversAccounts j.row.dbType j.id [] w) ∧
        CoversTokens j.id [] w := rest.and (CoversTokens.down [])
    refine Triple.mono (deleteMain_works revoked).broken (fun _ held => held) (fun _ w inv held => ?_)
      fun _ _ _ failed => failed
    obtain ⟨busy, ⟨⟨leases, accounts⟩, tokens⟩, role⟩ := held
    exact ⟨busy, clean_of_covers inv busy leases accounts tokens role⟩
  refine Triple.pre (P := fun w => Busy j w ∧ True) (Triple.of_inv (Keeps.const True).stable ?_)
    fun w busy => ⟨busy, trivial⟩
  rintro w ⟨held, inv⟩
  exact steps (fun l given => inv.leaseId j.id j.row l held.1.1.1 given) w held

end steps
end Vdba
