import Vdba.LedgerOperations

namespace Vdba
open Interaction (Triple Stable Keeping)

/-- The errand of an issue that has inserted its row. -/
def Errand.inserted_ (t : Nat) (now : Time) (g : NewGrant) : Errand where
  thread := t
  id := g.id
  row := World.newRow now g
  caller := .issue
  watching := none
  debt := none
  begun := some ⟨g.id, true, none⟩
  bold b same := by cases same; rfl

/-- The credentials are those of one read of the grant's role. -/
def FromRead (creds : Creds) (id : GrantId) (w : World) : Prop :=
  ∃ read ∈ w.credsLog, read.role = id.text ∧ creds = ⟨read.account, read.secret, read.lease, read.duration⟩

/-- The row of the grant has the credentials, but for the password. -/
def Stored (creds : Creds) (id : GrantId) (w : World) : Prop :=
  ∃ r, w.row id = some r ∧ r.username = some creds.username ∧ r.leaseId = some creds.leaseId ∧
    ∃ now, r.expiresAt = some (now + seconds creds.leaseDuration)

def Drawn (creds : Creds) (id : GrantId) (w : World) : Prop := FromRead creds id w ∧ Stored creds id w

/-- The states in which an issue that fails leaves its row. -/
def Withdrawn (status : Status) : Prop := status = .issuing ∨ status = .failed ∨ status = .revoking

section insert
variable {p : Pledge} {n t : Nat} {db : DbType} {id : GrantId} {g : NewGrant} {now : Time} {k : Errand} {v w : World}

theorem inserted_rows (absent : v.row g.id = none) {other : GrantId} {r : Grant}
    (found : (v.inserted t now g).row other = some r) :
    other = g.id ∧ r = World.newRow now g ∨ other ≠ g.id ∧ v.row other = some r := by
  by_cases same : other = g.id
  · subst same
    rw [World.inserted_row absent] at found
    cases found
    exact Or.inl ⟨rfl, rfl⟩
  · rw [World.inserted_other absent same] at found
    exact Or.inr ⟨same, found⟩

theorem inserted_kept (absent : v.row g.id = none) {other : GrantId} {r : Grant} (found : v.row other = some r) :
    (v.inserted t now g).row other = some r := by
  have differs : other ≠ g.id := by
    rintro rfl
    rw [absent] at found
    cases found
  rw [World.inserted_other absent differs, found]

theorem newRow_ok (now : Time) (g : NewGrant) : RowOk (World.newRow now g) :=
  ⟨⟨rfl, rfl⟩, nofun, nofun, fun _ => rfl, nofun⟩

theorem inserted_ledger (books : Ledger p v) (absent : v.row g.id = none)
    (begun : v.book.begun t = some ⟨g.id, false, none⟩) (base : Inv {} (v.inserted t now g)) :
    Ledger p (v.inserted t now g) := by
  have mine : (v.inserted t now g).book.begun t = some ⟨g.id, true, none⟩ := by
    simp [World.inserted, Logbook.inserts, begun]
  have theirs (u : Nat) (other : u ≠ t) : (v.inserted t now g).book.begun u = v.book.begun u :=
    Function.update_of_ne other _ _
  have apart (u : Nat) (b : Begun) (begins : v.book.begun u = some b) (inserted : b.inserted = true) : b.grant ≠ g.id := by
    intro same
    have present := books.issues.present u b begins inserted
    rw [same] at present
    exact present absent
  refine ⟨base, ?_, fun other r found => ?_, fun recorded other r found named => ?_,
    fun recorded other r found past => ?_,
    fun tidy other some_left => ?_, fun other untroubled r found => ?_, fun response member i body => ?_,
    ⟨fun u b begins inserted => ?_, fun u x b c first second one two same => ?_,
      fun u b status begins inserted left other r found => ?_⟩, books.high⟩
  · have fresh : g.id ∉ v.store.grants.map (·.id) := by
      intro member
      obtain ⟨r, found, same⟩ := List.mem_map.mp member
      have none : v.store.grants.find? (·.id = g.id) = none := absent
      have differs := List.find?_eq_none.mp none r found
      simp [same] at differs
    have ids : (v.inserted t now g).store.grants.map (·.id) = v.store.grants.map (·.id) ++ [g.id] := by
      simp [World.inserted, Store.insertGrant]
    rw [ids]
    exact List.Nodup.append books.unique (List.nodup_singleton _) (by simpa using fresh)
  · rcases inserted_rows absent found with ⟨rfl, rfl⟩ | ⟨-, found⟩
    · exact newRow_ok now g
    · exact books.rows other r found
  · rcases inserted_rows absent found with ⟨rfl, rfl⟩ | ⟨-, found⟩
    · cases named
    · exact books.issued recorded other r found named
  · rcases inserted_rows absent found with ⟨rfl, rfl⟩ | ⟨-, found⟩
    · cases past
    · exact books.ended recorded other r found past
  · obtain ⟨u, r, caller, held, alive, inserted⟩ := books.helpers tidy other some_left
    have other_thread : u ≠ t := by
      rintro rfl
      cases inserted _ begun
    exact ⟨u, r, caller, ⟨inserted_kept absent held.1, held.2⟩, alive, fun b begins =>
      inserted b (by rwa [theirs u other_thread] at begins)⟩
  · rcases inserted_rows absent found with ⟨rfl, rfl⟩ | ⟨-, found⟩
    · refine ⟨fun same => ?_, fun same => ?_, fun same => ?_⟩ <;> cases same
    · exact books.smoothly other untroubled r found
  · obtain ⟨read, logged, role, password, r, found, rest⟩ := books.told response member i body
    exact ⟨read, logged, role, password, r, inserted_kept absent found, rest⟩
  · by_cases own : u = t
    · subst own
      rw [mine] at begins
      cases begins
      rw [World.inserted_row absent]
      exact Option.some_ne_none _
    · rw [theirs u own] at begins
      obtain ⟨r, found⟩ := Option.ne_none_iff_exists'.mp (books.issues.present u b begins inserted)
      rw [inserted_kept absent found]
      exact Option.some_ne_none r
  · by_cases own : u = t
    · by_cases own' : x = t
      · rw [own, own']
      · subst own
        rw [mine] at first
        cases first
        rw [theirs x own'] at second
        exact absurd same.symm (apart x c second two)
    · rw [theirs u own] at first
      by_cases own' : x = t
      · subst own'
        rw [mine] at second
        cases second
        exact absurd same (apart u b first one)
      · rw [theirs x own'] at second
        exact books.issues.sole u x b c first second one two same
  · by_cases own : u = t
    · subst own
      rw [mine] at begins
      cases begins
      cases left
    · rw [theirs u own] at begins
      rcases inserted_rows absent found with ⟨same, -⟩ | ⟨-, found⟩
      · exact absurd same (apart u b begins inserted)
      · exact books.issues.past u b status begins inserted left other r found

theorem inserted_enters (absent : v.row g.id = none) (begun : v.book.begun t = some ⟨g.id, false, none⟩)
    (guar : Guar {} t v (v.inserted t now g)) : Enters p t v (v.inserted t now g) := by
  refine ⟨guar, fun id r found => ⟨r, inserted_kept absent found, Or.inl rfl⟩, fun id none r found => ?_,
    fun id r r' found found' active => ?_, fun _ _ => rfl, fun u other => Function.update_of_ne other _ _, Nat.le_refl _,
    fun _ _ paid => paid, fun b begins out => ?_⟩
  · rcases inserted_rows absent found with ⟨-, same⟩ | ⟨-, found⟩
    · exact ⟨now, g, same⟩
    · rw [none] at found
      cases found
  · rw [inserted_kept absent found] at found'
    cases found'
    exact Or.inl active
  · have mine : (v.inserted t now g).book.begun t = some ⟨g.id, true, Option.none⟩ := by
      simp [World.inserted, Logbook.inserts, begun]
    rw [mine] at begins
    cases begins
    cases out

theorem insert_work :
    Triple (ledger p) t (some n) (Opening p t g.dbType g.id) (insertGrant g)
      (fun _ w => ∃ now, At p (Errand.inserted_ t now g) w) (fun _ => Opening p t g.dbType g.id) := by
  have opening : Lasts p t (Opening p t g.dbType g.id) := Opening.lasts
  have after (now : Time) : Lasts p t (At p (Errand.inserted_ t now g)) := At.lasts (k := Errand.inserted_ t now g)
  have clock : Keeping (ledger p) t (some n) (Opening p t g.dbType g.id) time := by
    refine step_triple opening.stable (fun _ => opening.stable) (fun _ => opening.stable)
      fun v c answer u held books executed honours base guar => ?_
    cases executed
    exact ⟨books, (Level.refl _).enters guar fun b _ _ => Untouched.refl b.grant _, held⟩
  refine Triple.bind clock fun (now : Time) => ?_
  refine step_triple opening.stable (fun _ => (Lasts.exists after).stable) (fun _ => opening.stable)
    fun v c answer u held books executed honours base guar => ?_
  have executed : settleIf (v.row g.id).isNone c anyExc v (v.inserted t now g) () = some (answer, u) := executed
  have failed (e : Exc) (same : answer = .error e) : u = v := by
    subst same
    unfold settleIf at executed
    split at executed
    · exact (settle_error executed (honours.atomic rfl)).1
    · exact (refuse_cases executed).choose_spec.2.1
  cases answer with
  | error e =>
    obtain rfl := failed e rfl
    exact ⟨books, (Level.refl _).enters guar fun b _ _ => Untouched.refl b.grant _, held⟩
  | ok _ =>
    rcases settleIf_cases executed with ⟨-, rfl, -, absent⟩ | ⟨e, failed, -⟩
    · have absent : v.row g.id = none := by simpa using absent
      refine ⟨inserted_ledger books absent held.begun base, inserted_enters absent held.begun guar, now,
        ⟨⟨World.inserted_row absent, held.lock⟩, held.owed, ?_, ?_⟩, fun tidy => ?_⟩
      · simp [World.inserted, Logbook.inserts, held.begun, Errand.inserted_]
      · exact Option.map_eq_none_iff.mpr held.unwatched
      · by_contra some_left
        obtain ⟨u, r, caller, held', -⟩ := books.helpers tidy g.id some_left
        rw [held'.1] at absent
        cases absent
    · cases failed

end insert

section steps
variable {p : Pledge} {n t : Nat} {db : DbType} {id : GrantId} {k : Errand} {v w : World} {creds : Creds}

theorem FromRead.lasts : Lasts p t (FromRead creds id) := by
  refine ⟨fun v w rely _ held => ?_, fun v w calm held => ?_⟩
  · obtain ⟨read, member, rest⟩ := held
    exact ⟨read, rely.base.reads read member, rest⟩
  · obtain ⟨read, member, rest⟩ := held
    exact ⟨read, calm.reads read member, rest⟩

theorem Stored.persists (stored : Stored creds id v)
    (rows : ∀ r, v.row id = some r → ∃ r', w.row id = some r' ∧ Persists r r') : Stored creds id w := by
  obtain ⟨r, found, username, lease, expires⟩ := stored
  obtain ⟨r', found', persists⟩ := rows r found
  obtain ⟨username', lease', expires'⟩ := persists.username (by rw [username]; rfl)
  exact ⟨r', found', username'.trans username, lease'.trans lease, by rw [expires']; exact expires⟩

theorem Drawn.stable : Stable (ledger p) t (Drawn creds id) := fun v w rely inv held =>
  ⟨FromRead.lasts.stable v w rely inv held.1, held.2.persists fun r found => rely.rows id r found⟩

theorem Drawn.enters (drawn : Drawn creds id v) (enters : Enters p t v w) : Drawn creds id w := by
  obtain ⟨⟨read, member, rest⟩, stored⟩ := drawn
  refine ⟨⟨read, enters.base.reads read member, rest⟩, stored.persists fun r found => ?_⟩
  obtain ⟨r', found', same | ⟨caller, -, change⟩⟩ := enters.rows id r found
  · exact ⟨r', found', same ▸ Persists.refl r⟩
  · exact ⟨r', found', change.toPersists⟩

theorem Drawn.lasts : Lasts p t (Drawn creds id) := by
  refine ⟨Drawn.stable, fun v w calm held => ⟨FromRead.lasts.calm (p := p) (t := t) v w calm held.1, ?_⟩⟩
  exact held.2.persists fun r found => ⟨r, by rw [calm.row, found], .refl r⟩

/-- Nothing takes the credentials of a row away. -/
theorem Drawn.frame {α : Type} {prog : Portal α} {P : World → Prop} {E : α → World → Prop} {X : Exc → World → Prop}
    (run : Triple (ledger p) t (some n) P prog E X) :
    Triple (ledger p) t (some n) (fun w => P w ∧ Drawn creds id w) prog (fun a w => E a w ∧ Drawn creds id w) X :=
  (Triple.frame run Drawn.stable fun _ _ enters drawn => drawn.enters enters).mono (fun _ held => held)
    (fun _ _ _ held => held) fun _ _ _ failed => failed.1

theorem readCredentials_work (token : Secret) :
    Triple (ledger p) k.thread (some n) (At p k) (readCredentials token k.id.text)
      (fun creds w => At p k w ∧ FromRead creds k.id w) (fun _ => At p k) := by
  have at_k : Lasts p k.thread (At p k) := At.lasts
  have opens : Triple (ledger p) k.thread (some n) (At p k) (ask (.credsOpen token k.id.text))
      (fun (o : Opened) w => o.role = k.id.text ∧ At p k w) (fun _ => At p k) := by
    refine calm_triple _ at_k At.bold trivial (fun _ => (Lasts.const _).and at_k) (fun _ => at_k)
      fun v c answer u _ held _ _ executed _ => ?_
    cases answer with
    | error e => exact held
    | ok o =>
      simp only [exec] at executed
      split at executed
      · rename_i role _
        rcases settleIf_cases executed with ⟨answered, -⟩ | ⟨e, failed, -⟩
        · cases answered
          exact ⟨rfl, held⟩
        · cases failed
      · obtain ⟨e, failed, -⟩ := refuse_cases executed
        cases failed
  have closes (o : Opened) (role : o.role = k.id.text) : Triple (ledger p) k.thread (some n) (At p k) (ask (.credsClose o))
      (fun (resp : Option Creds) w => At p k w ∧ ∀ creds, resp = some creds → FromRead creds k.id w) (fun _ => At p k) := by
    have read (resp : Option Creds) : Lasts p k.thread fun w => ∀ creds, resp = some creds → FromRead creds k.id w :=
      ⟨fun v w rely inv held creds same => FromRead.lasts.stable v w rely inv (held creds same),
        fun v w calm held creds same => FromRead.lasts.calm (p := p) (t := k.thread) v w calm (held creds same)⟩
    refine calm_triple _ at_k At.bold trivial (fun resp => at_k.and (read resp)) (fun _ => at_k)
      fun v c answer u _ held _ _ executed _ => ?_
    have executed : settleIf (v.liveLease (World.lease o c.key).id).isNone c anyExc v
      (v.closed o c.key c.secret c.count)
      (if c.flag then none else some ⟨o.account, c.secret, (World.lease o c.key).id, c.count⟩) = some (answer, u) := executed
    cases answer with
    | error e => exact held
    | ok resp =>
      rcases settleIf_cases executed with ⟨answered, rfl, -, -⟩ | ⟨e, failed, -⟩
      · cases answered
        refine ⟨held, fun creds same => ?_⟩
        split at same
        · cases same
        · cases same
          exact ⟨_, List.mem_cons_self, role, rfl⟩
      · cases failed
  unfold readCredentials vaultReadCreds
  have run : Triple (ledger p) k.thread (some n) (At p k) (vaultReadCreds token k.id.text)
      (fun (resp : Option Creds) w => At p k w ∧ ∀ creds, resp = some creds → FromRead creds k.id w) (fun _ => At p k) := by
    refine Triple.bind opens fun o => Triple.of_fact fun role => ?_
    have statements : Keeping (ledger p) k.thread (some n) (At p k)
        (Interaction.Prog.forEach o.creation fun text => ask (.runStatement o.db text o.account)) :=
      calm_keeping at_k At.bold (Interaction.Prog.All.forEach fun _ _ => calm_ask _ trivial)
    exact Triple.bind statements fun _ => closes o role
  refine Triple.bind run fun (resp : Option Creds) => ?_
  cases resp with
  | none => exact Triple.pre (Triple.raise at_k.stable fun _ held => held) fun _ held => held.1
  | some creds =>
    have drawn : Lasts p k.thread fun w => At p k w ∧ FromRead creds k.id w := at_k.and FromRead.lasts
    exact Triple.pre (Triple.ret drawn.stable fun _ held => held) fun _ held => ⟨held.1, held.2 creds rfl⟩

/-- The errand of an issue whose grant has just become active: the row of the audit log is owed. -/
def Granting (p : Pledge) (k : Errand) (w : World) : Prop :=
  ∃ k', k.Follows k' ∧ k'.debt = some ⟨k.id, "issue", "ok", some k.row.issuedBy⟩ ∧ k'.row.status = .active ∧ At p k' w

theorem Granting.lasts : Lasts p k.thread (Granting p k) := by
  refine ⟨fun v w rely inv held => ?_, fun v w calm held => ?_⟩
  · obtain ⟨k', follows, debt, status, at_k⟩ := held
    rw [← follows.thread] at rely
    exact ⟨k', follows, debt, status, At.lasts.stable v w rely inv at_k⟩
  · obtain ⟨k', follows, debt, status, at_k⟩ := held
    exact ⟨k', follows, debt, status, At.lasts.calm v w calm at_k⟩

theorem issue_token_work {accessor : String} (status : k.row.status = .issuing) (debt : k.debt = none) :
    Triple (ledger p) k.thread (some n) (At p k) (updateGrant k.id { tokenAccessor := some accessor })
      (fun _ w => ∃ now, At p (k.written now { tokenAccessor := some accessor }) w) (fun _ => At p k) := by
  have fits (v : World) (held : At p k v) (books : Ledger p v) :
      Fits p k { tokenAccessor := some accessor } v.book.high := by
    refine ⟨fun now ok => ⟨ok.together, fun _ => rfl, ok.set, ok.unset, ok.error⟩, Or.inl rfl, fun _ => ⟨rfl, rfl, rfl⟩,
      nofun, fun past => ?_, nofun, fun untroubled now => books.smoothly k.id untroubled k.row held.1.held.1⟩
    have past : k.row.status.terminal = true := past
    rw [status] at past
    cases past
  exact Triple.pre (updateGrant_work (Lasts.const True) debt fun v _ held books => fits v held books)
    fun _ held => ⟨held, trivial⟩

theorem issue_active_work (now : Time) (status : k.row.status = .issuing) (accessor : k.row.tokenAccessor.isSome = true)
    (debt : k.debt = none) (begun : k.begun = some ⟨k.id, true, none⟩) :
    Triple (ledger p) k.thread (some n) (fun w => At p k w ∧ FromRead creds k.id w)
      (updateGrant k.id {
        status := some .active
        username := some creds.username
        leaseId := some creds.leaseId
        expiresAt := some (now + seconds creds.leaseDuration) })
      (fun _ w => Granting p k w ∧ Drawn creds k.id w) (fun _ => At p k) := by
  let fields : GrantFields := {
    status := some .active
    username := some creds.username
    leaseId := some creds.leaseId
    expiresAt := some (now + seconds creds.leaseDuration) }
  have fits (v : World) (held : At p k v) (books : Ledger p v) : Fits p k fields v.book.high := by
    have ok := books.rows k.id k.row held.1.held.1
    refine ⟨fun now ok => ⟨⟨rfl, rfl⟩, fun _ => accessor, fun _ => rfl, nofun, fun error => ?_⟩,
      Or.inr (status ▸ .activate),
      fun named => ?_, fun _ => rfl, nofun, fun _ => begun, fun _ _ => ⟨nofun, nofun, nofun⟩⟩
    · rw [ok.error error] at status
      cases status
    · rw [ok.unset (Or.inl status)] at named
      cases named
  have write : Triple (ledger p) k.thread (some n) (fun w => At p k w ∧ True) (updateGrant k.id fields)
      (fun _ w => ∃ now, At p (k.written now fields) w) (fun _ => At p k) :=
    updateGrant_work (Lasts.const True) debt fun v _ held books => fits v held books
  have read : Lasts p k.thread (FromRead creds k.id) := FromRead.lasts
  have kept (v w : World) (enters : Enters p k.thread v w) (held : FromRead creds k.id v) : FromRead creds k.id w := by
    obtain ⟨found, member, rest⟩ := held
    exact ⟨found, enters.base.reads found member, rest⟩
  refine (Triple.frame write read.stable kept).mono (fun w held => ⟨⟨held.1, trivial⟩, held.2⟩) (fun _ w _ held => ?_)
    fun _ _ _ failed => failed.1
  obtain ⟨⟨time, at_k⟩, read⟩ := held
  refine ⟨⟨k.written time fields, ⟨rfl, rfl, rfl, rfl, rfl⟩, rfl, rfl, at_k⟩, read, ?_⟩
  exact ⟨k.row.set time fields, at_k.1.held.1, rfl, rfl, now, rfl⟩

theorem issueSteps_work {req : GrantRequest} {creation revocation : List String} (status : k.row.status = .issuing)
    (debt : k.debt = none) (begun : k.begun = some ⟨k.id, true, none⟩) :
    Triple (ledger p) k.thread (some n) (At p k) (issueSteps req k.id creation revocation)
      (fun creds w => Granting p k w ∧ Drawn creds k.id w) (fun _ => Settled p k (· = .issuing)) := by
  have at_k : Lasts p k.thread (At p k) := At.lasts
  have left (w : World) (held : At p k w) : Settled p k (· = .issuing) w :=
    ⟨k, ⟨rfl, rfl, rfl, rfl, rfl⟩, debt, status, held⟩
  have calm {α : Type} {prog : Portal α} (all : prog.All Op.calm) :
      Triple (ledger p) k.thread (some n) (At p k) prog (fun _ => At p k) (fun _ => Settled p k (· = .issuing)) :=
    (calm_keeping at_k At.bold all).mono (fun _ held => held) (fun _ _ _ held => held) fun _ w _ held => left w held
  unfold issueSteps
  refine Triple.bind (calm (calm_writeRole (not_helper k.id) req.dbType creation revocation req.ttlSeconds)) fun _ => ?_
  refine Triple.bind (calm (calm_of_basic (basic_createGrantToken req.ttlSeconds k.id.text))) fun (answer : Secret × String) => ?_
  obtain ⟨token, accessor⟩ := answer
  have recorded : Triple (ledger p) k.thread (some n) (At p k) (updateGrant k.id { tokenAccessor := some accessor })
      (fun _ w => ∃ now, At p (k.written now { tokenAccessor := some accessor }) w) (fun _ => Settled p k (· = .issuing)) :=
    (issue_token_work status debt).mono (fun _ held => held) (fun _ _ _ held => held) fun _ w _ held => left w held
  refine Triple.bind recorded fun _ => Triple.of_forall fun now => ?_
  let k₁ : Errand := k.written now { tokenAccessor := some accessor }
  have left₁ (w : World) (held : At p k₁ w) : Settled p k (· = .issuing) w :=
    ⟨k₁, ⟨rfl, rfl, rfl, rfl, rfl⟩, rfl, status, held⟩
  have read : Triple (ledger p) k.thread (some n) (At p k₁) (readCredentials token k.id.text)
      (fun creds w => At p k₁ w ∧ FromRead creds k.id w) (fun _ => Settled p k (· = .issuing)) :=
    (readCredentials_work (k := k₁) token).mono (fun _ held => held) (fun _ _ _ held => held) fun _ w _ held => left₁ w held
  refine Triple.bind read fun creds => ?_
  have both : Lasts p k.thread fun w => At p k₁ w ∧ FromRead creds k.id w := (At.lasts (k := k₁)).and FromRead.lasts
  have clock : Triple (ledger p) k.thread (some n) (fun w => At p k₁ w ∧ FromRead creds k.id w) time
      (fun _ w => At p k₁ w ∧ FromRead creds k.id w) (fun _ => Settled p k (· = .issuing)) :=
    (calm_keeping both (At.bold (k := k₁)).and (calm_ask .now trivial)).mono (fun _ held => held) (fun _ _ _ held => held)
      fun _ w _ held => left₁ w held.1
  refine Triple.bind clock fun time => ?_
  have granting : Lasts p k.thread fun w => Granting p k w ∧ Drawn creds k.id w := Granting.lasts.and Drawn.lasts
  have activated : Triple (ledger p) k.thread (some n) (fun w => At p k₁ w ∧ FromRead creds k.id w)
      (updateGrant k.id {
        status := some .active
        username := some creds.username
        leaseId := some creds.leaseId
        expiresAt := some (time + seconds creds.leaseDuration) })
      (fun _ w => Granting p k w ∧ Drawn creds k.id w) (fun _ => Settled p k (· = .issuing)) := by
    refine (issue_active_work (k := k₁) time status rfl rfl begun).mono (fun _ held => held) (fun _ w _ held => ?_)
      fun _ w _ held => left₁ w held
    obtain ⟨⟨k', follows, rest⟩, drawn⟩ := held
    exact ⟨⟨k', ⟨follows.thread, follows.id, follows.caller, follows.begun, follows.dbType⟩, rest⟩, drawn⟩
  exact Triple.bind activated fun _ => Triple.ret granting.stable fun _ held => held

theorem issueFailed_work {actor requestId : String} {exn : Exc} {E : Creds → World → Prop} :
    Triple (ledger p) k.thread (some n) (Settled p k (· = .issuing)) (issueFailed k.id actor requestId exn) E
      (fun _ => Settled p k Withdrawn) := by
  rintro w ⟨k', follows, debt, status, at_k⟩
  rw [← follows.thread, ← follows.id]
  have paid : k.Follows k'.paid := ⟨follows.thread, follows.id, follows.caller, follows.begun, follows.dbType⟩
  have done (w : World) (held : Settled p k'.paid Withdrawn w) : Settled p k Withdrawn w := held.earlier paid
  have withdrawn : Withdrawn k'.row.status := Or.inl status
  have ends (w : World) : Ends k'.paid.row w.book.high .failed := .failed status
  have recorded : Triple (ledger p) k'.thread (some n) (At p k')
      (audit (some requestId) (some k'.id) actor "issue" "error" exn.cls.name)
      (fun _ w => At p k'.paid w ∧ Ends k'.paid.row w.book.high .failed) (fun _ => Settled p k Withdrawn) := by
    refine (audit_work fun d _ owes => ?_).mono (fun _ held => held) (fun _ w _ held => ⟨held, ends w⟩) fun _ w _ failed =>
      done w ⟨k'.paid, ⟨rfl, rfl, rfl, rfl, rfl⟩, rfl, withdrawn, failed.1⟩
    rw [debt] at owes
    cases owes
  have alive : k'.paid.row.status.terminal = false := by
    have same : k'.paid.row.status = .issuing := status
    rw [same]
    rfl
  have cleaned : Triple (ledger p) k'.thread (some n) (fun w => At p k'.paid w ∧ Ends k'.paid.row w.book.high .failed)
      (teardown k'.id .failed (some requestId) "system" false) (fun _ => Settled p k Withdrawn)
      (fun _ => Settled p k Withdrawn) :=
    (teardown_work (k := k'.paid) alive rfl rfl withdrawn (Or.inr (Or.inr rfl)) (Or.inr (Or.inl rfl))).mono
      (fun _ held => held) (fun _ w _ held => done w held) fun _ w _ held => done w held
  have settled : Lasts p k'.thread (Settled p k Withdrawn) := follows.thread ▸ Settled.lasts
  have run : Triple (ledger p) k'.thread (some n) (At p k') (issueFailed k'.id actor requestId exn) E
      (fun _ => Settled p k Withdrawn) :=
    Triple.bind recorded fun _ => Triple.bind cleaned fun _ => Triple.raise settled.stable fun _ held => held
  exact run w at_k

end steps

section calls
variable {p : Pledge} {n t : Nat} {db : DbType} {id : GrantId} {k : Errand} {v w : World} {creds : Creds}

/-- How the locked part of an issue can raise: before its row is there, with a row that is to be cleaned up, or when the
grant is active, which the pledge of delivery excludes. -/
def Failing (p : Pledge) (t : Nat) (g : NewGrant) (w : World) : Prop :=
  Opening p t g.dbType g.id w ∨ Settled p (Errand.inserted_ t 0 g) (fun status => p.delivered → Withdrawn status) w

theorem issueLocked_work {req : GrantRequest} {actor requestId : String} {creation revocation : List String} :
    Triple (ledger p) t (some n) (Opening p t req.dbType id) (issueLocked req actor requestId id creation revocation)
      (fun creds w => Settled p (Errand.inserted_ t 0 (req.toNew id actor)) (· = .active) w ∧ Drawn creds id w)
      (fun _ => Failing p t (req.toNew id actor)) := by
  let g := req.toNew id actor
  let k₀ := Errand.inserted_ t 0 g
  have insert : Triple (ledger p) t (some n) (Opening p t req.dbType id) (insertGrant g)
      (fun _ w => ∃ now, At p (Errand.inserted_ t now g) w) (fun _ => Failing p t g) :=
    (insert_work (g := g)).mono (fun _ held => held) (fun _ _ _ held => held) fun _ _ _ held => Or.inl held
  unfold issueLocked
  refine Triple.bind insert fun _ => Triple.of_forall fun now => ?_
  let k := Errand.inserted_ t now g
  have follows : k₀.Follows k := ⟨rfl, rfl, rfl, rfl, rfl⟩
  have steps : Triple (ledger p) t (some n) (At p k)
      ((issueSteps req id creation revocation).onError (issueFailed id actor requestId))
      (fun creds w => Granting p k w ∧ Drawn creds id w) (fun _ => Settled p k Withdrawn) := by
    have granting (creds : Creds) : Lasts p t fun w => Granting p k w ∧ Drawn creds id w :=
      (Granting.lasts (k := k)).and Drawn.lasts
    exact Triple.onError (issueSteps_work (k := k) rfl rfl rfl) (fun creds => (granting creds).stable) fun exn =>
      issueFailed_work (k := k)
  have steps' : Triple (ledger p) t (some n) (At p k)
      ((issueSteps req id creation revocation).onError (issueFailed id actor requestId))
      (fun creds w => Granting p k w ∧ Drawn creds id w) (fun _ => Failing p t g) := by
    refine steps.mono (fun _ held => held) (fun _ _ _ held => held) fun _ w _ held => Or.inr ?_
    obtain ⟨k', later, debt, state, at_k⟩ := held
    exact ⟨k', ⟨later.thread, later.id, later.caller, later.begun, later.dbType⟩, debt, fun _ => state, at_k⟩
  refine Triple.bind steps' fun creds => ?_
  have audited : Triple (ledger p) t (some n) (Granting p k)
      (audit (some requestId) (some id) actor "issue" "ok" (req.dbType.value ++ " " ++ req.scope.value))
      (fun _ => Settled p k₀ (· = .active)) (fun _ => Failing p t g) := by
    rintro w ⟨k', later, debt, status, at_k⟩
    have thread : k'.thread = t := later.thread
    have run : Triple (ledger p) k'.thread (some n) (At p k')
        (audit (some requestId) (some id) actor "issue" "ok" (req.dbType.value ++ " " ++ req.scope.value))
        (fun _ => At p k'.paid) (fun _ w => At p k'.paid w ∧ (p.delivered → ¬("issue" = "issue" ∧ "ok" = "ok"))) := by
      refine audit_work fun d time owes => ?_
      rw [debt] at owes
      cases owes
      simp [Debt.paidBy, k, g, Errand.inserted_, World.newRow, GrantRequest.toNew]
    have settled : k₀.Follows k'.paid := ⟨later.thread, later.id, later.caller, later.begun, later.dbType⟩
    rw [thread] at run
    refine (run.mono (fun _ held => held) (fun _ w _ held => ?_) fun _ w _ failed => ?_) w at_k
    · exact ⟨k'.paid, settled, rfl, status, held⟩
    · exact Or.inr ⟨k'.paid, settled, rfl, fun delivered => absurd ⟨rfl, rfl⟩ (failed.2 delivered), failed.1⟩
  have last : Lasts p t fun w => Settled p k₀ (· = .active) w ∧ Drawn creds id w :=
    (Settled.lasts (k := k₀)).and Drawn.lasts
  exact Triple.bind (Drawn.frame audited) fun _ => Triple.ret last.stable fun _ held => held

/-- How an issue ends that does not return. -/
def Unissued (p : Pledge) (t : Nat) (w : World) : Prop :=
  ∃ b, Rests p t b w ∧
    (p.delivered → ∀ x, b = some x → x.inserted = true → ∃ status, x.left = some status ∧ Withdrawn status)

theorem Unissued.lasts : Lasts p t (Unissued p t) := Lasts.exists fun _ => Rests.lasts.and (Lasts.const _)

theorem Unissued.of_rest (rests : Rests p t none w) : Unissued p t w := ⟨none, rests, fun _ _ same => by cases same⟩

/-- The end of the locked part, whatever it was. -/
theorem end_issue {g : NewGrant} :
    Triple (ledger p) t (some n) (Failing p t g) (end_ g.dbType g.id) (fun _ => Unissued p t) (fun _ => Unissued p t) := by
  rintro w (opening | settled)
  · refine end_opening.mono (fun _ held => held) (fun _ w _ held => ?_) (fun _ _ _ failed => failed.elim) w opening
    obtain ⟨left, rests⟩ := held
    exact ⟨_, rests, fun _ x same inserted => by cases same; cases inserted⟩
  · refine (end_settled (k := Errand.inserted_ t 0 g)).mono (fun _ held => held) (fun _ w _ held => ?_) (fun _ _ _ failed => failed.elim) w settled
    obtain ⟨status, state, rests⟩ := held
    exact ⟨_, rests, fun delivered x same _ => by cases same; exact ⟨status, rfl, state delivered⟩⟩

/-- The thread has issued a grant, and rests. -/
def Issuer (p : Pledge) (t : Nat) (id : GrantId) (w : World) : Prop := Rests p t (some ⟨id, true, some .active⟩) w

theorem publicGrant_work :
    Triple (ledger p) t (some n) (fun w => Issuer p t id w ∧ Drawn creds id w) (publicGrant id)
      (fun g w => g.grantId = id ∧ Issuer p t id w ∧ Drawn creds id w) (fun _ => Unissued p t) := by
  have rests : Lasts p t (Issuer p t id) := Rests.lasts
  have both : Lasts p t fun w => Issuer p t id w ∧ Drawn creds id w := rests.and Drawn.lasts
  have bold : Bold t (Issuer p t id) := Rests.bold fun x same => by cases same; rfl
  have read : Triple (ledger p) t (some n) (fun w => Issuer p t id w ∧ Drawn creds id w) (getGrant id)
      (fun (row : Option Grant) w => (∃ g, row = some g ∧ g.id = id) ∧ Issuer p t id w ∧ Drawn creds id w)
      (fun _ => Unissued p t) := by
    refine calm_triple (.getGrant id) both bold.and trivial (fun _ => (Lasts.const _).and both) (fun _ => Unissued.lasts)
      fun v c answer u held held' _ _ executed honours => ?_
    have executed : settle c anyExc v v (v.row id) = some (answer, u) := executed
    rcases settle_cases executed with ⟨rfl, -⟩ | ⟨e, rfl, refused, -⟩
    · obtain ⟨r, found, -⟩ := held.2.2
      exact ⟨⟨r, found, Store.getGrant_id found⟩, held'⟩
    · have begun : v.book.begun t = some ⟨id, true, some .active⟩ := held.1.2.2
      exact ⟨_, held'.1, fun delivered => absurd ((honours.delivered delivered).2 id _ rfl begun nofun) refused⟩
  refine Triple.bind read fun (row : Option Grant) => Triple.of_fact fun found => ?_
  obtain ⟨g, rfl, same⟩ := found
  exact Triple.ret both.stable fun _ held => ⟨same, held⟩

theorem issue_work (cfg : Config) (req : GrantRequest) (actor requestId : String) :
    Triple (ledger p) t (some n) (Rests p t none) (issue cfg req actor requestId)
      (fun issued w => ∃ id creds, issued.grant.grantId = id ∧ issued.password = creds.password ∧ Issuer p t id w ∧
        Drawn creds id w) (fun _ => Unissued p t) := by
  have rests : Lasts p t (Rests p t none) := Rests.lasts
  have calm {α : Type} {prog : Portal α} (all : prog.All Op.calm) :
      Triple (ledger p) t (some n) (Rests p t none) prog (fun _ => Rests p t none) (fun _ => Unissued p t) :=
    (calm_keeping rests Rests.bold_none all).mono (fun _ held => held) (fun _ _ _ held => held)
      fun _ _ _ held => Unissued.of_rest held
  unfold issue
  refine Triple.bind (calm (calm_of_basic (basic_lift _))) fun _ =>
    Triple.bind (calm (calm_of_basic (basic_catalog _))) fun cat => ?_
  refine Triple.bind (calm (calm_of_basic (basic_lift _))) fun (statements : List String × List String) => ?_
  obtain ⟨creation, revocation⟩ := statements
  have mutated : (mutateStatements cfg creation).All Op.calm := by
    unfold mutateStatements
    split
    · refine Interaction.Prog.All.bind (calm_ask .bogusArmed trivial) fun (armed : Bool) => ?_
      split <;> trivial
    · trivial
  refine Triple.bind (calm mutated) fun creation => ?_
  have drawn : newGrantId.All Op.calm := Interaction.Prog.All.bind (calm_ask (.tokenHex 5) trivial) fun _ => trivial
  refine Triple.bind (calm drawn) fun id => ?_
  have opened : Triple (ledger p) t (some n) (Rests p t none) (begin_ req.dbType id .issue)
      (fun _ => Opening p t req.dbType id) (fun _ => Unissued p t) :=
    begin_opening.mono (fun _ held => held) (fun _ _ _ held => held) fun _ _ _ held => Unissued.of_rest held
  refine Triple.bind opened fun _ => ?_
  have ended (creds : Creds) : Triple (ledger p) t (some n)
      (fun w => Settled p (Errand.inserted_ t 0 (req.toNew id actor)) (· = .active) w ∧ Drawn creds id w)
      (end_ req.dbType id) (fun _ w => Issuer p t id w ∧ Drawn creds id w) (fun _ => Unissued p t) := by
    have leave : Triple (ledger p) t (some n) (Settled p (Errand.inserted_ t 0 (req.toNew id actor)) (· = .active))
        (end_ req.dbType id) (fun _ => Issuer p t id) (fun _ => Unissued p t) := by
      refine (end_settled (k := Errand.inserted_ t 0 (req.toNew id actor))).mono (fun _ held => held)
        (fun _ w _ held => ?_) fun _ _ _ failed => failed.elim
      obtain ⟨status, rfl, rests⟩ := held
      exact rests
    exact Drawn.frame leave
  have issued (creds : Creds) : Lasts p t fun w => Issuer p t id w ∧ Drawn creds id w := by
    have issuer : Lasts p t (Issuer p t id) := Rests.lasts
    exact issuer.and Drawn.lasts
  refine Triple.bind (Triple.finally_ issueLocked_work ended (fun _ => end_issue) (fun creds => (issued creds).stable)
    fun _ => Unissued.lasts.stable) fun creds => ?_
  refine Triple.bind publicGrant_work fun g => Triple.of_fact fun same => ?_
  exact Triple.ret (issued creds).stable fun w held => ⟨id, creds, same, rfl, held⟩

end calls
end Vdba
