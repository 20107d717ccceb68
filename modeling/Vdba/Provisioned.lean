import Vdba.ProvisioningSteps

namespace Vdba.Provisioning
open Interaction (Prog Crash)
open Bootstrap (strip)

/-- The places setup has seen to before the test hooks, the last first. -/
def basePlaces (env : Env) : List Slot :=
  [.approle APPROLE_NAME, .user env.adminUser, .authMethod "approle/", .authMethod "userpass/",
    .tokenRole TOKEN_ROLE_NAME, .policy ADMIN_POLICY_NAME, .policy CREDS_READER_POLICY_NAME,
    .policy SERVICE_POLICY_NAME, .secret "vdba/introspect/clickhouse", .secret "vdba/introspect/postgres",
    .role (probeRole "clickhouse"), .config "clickhouse", .role (probeRole "postgres"), .config "postgres",
    .plugin PLUGIN_NAME, .passwordPolicy PASSWORD_POLICY_NAME, .mount "kv/", .mount "database/", .auditDevice "file/"]

def places (env : Env) : List Slot :=
  if env.main.testHooks then .policy "vdba-test-admin" :: basePlaces env else basePlaces env

theorem basePlaces_subset (env : Env) : basePlaces env ⊆ places env := by
  rw [places]
  split
  · exact List.subset_cons_self _ _
  · exact List.Subset.refl _

/-- Everything is set up and verified, and the service identity has the rights of its policy and no others. -/
structure Provisioned (env : Env) (w : State) : Prop where
  audited : w.Audited
  places : ∀ slot ∈ places env, Done env slot w
  sound : Sound env w
  delivered : Delivered w
  service : ∀ request, w.Permits request ↔ Vdba.Permits serviceRules request

section provision
variable {env : Env} {s w : State} {slots : List Slot}

theorem Sound.of_verified {postgres clickhouse : List String} (under : Under env s w)
    (digest : ∃ text, env.digest = .ok text ∧ digestOk (strip text) = true) (sslmode : ∃ mode, env.sslmode = .ok mode)
    (first : PROBES.lookup "postgres" = some postgres) (second : PROBES.lookup "clickhouse" = some clickhouse)
    (verified : Verified s "postgres" postgres) (verified_ : Verified s "clickhouse" clickhouse) : Sound env w := by
  refine ⟨digest, sslmode, fun name known cfg shown => ?_, ?_, ?_⟩
  · obtain same | fits : w.details name = s.details name ∨ ∀ cfg, w.details name = some cfg → Fitting cfg :=
      under.details
    · rw [same] at shown
      rcases List.mem_cons.mp known with rfl | known
      · exact verified.1 cfg shown
      · obtain rfl := List.mem_singleton.mp known
        exact verified_.1 cfg shown
    · exact fits cfg shown
  · have ran := verified.2
    rw [Databases.run, if_pos first, if_pos rfl] at ran
    rw [under.databases]
    exact ran
  · have ran := verified_.2
    rw [Databases.run, if_pos second, if_neg (by decide)] at ran
    rw [under.databases]
    exact ran

/-- Wherever a run of setup is stopped, what was there is as it was or as setup sets it; if it comes to its end,
everything is set up and verified; and if it fails, an operation has failed or something stood against it. -/
theorem provision_crash (env : Env) (s : State) : Crash Serves (Under env s) (fun w => w = s) (provision env)
    (fun _ w => Provisioned env w ∧ w.leases = s.leases) (Failed env s) := by
  obtain ⟨postgres, first⟩ : ∃ statements, PROBES.lookup "postgres" = some statements := ⟨_, rfl⟩
  obtain ⟨clickhouse, second⟩ : ∃ statements, PROBES.lookup "clickhouse" = some statements := ⟨_, rfl⟩
  have rest : Crash Serves (Under env s) (Reached env s [.auditDevice "file/"])
      (Prog.forEach ([.engines, .connections, .policiesAndRoles, .approle, .selfCheck] ++
        if env.main.testHooks then [.testAdmin] else []) (code env))
      (fun _ w => Provisioned env w ∧ w.leases = s.leases) (Failed env s) := by
    refine Crash.bind ensureEngines_crash fun _ => Crash.of_fact fun digest => ?_
    refine Crash.bind (ensureConnections_crash (by simp [Slot.probe]) first second) fun _ => Crash.of_fact fun facts => ?_
    obtain ⟨sslmode, verified, verified_⟩ := facts
    refine Crash.bind ensurePoliciesAndRoles_crash fun _ => ?_
    refine Crash.bind (deliverApprole_crash List.mem_cons_self) fun _ => ?_
    refine Crash.bind (selfCheck_crash List.mem_cons_self (by simp) (by simp)) fun _ => ?_
    have provisioned {slots : List Slot} {w : State} (delivered : Delivered w) (reached : Reached env s slots w)
        (all : slots = places env) : Provisioned env w ∧ w.leases = s.leases := by
      refine ⟨⟨reached.audited, fun slot member => reached.done slot (all ▸ member), ?_, delivered, fun request => ?_⟩,
        reached.leases⟩
      · exact .of_verified reached.under digest sslmode first second verified verified_
      · have base : basePlaces env ⊆ slots := by
          rw [all]
          exact basePlaces_subset env
        exact reached.permits_iff (base (by simp [basePlaces])) (base (by simp [basePlaces]))
    cases hooks : env.main.testHooks with
    | false =>
      refine Crash.ret fun w start => ⟨start.2.under, provisioned start.1 start.2 ?_⟩
      rw [places, hooks]
      rfl
    | true =>
      refine Crash.bind (mintTestAdmin_crash hooks) fun _ => ?_
      refine Crash.ret fun w start => ⟨start.2.under, provisioned start.1 start.2 ?_⟩
      rw [places, hooks]
      rfl
  refine Crash.bind (ensureAudit_crash.mono (fun w start => ?_) (fun _ _ post => post) fun _ _ post => post) fun _ => rest
  rw [start]
  exact ⟨.refl env s, rfl⟩

/-- A run on what is set up leaves everything as it is at every point, but for the roles of the probes; and the portal
can log in with the files of the AppRole. -/
structure Undisturbed (s w : State) : Prop where
  places : ∀ slot : Slot, slot.probe = false → w.vault.lookup slot = s.vault.lookup slot
  leases : s.leases ⊆ w.leases
  delivered : Delivered w
  service : ∀ request, w.Permits request ↔ s.Permits request
  unaudited : w.unaudited = s.unaudited

theorem desired_places {slot : Slot} (desired : (env.desired slot).isSome = true) : slot ∈ places env := by
  have base (member : slot ∈ basePlaces env) : slot ∈ places env := basePlaces_subset env member
  cases slot
  case role => cases desired
  case policy name =>
    simp only [Env.desired] at desired
    split_ifs at desired with service reader admin hooks
    · exact base (by subst service; simp [basePlaces])
    · exact base (by subst reader; simp [basePlaces])
    · exact base (by subst admin; simp [basePlaces])
    · rw [places, if_pos hooks.2, hooks.1]
      exact List.mem_cons_self
    · cases desired
  all_goals
    refine base ?_
    simp only [Env.desired] at desired
    split_ifs at desired
    all_goals first
      | cases desired; done
      | simp_all [basePlaces]

theorem Provisioned.undisturbed (provisioned : Provisioned env s) (under : Under env s w) : Undisturbed s w := by
  have same (slot : Slot) (plain : slot.probe = false) : w.vault.lookup slot = s.vault.lookup slot := by
    rcases under.places slot plain with same | ⟨desired, set⟩
    · exact same
    · have done := provisioned.places slot (desired_places desired)
      cases ensured : slot.ensured with
      | true => exact under.kept slot ensured (done.there ensured)
      | false => exact set.trans (done.value ensured).symm
  refine ⟨same, under.leased, ⟨?_, ?_⟩, fun request => ?_, under.unaudited⟩
  · rcases under.files "approle/role_id" (by decide) with kept | ⟨f, there, ⟨-, rfl⟩ | ⟨other, -⟩ | ⟨other, -⟩⟩
    · obtain ⟨f, there, good⟩ := provisioned.delivered.1
      exact ⟨f, kept.trans there, good.trans under.roleId.symm⟩
    · exact ⟨_, there, w.tidy⟩
    · exact absurd other (by decide)
    · exact absurd other (by decide)
  · rcases under.files "approle/secret_id" (by decide) with kept | ⟨f, there, ⟨other, -⟩ | ⟨-, id, member, tidy, rfl⟩ | ⟨other, -⟩⟩
    · obtain ⟨f, there, member⟩ := provisioned.delivered.2
      exact ⟨f, kept.trans there, under.secretIds member⟩
    · exact absurd other (by decide)
    · exact ⟨_, there, by rw [tidy]; exact member⟩
    · exact absurd other (by decide)
  · have role : w.vault.lookup (.approle APPROLE_NAME) = s.vault.lookup (.approle APPROLE_NAME) := same _ rfl
    have policies (name : String) : w.vault.lookup (.policy name) = s.vault.lookup (.policy name) := same _ rfl
    simp only [State.Permits, role, policies]

theorem provision_again (provisioned : Provisioned env s) : Crash Serves (Undisturbed s) (fun w => w = s)
    (provision env) (fun _ w => Provisioned env w ∧ w.leases = s.leases) (fun _ w => w.troubled = true) := by
  intro w start trace q v path happens
  obtain ⟨under, ended⟩ := provision_crash env s w start trace q v path happens
  refine ⟨provisioned.undisturbed under, ?_⟩
  cases q with
  | ret value => exact ended
  | raise exn => exact ended.2.resolve_right fun unsound => unsound provisioned.sound
  | call op next => trivial
  | iter body next => trivial

end provision

section recheck
variable {env : Env} {s : State} {op : Op}

/-- Nothing has happened, or an operation has failed. -/
def Unchanged (s w : State) : Prop := w = s ∨ w = s.troubles

theorem answers_troubles {answer : Ans op} : Answers op s.troubles answer ↔ Answers op s answer := by
  cases op <;> exact Iff.rfl

theorem read_crash {F : Ans op → Prop} (audited : s.Audited) (same : ∀ w answer, effect op answer w = w)
    (answerable : ∃ answer, Answers op s answer) (tells : ∀ answer, Answers op s answer → F answer) :
    Crash Serves (Unchanged s) (Unchanged s) (ask op) (fun answer w => F answer ∧ Unchanged s w)
      fun _ w => w = s.troubles := by
  have after (w : State) (answer : Ans op) (start : Unchanged s w) : w.after op answer = w := by
    have on : w.Audited := by
      rcases start with rfl | rfl
      · exact audited
      · exact audited
    rw [after_eq fun _ => on, same]
  have answers_ (w : State) (answer : Ans op) (start : Unchanged s w) : Answers op w answer ↔ Answers op s answer := by
    rcases start with rfl | rfl
    · exact Iff.rfl
    · exact answers_troubles
  have troubles (w : State) (start : Unchanged s w) : w.troubles = s.troubles := by
    rcases start with rfl | rfl <;> rfl
  refine Crash.perform (fun _ start => start) (fun w answer v start served => ?_) fun w exn v start served => ?_
  · cases served with
    | answers answers =>
      rw [after w answer start]
      exact ⟨start, tells answer ((answers_ w answer start).mp answers), start⟩
  · cases served with
    | refuses none_ =>
      obtain ⟨answer, answers⟩ := answerable
      exact absurd ((answers_ w answer start).mpr answers) (none_ answer)
    | lost answers =>
      rw [after w _ start, troubles w start]
      exact ⟨Or.inr rfl, rfl⟩
    | fails =>
      rw [troubles w start]
      exact ⟨Or.inr rfl, rfl⟩

theorem recheckStripped_crash {path text : String} (audited : s.Audited)
    (there : ∃ f, s.files.lookup path = some f ∧ strip f.data = text) :
    Crash Serves (Unchanged s) (Unchanged s) (Provisioning.readStripped path)
      (fun read w => read = text ∧ Unchanged s w) fun _ w => w = s.troubles := by
  obtain ⟨f, there, rfl⟩ := there
  have shown : (s.files.lookup path).map (·.data) = some f.data := congrArg (Option.map File.data) there
  refine Crash.bind (read_crash (F := fun data => data = f.data) audited (fun _ _ => rfl) ⟨f.data, shown⟩
    fun data read => ?_) fun data => Crash.of_fact ?_
  · exact Option.some.inj (read.symm.trans shown)
  · rintro rfl
    exact Crash.ret fun w start => ⟨start, rfl, start⟩

theorem recheckConfig_crash {name : String} (provisioned : Provisioned env s) (known : name ∈ ["postgres", "clickhouse"])
    (permitted : Vdba.Permits serviceRules ⟨.read, "database/config/" ++ name⟩) (there : .config name ∈ places env) :
    Crash Serves (Unchanged s) (Unchanged s) ((checkConnectionConfig .service name).onError fun exn =>
      if exn.cls = .forbidden then .ret () else .raise exn) (fun _ => Unchanged s) fun _ w => w = s.troubles := by
  obtain ⟨cfg, shown⟩ := details_some (provisioned.places _ there)
  have checked : Vdba.checkConnectionConfig name cfg = .ok () :=
    checkConnectionConfig_ok.mpr (provisioned.sound.connections name known cfg shown)
  refine Crash.onError (Crash.bind (read_crash (F := fun found => found = some cfg) provisioned.audited (fun _ _ => rfl)
    ⟨s.details name, rfl, fun _ => (provisioned.service _).mpr permitted⟩ fun found answers => ?_) fun found => ?_)
    (fun _ _ post => post) fun exn => ?_
  · exact answers.1.trans shown
  · refine Crash.of_fact ?_
    rintro rfl
    dsimp only
    rw [checked]
    exact Crash.ret fun w start => ⟨start, start⟩
  · split
    · exact Crash.ret fun w start => ⟨Or.inr start, Or.inr start⟩
    · exact Crash.raise fun w start => ⟨Or.inr start, start⟩

theorem recheckWithoutRoot_crash (provisioned : Provisioned env s) : Crash Serves (Unchanged s) (Unchanged s)
    recheckWithoutRoot (fun _ => Unchanged s) fun _ w => w = s.troubles := by
  obtain ⟨-, -, postgres, clickhouse⟩ := service_rights
  have base := basePlaces_subset env
  obtain ⟨f, secret, member⟩ := provisioned.delivered.2
  refine Crash.bind (recheckStripped_crash provisioned.audited provisioned.delivered.1) fun roleId => Crash.of_fact ?_
  rintro rfl
  refine Crash.bind (recheckStripped_crash provisioned.audited ⟨f, secret, rfl⟩) fun secretId => Crash.of_fact ?_
  rintro rfl
  refine Crash.bind (E := fun _ => Unchanged s) ?_ fun _ => ?_
  · have login : Answers (.approleLogin s.roleId (strip f.data)) s () := by
      refine ⟨?_, rfl, member⟩
      rw [(provisioned.places _ (base (by simp [basePlaces]))).value rfl]
      rfl
    exact (read_crash (F := fun _ => True) provisioned.audited (fun _ _ => rfl) ⟨(), login⟩
      fun _ _ => trivial).mono (fun _ start => start) (fun _ _ post => post.2) fun _ _ post => post
  refine Crash.bind (recheckConfig_crash provisioned (by simp) postgres (base (by simp [basePlaces]))) fun _ => ?_
  refine Crash.bind (recheckConfig_crash provisioned (by simp) clickhouse (base (by simp [basePlaces]))) fun _ => ?_
  exact Crash.ret fun w start => ⟨start, start⟩

/-- Setup is idempotent: run again on what it has set up, with the root token or without it, with failures and wherever
it is stopped, it disturbs nothing; and it fails only where an operation has failed. -/
theorem Provisioned.rerun_undisturbed (provisioned : Provisioned env s) :
    Crash Serves (Undisturbed s) (fun w => w = s) (provision env) (fun _ w => Provisioned env w ∧ w.leases = s.leases)
      (fun _ w => w.troubled = true) ∧
    Crash Serves (Unchanged s) (fun w => w = s) recheckWithoutRoot (fun _ => Unchanged s) (fun _ w => w = s.troubles) :=
  ⟨provision_again provisioned, (recheckWithoutRoot_crash provisioned).mono (fun _ start => Or.inl start)
    (fun _ _ post => post) fun _ _ post => post⟩

end recheck

/-- The values of setup at some places. -/
def setUp (env : Env) : List Slot → AList Value
  | [] => ∅
  | slot :: slots =>
    match env.desired slot with
    | some value => (setUp env slots).insert slot value
    | none => (setUp env slots).erase slot

theorem setUp_lookup (env : Env) (slots : List Slot) {slot : Slot} (member : slot ∈ slots) :
    (setUp env slots).lookup slot = env.desired slot := by
  induction slots with
  | nil => cases member
  | cons first slots ih =>
    by_cases same : slot = first
    · subst same
      unfold setUp
      split
      · rename_i desired
        rw [AList.lookup_insert, desired]
      · rename_i desired
        rw [AList.lookup_erase, desired]
    · have rest := ih ((List.mem_cons.mp member).resolve_left same)
      unfold setUp
      split
      · rw [AList.lookup_insert_ne same, rest]
      · rw [AList.lookup_erase_ne same, rest]

def someEnv : Env where
  main := ⟨false, [], .ok 1, .ok 1, false⟩
  postgresHost := "postgres"
  postgresPort := 5432
  clickhouseHost := "clickhouse"
  clickhouseNativePort := 9000
  pgSslmode := ""
  pgSslrootcert := ""
  allowInsecure := true
  chSecure := false
  managerPassword _ := "manager-password"
  introspectPassword _ := "introspect-password"
  adminUser := "admin"
  adminPassword := "admin-password"
  ttlMax := 86400
  appUid := 1000
  hostUid := none
  digest := .ok (String.ofList (List.replicate 64 'a'))

/-- What a run of setup leaves behind. -/
def someState : State where
  vault := setUp someEnv (places someEnv)
  leases := []
  roleId := "role"
  secretIds := ["secret"]
  databases :=
    { postgres :=
        { roles := [⟨1, "vault_manager", false, false, false, false, true⟩]
          authMembers := []
          names := by decide
          oids := by decide
          me := ⟨1, "vault_manager", false, false, false, false, true⟩
          present := by decide }
      clickhouse := ⟨[], []⟩ }
  files := (AList.insert "approle/role_id" ⟨"role", 0o400, some 1000⟩ ∅).insert "approle/secret_id"
    ⟨"secret", 0o400, some 1000⟩
  unaudited := false
  troubled := false
  tidy := by decide

theorem someState_provisioned : Provisioned someEnv someState := by
  have set {slot : Slot} (member : slot ∈ places someEnv) : someState.vault.lookup slot = someEnv.desired slot :=
    setUp_lookup someEnv _ member
  have ensured : ∀ slot ∈ places someEnv, slot.ensured = true → (someEnv.desired slot).isSome = true := by decide
  refine ⟨?_, fun slot member => ?_, ?_, ?_, fun request => ?_⟩
  · rw [State.Audited, set (by simp [places, someEnv, basePlaces])]
    rfl
  · unfold Done
    split
    · rw [set member]
      exact ensured slot member (by assumption)
    · exact set member
  · refine ⟨⟨_, rfl, by decide⟩, ⟨_, rfl⟩, fun name known cfg shown => ?_, by decide, by decide⟩
    obtain ⟨config, there, rfl⟩ := Option.map_eq_some_iff.mp shown
    refine desired_fitting ((set ?_).symm.trans there)
    rcases List.mem_cons.mp known with rfl | known
    · simp [places, someEnv, basePlaces]
    · rw [List.mem_singleton.mp known]
      simp [places, someEnv, basePlaces]
  · exact ⟨⟨⟨"role", 0o400, some 1000⟩, by decide, by decide⟩, ⟨"secret", 0o400, some 1000⟩, by decide, by decide⟩
  · exact State.permits_iff (set (by simp [places, someEnv, basePlaces])) (set (by simp [places, someEnv, basePlaces]))

theorem someState_again :
    Crash Serves (Undisturbed someState) (fun w => w = someState) (provision someEnv)
      (fun _ w => Provisioned someEnv w ∧ w.leases = someState.leases) (fun _ w => w.troubled = true) ∧
    Crash Serves (Unchanged someState) (fun w => w = someState) recheckWithoutRoot (fun _ => Unchanged someState)
      (fun _ w => w = someState.troubles) :=
  someState_provisioned.rerun_undisturbed

end Vdba.Provisioning
