import Vdba.Provisioning
import Vdba.Probes

namespace Vdba.Provisioning
open Interaction (Prog Crash)
open Bootstrap (strip systemExit)

/-- The names of `mkstemp` in the two directories. -/
def Temp (path : String) : Prop := "approle/.tmp-".toList <+: path.toList ∨ ".tmp-".toList <+: path.toList

instance (path : String) : Decidable (Temp path) := inferInstanceAs (Decidable (_ <+: _ ∨ _ <+: _))

/-- The files that setup writes, and nobody but their owner reads, are complete. -/
def OwnFile (env : Env) (w : State) (path : String) (f : File) : Prop :=
  path = "approle/role_id" ∧ f = ⟨w.roleId, 0o400, some env.appUid⟩ ∨
  path = "approle/secret_id" ∧ (∃ id ∈ w.secretIds, strip id = id ∧ f = ⟨id, 0o400, some env.appUid⟩) ∨
  path = "test-admin-token" ∧ ∃ token, f = ⟨token, 0o600, env.hostUid⟩

def ProbeLease (lease : String) : Prop :=
  ∃ name key, name ∈ ["postgres", "clickhouse"] ∧ lease = "database/creds/" ++ probeRole name ++ "/" ++ key

/-- What may have become of the state a run started in, wherever the run has got to: every place but the roles of the
probes is as it was, or as setup sets it; what was there of the rest is there as it was. -/
structure Under (env : Env) (s w : State) : Prop where
  places : ∀ slot : Slot, slot.probe = false → w.vault.lookup slot = s.vault.lookup slot ∨
    (env.desired slot).isSome ∧ w.vault.lookup slot = env.desired slot
  kept : ∀ slot : Slot, slot.ensured = true → (s.vault.lookup slot).isSome → w.vault.lookup slot = s.vault.lookup slot
  unaudited : w.unaudited = s.unaudited
  leases : ∀ lease ∈ w.leases, lease ∈ s.leases ∨ ProbeLease lease
  leased : s.leases ⊆ w.leases
  roleId : w.roleId = s.roleId
  secretIds : s.secretIds ⊆ w.secretIds
  databases : w.databases = s.databases
  files : ∀ path, ¬Temp path → w.files.lookup path = s.files.lookup path ∨
    ∃ f, w.files.lookup path = some f ∧ OwnFile env w path f
  temps : ∀ path f, Temp path → w.files.lookup path = some f → s.files.lookup path = some f ∨ f.Private

/-- Nothing about the environment, the databases and the connections that are there stops setup. -/
structure Sound (env : Env) (s : State) : Prop where
  digest : ∃ text, env.digest = .ok text ∧ digestOk (strip text) = true
  sslmode : ∃ mode, env.sslmode = .ok mode
  connections : ∀ name ∈ ["postgres", "clickhouse"], ∀ cfg, s.details name = some cfg →
    cfg.username = some "vault_manager" ∧ cfg.usernameTemplate = some USERNAME_TEMPLATE
  postgres : postgresProbe s.databases.postgres = .ok ()
  clickhouse : clickhouseProbe s.databases.clickhouse "vault_manager" = .ok ()

/-- There is a cause for a run to have failed. -/
def Excused (env : Env) (s w : State) : Prop := w.troubled = true ∨ ¬Sound env s

section under
variable {env : Env} {s w : State} {slot : Slot} {op : Op}

theorem Under.refl (env : Env) (s : State) : Under env s s where
  places _ _ := Or.inl rfl
  kept _ _ _ := rfl
  unaudited := rfl
  leases _ member := Or.inl member
  leased := List.Subset.refl _
  roleId := rfl
  secretIds := List.Subset.refl _
  databases := rfl
  files _ _ := Or.inl rfl
  temps _ _ _ there := Or.inl there

theorem Under.troubles (under : Under env s w) : Under env s w.troubles := { under with }

@[simp] theorem lookup_put_self {value : Value slot} : (w.put slot value).vault.lookup slot = some value :=
  AList.lookup_insert _

theorem lookup_put {value : Value slot} {other : Slot} (apart : other ≠ slot) :
    (w.put slot value).vault.lookup other = w.vault.lookup other := AList.lookup_insert_ne apart

theorem Under.put {value : Value slot} (under : Under env s w) (desired : env.desired slot = some value)
    (missing : slot.ensured = true → w.vault.lookup slot = none) : Under env s (w.put slot value) := by
  refine { under with places := fun other plain => ?_, kept := fun other ensured there => ?_ }
  · by_cases same : other = slot
    · subst same
      rw [lookup_put_self, desired]
      exact Or.inr ⟨rfl, rfl⟩
    · rw [lookup_put same]
      exact under.places other plain
  · by_cases same : other = slot
    · subst same
      have absent := missing ensured
      rw [under.kept other ensured there] at absent
      rw [absent] at there
      cases there
    · rw [lookup_put same]
      exact under.kept other ensured there

theorem Slot.probe_not_ensured (probe : slot.probe = true) : slot.ensured = false := by
  cases slot
  case role => rfl
  all_goals cases probe

theorem Under.putProbe {value : Value slot} (under : Under env s w) (probe : slot.probe = true) :
    Under env s (w.put slot value) := by
  refine { under with places := fun other plain => ?_, kept := fun other ensured there => ?_ }
  · rw [lookup_put (by rintro rfl; rw [probe] at plain; cases plain)]
    exact under.places other plain
  · rw [lookup_put (by rintro rfl; rw [Slot.probe_not_ensured probe] at ensured; cases ensured)]
    exact under.kept other ensured there

theorem Under.drop (under : Under env s w) (probe : slot.probe = true) : Under env s (w.drop slot) := by
  refine { under with places := fun other plain => ?_, kept := fun other ensured there => ?_ }
  · have apart : other ≠ slot := by rintro rfl; rw [probe] at plain; cases plain
    rw [State.drop, AList.lookup_erase_ne apart]
    exact under.places other plain
  · have apart : other ≠ slot := by rintro rfl; rw [Slot.probe_not_ensured probe] at ensured; cases ensured
    rw [State.drop, AList.lookup_erase_ne apart]
    exact under.kept other ensured there

theorem OwnFile.later {w' : State} {path : String} {f : File} (own : OwnFile env w path f)
    (roleId : w'.roleId = w.roleId) (secretIds : w.secretIds ⊆ w'.secretIds) : OwnFile env w' path f := by
  rcases own with ⟨at_, same⟩ | ⟨at_, id, member, same⟩ | other
  · exact Or.inl ⟨at_, roleId ▸ same⟩
  · exact Or.inr (Or.inl ⟨at_, id, secretIds member, same⟩)
  · exact Or.inr (Or.inr other)

theorem Under.secretId {id : String} (under : Under env s w) :
    Under env s { w with secretIds := id :: w.secretIds } := by
  refine { under with secretIds := fun old member => List.mem_cons_of_mem _ (under.secretIds member), files := ?_ }
  intro path plain
  rcases under.files path plain with same | ⟨f, there, own⟩
  · exact Or.inl same
  · exact Or.inr ⟨f, there, own.later rfl (List.subset_cons_self _ _)⟩

theorem lookup_setFile_self {path : String} {f : File} : (w.setFile path f).files.lookup path = some f :=
  AList.lookup_insert _

theorem lookup_setFile {path other : String} {f : File} (apart : other ≠ path) :
    (w.setFile path f).files.lookup other = w.files.lookup other := AList.lookup_insert_ne apart

theorem Under.setTemp {path : String} {f : File} (under : Under env s w) (temp : Temp path) (private_ : f.Private) :
    Under env s (w.setFile path f) := by
  refine { under with files := fun other plain => ?_, temps := fun other g temp there => ?_ }
  · have apart : other ≠ path := by rintro rfl; exact plain temp
    rw [lookup_setFile apart]
    exact under.files other plain
  · by_cases same : other = path
    · subst same
      rw [lookup_setFile_self] at there
      cases there
      exact Or.inr private_
    · rw [lookup_setFile same] at there
      exact under.temps other g temp there

theorem Under.setFile {path : String} {f : File} (under : Under env s w) (plain : ¬Temp path)
    (own : OwnFile env w path f) : Under env s (w.setFile path f) := by
  refine { under with files := fun other outside => ?_, temps := fun other g temp there => ?_ }
  · by_cases same : other = path
    · subst same
      exact Or.inr ⟨f, lookup_setFile_self, own⟩
    · rw [lookup_setFile same]
      exact under.files other outside
  · have apart : other ≠ path := by rintro rfl; exact plain temp
    rw [lookup_setFile apart] at there
    exact under.temps other g temp there

theorem effect_unaudited (answer : Ans op) : (effect op answer w).unaudited = w.unaudited := by
  cases op
  case writeTemp | chmod | chown | replace =>
    simp only [effect, State.alterFile, State.moveFile]
    split <;> rfl
  all_goals rfl

/-- With the audit device on, an operation does what it does. -/
theorem after_eq {answer : Ans op} (audited : op.ofVault = true → w.Audited) : w.after op answer = effect op answer w := by
  have noted : (w.unaudited || op.ofVault && !decide w.Audited) = (effect op answer w).unaudited := by
    rw [effect_unaudited]
    cases vault : op.ofVault with
    | false => simp
    | true => simp [audited vault]
  rw [State.after, noted]

end under

/-- A place is as setup leaves it: there, or with the value of setup. -/
def Done (env : Env) (slot : Slot) (w : State) : Prop :=
  if slot.ensured = true then (w.vault.lookup slot).isSome = true else w.vault.lookup slot = env.desired slot

theorem Done.of_there {env : Env} {slot : Slot} {w : State} (ensured : slot.ensured = true)
    (there : (w.vault.lookup slot).isSome = true) : Done env slot w := by
  rw [Done, if_pos ensured]
  exact there

theorem Done.there {env : Env} {slot : Slot} {w : State} (done : Done env slot w) (ensured : slot.ensured = true) :
    (w.vault.lookup slot).isSome = true := by
  rw [Done, if_pos ensured] at done
  exact done

theorem Done.value {env : Env} {slot : Slot} {w : State} (done : Done env slot w) (set : slot.ensured = false) :
    w.vault.lookup slot = env.desired slot := by
  rw [Done, set] at done
  exact done

/-- Where a run has got to that has not failed, with the places it has been at. -/
structure Reached (env : Env) (s : State) (slots : List Slot) (w : State) : Prop where
  under : Under env s w
  audited : w.Audited
  leases : w.leases = s.leases
  done : ∀ slot ∈ slots, Done env slot w

/-- Where a run has failed. -/
def Failed (env : Env) (s : State) (_ : Exc) (w : State) : Prop := Under env s w ∧ Excused env s w

section rules
variable {env : Env} {s : State} {slots : List Slot} {slot : Slot} {op : Op} {P : State → Prop}
  {E : Ans op → State → Prop} {X : Exc → State → Prop}

theorem Reached.add {w : State} (reached : Reached env s slots w) (done : Done env slot w) :
    Reached env s (slot :: slots) w := by
  refine ⟨reached.under, reached.audited, reached.leases, fun other member => ?_⟩
  rcases List.mem_cons.mp member with rfl | member
  · exact done
  · exact reached.done other member

theorem Done.put {w : State} {other : Slot} {value : Value slot} (done : Done env other w) (apart : other ≠ slot) :
    Done env other (w.put slot value) := by
  rw [Done, lookup_put apart]
  exact done

theorem Reached.put {w : State} {value : Value slot} (reached : Reached env s slots w)
    (desired : env.desired slot = some value) (missing : slot.ensured = true → w.vault.lookup slot = none) :
    Reached env s (slot :: slots) (w.put slot value) := by
  refine ⟨reached.under.put desired missing, ?_, reached.leases, fun other member => ?_⟩
  · have audited := reached.audited
    unfold State.Audited at audited ⊢
    by_cases same : Slot.auditDevice "file/" = slot
    · rw [← same] at missing
      rw [missing rfl] at audited
      cases audited
    · rw [lookup_put same]
      exact audited
  · by_cases same : other = slot
    · subst same
      rw [Done, lookup_put_self, desired]
      split <;> rfl
    · exact ((reached.done other) ((List.mem_cons.mp member).resolve_left same)).put same

/-- One operation that Vault may refuse. -/
theorem ask_served (under : ∀ w, P w → Under env s w)
    (answered : ∀ w answer, P w → Answers op w answer → Under env s (w.after op answer) ∧ E answer (w.after op answer))
    (refused : ∀ w exn, P w → (∀ answer, ¬Answers op w answer) → op.Refusal exn → X exn w)
    (fails : ∀ w exn, P w → X exn w.troubles)
    (lost : ∀ w answer exn, P w → Answers op w answer → X exn (w.after op answer).troubles) :
    Crash Serves (Under env s) P (ask op) E X := by
  refine Crash.perform under (fun w answer v start served => ?_) fun w exn v start served => ?_
  · cases served with
    | answers answers => exact answered w answer start answers
  · cases served with
    | refuses none_ refusal => exact ⟨under w start, refused w exn start none_ refusal⟩
    | lost answers => exact ⟨(answered w _ start answers).1.troubles, lost w _ exn start answers⟩
    | fails => exact ⟨(under w start).troubles, fails w exn start⟩

/-- One operation that Vault has no reason to refuse. -/
theorem ask_crash (under : ∀ w, P w → Under env s w) (answerable : ∀ w, P w → ∃ answer, Answers op w answer)
    (answered : ∀ w answer, P w → Answers op w answer → Under env s (w.after op answer) ∧ E answer (w.after op answer)) :
    Crash Serves (Under env s) P (ask op) E (Failed env s) := by
  refine ask_served under answered (fun w exn start none_ _ => ?_) (fun w exn start => ?_)
    fun w answer exn start answers => ?_
  · obtain ⟨answer, answers⟩ := answerable w start
    exact absurd answers (none_ answer)
  · exact ⟨(under w start).troubles, Or.inl rfl⟩
  · exact ⟨(answered w answer start answers).1.troubles, Or.inl rfl⟩

/-- A place is set that is to be set, or that is missing. -/
theorem write_crash {value : Value slot} {F : State → Prop} (desired : env.desired slot = some value)
    (keeps : ∀ w, F w → F (w.put slot value)) :
    Crash Serves (Under env s)
      (fun w => Reached env s slots w ∧ F w ∧ (slot.ensured = true → w.vault.lookup slot = none))
      (ask (.write slot value)) (fun _ w => Reached env s (slot :: slots) w ∧ F w) (Failed env s) := by
  refine ask_crash (fun w start => start.1.under) (fun w start => ⟨(), trivial⟩) fun w answer start _ => ?_
  obtain ⟨reached, fact, missing⟩ := start
  have after : w.after (.write slot value) answer = w.put slot value := after_eq fun _ => reached.audited
  rw [after]
  exact ⟨reached.under.put desired missing, reached.put desired missing, keeps w fact⟩

theorem set_crash {value : Value slot} (desired : env.desired slot = some value) (set : slot.ensured = false) :
    Crash Serves (Under env s) (Reached env s slots) (ask (.write slot value))
      (fun _ => Reached env s (slot :: slots)) (Failed env s) :=
  (write_crash (F := fun _ => True) desired fun _ _ => trivial).mono
    (fun w start => ⟨start, trivial, fun ensured => by rw [set] at ensured; cases ensured⟩) (fun _ _ post => post.1)
    fun _ _ post => post

theorem whenMissing_cases {path : String} {listed : List String} {enable : Script Unit} {I : State → Prop}
    {E : Unit → State → Prop} (there : path ∈ listed → ∀ w, P w → I w ∧ E () w)
    (absent : path ∉ listed → Crash Serves I P enable E X) : Crash Serves I P (whenMissing path listed enable) E X := by
  unfold whenMissing
  split
  · rename_i member
    exact Crash.ret (there member)
  · rename_i missing
    exact absent missing

/-- Setup is at a place that it leaves alone when there is something. -/
theorem whenMissing_crash {path : String} {listed : List String} {value : Value slot} {F : State → Prop}
    (desired : env.desired slot = some value) (ensured : slot.ensured = true)
    (keeps : ∀ w, F w → F (w.put slot value)) :
    Crash Serves (Under env s)
      (fun w => Reached env s slots w ∧ (path ∈ listed ↔ (w.vault.lookup slot).isSome = true) ∧ F w)
      (whenMissing path listed (ask (.write slot value))) (fun _ w => Reached env s (slot :: slots) w ∧ F w)
      (Failed env s) := by
  refine whenMissing_cases (fun there w start => ?_) fun absent => ?_
  · exact ⟨start.1.under, start.1.add (Done.of_there ensured (start.2.1.mp there)), start.2.2⟩
  · refine (write_crash desired keeps).mono (fun w start => ⟨start.1, start.2.2, fun _ => ?_⟩) (fun _ _ post => post)
      fun _ _ post => post
    exact Option.not_isSome_iff_eq_none.mp fun present => absent (start.2.1.mpr present)

/-- What is listed is there. -/
theorem mem_listed {w : State} {kind : Slot → Option String} {path : String} {named : String → Slot}
    (names : ∀ slot, kind slot = some path ↔ slot = named path) :
    path ∈ w.vault.keys.filterMap kind ↔ (w.vault.lookup (named path)).isSome = true := by
  rw [List.mem_filterMap, AList.lookup_isSome, AList.mem_keys]
  constructor
  · rintro ⟨slot, member, named_⟩
    rw [← (names slot).mp named_]
    exact member
  · intro member
    exact ⟨_, member, (names _).mpr rfl⟩

end rules

section engines
variable {env : Env} {s : State} {slots : List Slot} {P : State → Prop}

theorem lift_crash {α : Type} {outcome : Except Exc α} (under : ∀ w, P w → Under env s w)
    (bad : ∀ exn, outcome = .error exn → ¬Sound env s) :
    Crash Serves (Under env s) P (lift outcome) (fun value w => outcome = .ok value ∧ P w) (Failed env s) := by
  cases outcome with
  | ok value => exact Crash.ret fun w start => ⟨under w start, rfl, start⟩
  | error exn => exact Crash.raise fun w start => ⟨under w start, under w start, Or.inr (bad exn rfl)⟩

theorem raise_crash {α : Type} {exn : Exc} {E : α → State → Prop} (under : ∀ w, P w → Under env s w)
    (bad : ¬Sound env s) : Crash Serves (Under env s) P (.raise exn : Script α) E (Failed env s) :=
  Crash.raise fun w start => ⟨under w start, under w start, Or.inr bad⟩

theorem ensureAudit_crash : Crash Serves (Under env s) (fun w => Under env s w ∧ w.leases = s.leases) ensureAudit
    (fun _ => Reached env s [.auditDevice "file/"]) (Failed env s) := by
  have device (w : State) (devices : Option (List String)) (read : Answers .listEnabledAuditDevices w devices) :
      "file/" ∈ devices.getD [] ↔ w.Audited := by
    have listed : devices.getD [] = w.vault.keys.filterMap Slot.device := read
    rw [listed]
    refine mem_listed fun slot => ?_
    cases slot <;> simp [Slot.device]
  have list : Crash Serves (Under env s) (fun w => Under env s w ∧ w.leases = s.leases) (ask .listEnabledAuditDevices)
      (fun (devices : Option (List String)) w => (Under env s w ∧ w.leases = s.leases) ∧
        ("file/" ∈ devices.getD [] ↔ w.Audited)) (Failed env s) := by
    refine ask_crash (fun w start => start.1) (fun w start => ⟨some _, rfl⟩) fun w answer start answers => ?_
    rw [after_eq fun vault => by cases vault]
    exact ⟨start.1, start, device w answer answers⟩
  refine Crash.bind list fun devices => whenMissing_cases (fun there w start => ?_) fun absent => ?_
  · obtain ⟨⟨under, leases⟩, listed⟩ := start
    refine ⟨under, under, listed.mp there, leases, fun slot member => ?_⟩
    rw [List.mem_singleton.mp member]
    exact Done.of_there rfl (listed.mp there)
  · refine ask_crash (fun w start => start.1.1) (fun w start => ⟨(), trivial⟩) fun w answer start _ => ?_
    obtain ⟨⟨under, leases⟩, listed⟩ := start
    have missing : w.vault.lookup (.auditDevice "file/") = none :=
      Option.not_isSome_iff_eq_none.mp fun there => absent (listed.mpr there)
    rw [after_eq fun vault => by cases vault]
    have put : Under env s (w.put (.auditDevice "file/") ⟨"file", [("file_path", "/vault/logs/audit.log")]⟩) :=
      under.put rfl fun _ => missing
    have audited : (w.put (.auditDevice "file/") ⟨"file", [("file_path", "/vault/logs/audit.log")]⟩).Audited := by
      rw [State.Audited, lookup_put_self]
      rfl
    refine ⟨put, put, audited, leases, fun slot member => ?_⟩
    rw [List.mem_singleton.mp member]
    exact Done.of_there rfl audited

theorem ensureEngines_crash : Crash Serves (Under env s) (Reached env s slots) (ensureEngines env)
    (fun _ w => (∃ text, env.digest = .ok text ∧ digestOk (strip text) = true) ∧
      Reached env s (.plugin PLUGIN_NAME :: .passwordPolicy PASSWORD_POLICY_NAME :: .mount "kv/" :: .mount "database/" ::
        slots) w) (Failed env s) := by
  have engine (w : State) (path : String) :
      path ∈ w.vault.keys.filterMap Slot.engine ↔ (w.vault.lookup (.mount path)).isSome = true := by
    refine mem_listed fun slot => ?_
    cases slot <;> simp [Slot.engine]
  have list : Crash Serves (Under env s) (Reached env s slots) (ask .listMountedSecretsEngines)
      (fun (mounts : List String) w => Reached env s slots w ∧
        ("database/" ∈ mounts ↔ (w.vault.lookup (.mount "database/")).isSome = true) ∧
        ("kv/" ∈ mounts ↔ (w.vault.lookup (.mount "kv/")).isSome = true)) (Failed env s) := by
    refine ask_crash (fun w start => start.under) (fun w start => ⟨_, rfl⟩) fun w answer start answers => ?_
    rw [after_eq fun _ => start.audited]
    have mounts : answer = w.vault.keys.filterMap Slot.engine := answers
    rw [mounts]
    exact ⟨start.under, start, engine w _, engine w _⟩
  refine Crash.bind list fun mounts => ?_
  refine Crash.bind (whenMissing_crash rfl rfl fun w listed => ?_) fun _ => ?_
  · rw [lookup_put (by decide)]
    exact listed
  refine Crash.bind ((whenMissing_crash (F := fun _ => True) rfl rfl fun _ _ => trivial).mono
    (fun w start => ⟨start.1, start.2, trivial⟩) (fun _ _ post => post.1) fun _ _ post => post) fun _ => ?_
  refine Crash.bind (set_crash rfl rfl) fun _ => ?_
  refine Crash.bind (lift_crash (fun w start => start.under) fun exn failed sound => ?_) fun text => ?_
  · obtain ⟨text, read, -⟩ := sound.digest
    rw [read] at failed
    cases failed
  · refine Crash.of_fact fun read => ?_
    split
    · rename_i good
      refine (set_crash ?_ rfl).mono (fun _ start => start) (fun _ _ post => ⟨⟨text, read, good⟩, post⟩) fun _ _ post => post
      change (if PLUGIN_NAME = PLUGIN_NAME then env.digest.toOption.map fun text => (⟨strip text, PLUGIN_NAME⟩ : Plugin)
        else none) = _
      rw [if_pos rfl, read]
      rfl
    · rename_i bad
      refine raise_crash (fun w start => start.under) fun sound => ?_
      obtain ⟨text', read', good⟩ := sound.digest
      rw [read] at read'
      cases read'
      exact bad good

end engines

/-- The account and the template of the portal's own connections. -/
def Fitting (cfg : ConnectionDetails) : Prop :=
  cfg.username = some "vault_manager" ∧ cfg.usernameTemplate = some USERNAME_TEMPLATE

/-- What setup has verified of a connection: what was configured before it, and what the probe has run into. -/
def Verified (s : State) (name : String) (statements : List String) : Prop :=
  (∀ cfg, s.details name = some cfg → Fitting cfg) ∧ s.databases.run name statements = .ok ()

section connections
variable {env : Env} {s w : State} {slots : List Slot} {name : String} {statements : List String}

theorem desired_fitting {cfg : ConnectionConfig} (desired : env.desired (.config name) = some cfg) :
    Fitting cfg.details := by
  have desired : (if name = "postgres" then env.sslmode.toOption.map env.postgresConfig
    else if name = "clickhouse" then some env.clickhouseConfig else none) = some cfg := desired
  split at desired
  · obtain ⟨mode, -, rfl⟩ := Option.map_eq_some_iff.mp desired
    exact ⟨rfl, rfl⟩
  · split at desired
    · cases desired
      exact ⟨rfl, rfl⟩
    · cases desired

theorem Under.details (under : Under env s w) :
    w.details name = s.details name ∨ ∀ cfg, w.details name = some cfg → Fitting cfg := by
  rcases under.places (.config name) rfl with same | ⟨-, set⟩
  · exact Or.inl (congrArg (Option.map ConnectionConfig.details) same)
  · refine Or.inr fun cfg shown => ?_
    obtain ⟨config, there, rfl⟩ := Option.map_eq_some_iff.mp shown
    exact desired_fitting (set.symm.trans there)

theorem details_some (done : Done env (.config name) w) : ∃ cfg, w.details name = some cfg := by
  obtain ⟨config, there⟩ := Option.isSome_iff_exists.mp (done.there rfl)
  exact ⟨config.details, congrArg (Option.map ConnectionConfig.details) there⟩

/-- What is accepted of a connection that was there is accepted of it as it was. -/
theorem Under.verified (under : Under env s w)
    (accepted : ∀ cfg, w.details name = some cfg → Fitting cfg) :
    ∀ cfg, s.details name = some cfg → Fitting cfg := by
  intro cfg shown
  obtain ⟨config, there, rfl⟩ := Option.map_eq_some_iff.mp shown
  refine accepted _ ?_
  have kept : w.vault.lookup (.config name) = s.vault.lookup (.config name) :=
    under.kept (.config name) rfl (Option.isSome_of_eq_some there)
  exact (congrArg (Option.map ConnectionConfig.details) kept).trans shown

theorem readConfig_crash : Crash Serves (Under env s) (Reached env s slots) (ask (.readConfig .root name))
    (fun (cfg : Option ConnectionDetails) w => Reached env s slots w ∧ cfg = w.details name) (Failed env s) := by
  refine ask_crash (fun w start => start.under) (fun w start => ⟨_, rfl, fun service => by cases service⟩)
    fun w answer start answers => ?_
  rw [after_eq fun _ => start.audited]
  exact ⟨start.under, start, answers.1⟩

theorem checkConnectionConfig_crash (known : name ∈ ["postgres", "clickhouse"]) (there : .config name ∈ slots) :
    Crash Serves (Under env s) (Reached env s slots) (checkConnectionConfig .root name)
      (fun _ w => (∀ cfg, s.details name = some cfg → Fitting cfg) ∧ Reached env s slots w) (Failed env s) := by
  refine Crash.bind readConfig_crash fun cfg => ?_
  cases cfg with
  | none =>
    refine Crash.raise fun w start => ?_
    obtain ⟨cfg, shown⟩ := details_some (start.1.done _ there)
    rw [← start.2] at shown
    cases shown
  | some cfg =>
    dsimp only
    cases checked : Vdba.checkConnectionConfig name cfg with
    | ok value =>
      refine Crash.ret fun w start => ⟨start.1.under, start.1.under.verified fun cfg' shown => ?_, start.1⟩
      rw [← start.2] at shown
      cases shown
      exact checkConnectionConfig_ok.mp checked
    | error refusal =>
      have bad : ¬Fitting cfg := by
        intro fitting
        have accepted : Vdba.checkConnectionConfig name cfg = .ok () := checkConnectionConfig_ok.mpr fitting
        rw [checked] at accepted
        cases accepted
      refine Crash.raise fun w start => ⟨start.1.under, start.1.under, Or.inr fun sound => ?_⟩
      obtain same | fits : w.details name = s.details name ∨ ∀ cfg, w.details name = some cfg → Fitting cfg :=
        start.1.under.details
      · exact bad (sound.connections name known cfg (same.symm.trans start.2.symm))
      · exact bad (fits cfg start.2.symm)

/-- The run is about to use the probe's role. -/
structure Probing (env : Env) (s : State) (slots : List Slot) (name : String) (statements : List String) (w : State) :
    Prop where
  reached : Reached env s slots w
  role : ∃ r : DatabaseRole, w.vault.lookup (.role (probeRole name)) = some r ∧ r.dbName = name ∧
    r.creationStatements = statements
  connection : (w.vault.lookup (.config name)).isSome = true

/-- The probe has run, and its lease is there. -/
structure Leased (env : Env) (s : State) (slots : List Slot) (lease : String) (w : State) : Prop where
  under : Under env s w
  audited : w.Audited
  leases : w.leases = lease :: s.leases
  new : lease ∉ s.leases
  named : lease ≠ ""
  done : ∀ slot ∈ slots, Done env slot w

/-- The run has failed, with the audit device on. -/
def FailedAudited (env : Env) (s : State) (_ : Exc) (w : State) : Prop :=
  Under env s w ∧ w.Audited ∧ Excused env s w

theorem probe_role (known : name ∈ ["postgres", "clickhouse"]) : (Slot.role (probeRole name)).probe = true := by
  rcases List.mem_cons.mp known with rfl | known
  · decide
  · rw [List.mem_singleton.mp known]
    decide

/-- Longer than every text of a list. -/
theorem fresh (front : String) (taken : List String) : ∃ rest, front ++ rest ∉ taken := by
  have bound : ∃ n, ∀ text ∈ taken, text.toList.length ≤ n := by
    induction taken with
    | nil => exact ⟨0, fun _ member => by cases member⟩
    | cons text taken ih =>
      obtain ⟨n, bound⟩ := ih
      refine ⟨max text.toList.length n, fun other member => ?_⟩
      rcases List.mem_cons.mp member with rfl | member
      · exact Nat.le_max_left _ _
      · exact (bound other member).trans (Nat.le_max_right _ _)
  obtain ⟨n, bound⟩ := bound
  refine ⟨String.ofList (List.replicate (n + 1) 'a'), fun member => ?_⟩
  have length := bound _ member
  rw [String.toList_append, String.toList_ofList, List.length_append, List.length_replicate] at length
  omega

theorem Reached.putProbe {slot : Slot} {value : Value slot} (reached : Reached env s slots w)
    (probe : slot.probe = true) (new : slot ∉ slots) : Reached env s slots (w.put slot value) := by
  refine ⟨reached.under.putProbe probe, ?_, reached.leases, fun other member => ?_⟩
  · rw [State.Audited, lookup_put (by rintro rfl; cases probe)]
    exact reached.audited
  · exact (reached.done other member).put (by rintro rfl; exact new member)

theorem lookup_drop {slot other : Slot} (apart : other ≠ slot) :
    (w.drop slot).vault.lookup other = w.vault.lookup other := AList.lookup_erase_ne apart

theorem audited_drop {role : String} (audited : w.Audited) : (w.drop (.role role)).Audited := by
  rw [State.Audited, lookup_drop (by rintro ⟨⟩)]
  exact audited

theorem Reached.drop {role : String} (reached : Reached env s slots w) (probe : (Slot.role role).probe = true) :
    Reached env s (.role role :: slots) (w.drop (.role role)) := by
  refine ⟨reached.under.drop probe, audited_drop reached.audited, reached.leases, fun other member => ?_⟩
  by_cases same : other = .role role
  · subst same
    rw [Done, State.drop, AList.lookup_erase]
    rfl
  · rw [Done, lookup_drop same]
    exact reached.done other ((List.mem_cons.mp member).resolve_left same)

/-- The probe's lease is given back. -/
theorem Leased.given {lease : String} (leased : Leased env s slots lease w) :
    Reached env s slots { w with leases := w.leases.filter (· ≠ lease) } := by
  have rest : w.leases.filter (· ≠ lease) = s.leases := by
    rw [leased.leases, List.filter_cons_of_neg (by simp)]
    exact List.filter_eq_self.mpr fun other member => by
      simpa using fun same : other = lease => leased.new (same ▸ member)
  refine ⟨{ leased.under with leases := ?_, leased := ?_ }, leased.audited, rest, leased.done⟩
  · rw [rest]
    exact fun _ member => Or.inl member
  · rw [rest]
    exact List.Subset.refl _

theorem dropLease_crash {lease : String} (known : name ∈ ["postgres", "clickhouse"]) :
    Crash Serves (Under env s) (Leased env s slots lease) (dropProbe (probeRole name) (some lease))
      (fun _ => Reached env s (.role (probeRole name) :: slots)) (Failed env s) := by
  have delete : Crash Serves (Under env s) (Reached env s slots) (ask (.deleteRole (probeRole name)))
      (fun _ => Reached env s (.role (probeRole name) :: slots)) (Failed env s) := by
    refine ask_crash (fun w start => start.under) (fun w start => ⟨(), trivial⟩) fun w answer start _ => ?_
    rw [after_eq fun _ => start.audited]
    exact ⟨(start.drop (probe_role known)).under, start.drop (probe_role known)⟩
  refine Crash.bind ?_ fun _ => delete
  by_cases named : lease = ""
  · intro w start
    exact absurd named start.named
  · have given : truthy (some lease) = some lease := by simp [truthy, named]
    rw [revokeGiven, given]
    refine ask_crash (fun w start => start.under) (fun w start => ⟨(), trivial⟩) fun w answer start _ => ?_
    rw [after_eq fun _ => start.audited]
    exact ⟨start.given.under, start.given⟩

theorem dropNone_crash {exn : Exc} (known : name ∈ ["postgres", "clickhouse"]) :
    Crash Serves (Under env s) (FailedAudited env s exn) (dropProbe (probeRole name) none)
      (fun _ => FailedAudited env s exn) (Failed env s) := by
  refine Crash.bind (E := fun _ => FailedAudited env s exn) ?_ fun _ => ?_
  · exact Crash.ret fun w start => ⟨start.1, start⟩
  refine ask_crash (fun w start => start.1) (fun w start => ⟨(), trivial⟩) fun w answer start _ => ?_
  obtain ⟨under, audited, excused⟩ := start
  rw [after_eq fun _ => audited]
  have dropped := under.drop (probe_role known)
  exact ⟨dropped, dropped, audited_drop audited, excused⟩

theorem Sound.run (sound : Sound env s) (known : name ∈ ["postgres", "clickhouse"])
    (probes : PROBES.lookup name = some statements) : s.databases.run name statements = .ok () := by
  rw [Databases.run, if_pos probes]
  rcases List.mem_cons.mp known with rfl | known
  · rw [if_pos rfl]
    exact sound.postgres
  · rw [List.mem_singleton.mp known, if_neg (by decide)]
    exact sound.clickhouse

theorem readProbe_crash (known : name ∈ ["postgres", "clickhouse"]) (probes : PROBES.lookup name = some statements) :
    Crash Serves (Under env s) (Probing env s slots name statements) (readProbe name)
      (fun lease w => s.databases.run name statements = .ok () ∧ Leased env s slots lease w) (FailedAudited env s) := by
  have read : Crash Serves (Under env s) (Probing env s slots name statements) (ask (.readCreds (probeRole name)))
      (fun lease w => s.databases.run name statements = .ok () ∧ Leased env s slots lease w) (FailedAudited env s) := by
    have leased (w : State) (lease : String) (start : Probing env s slots name statements w)
        (answers : Answers (.readCreds (probeRole name)) w lease) :
        s.databases.run name statements = .ok () ∧ Leased env s slots lease { w with leases := lease :: w.leases } := by
      obtain ⟨reached, ⟨r, at_, named, same⟩, -⟩ := start
      obtain ⟨r', at', -, ran, new, key, rfl⟩ := answers
      obtain rfl : r = r' := Option.some.inj (at_.symm.trans at')
      rw [named, same, reached.under.databases] at ran
      rw [reached.leases] at new
      refine ⟨ran, ?_, reached.audited, congrArg _ reached.leases, new, ?_, reached.done⟩
      · refine { reached.under with leases := fun other member => ?_, leased := ?_ }
        · rcases List.mem_cons.mp member with rfl | member
          · exact Or.inr ⟨name, key, known, rfl⟩
          · exact reached.under.leases other member
        · exact List.Subset.trans reached.under.leased (List.subset_cons_self _ _)
      · intro empty
        have chars := congrArg String.toList empty
        simp [String.toList_append] at chars
    refine ask_served (fun w start => start.reached.under) (fun w lease start answers => ?_)
      (fun w exn start none_ _ => ?_) (fun w exn start => ?_) fun w lease exn start answers => ?_
    · rw [after_eq fun _ => start.reached.audited]
      obtain ⟨ran, post⟩ := leased w lease start answers
      exact ⟨post.under, ran, post⟩
    · obtain ⟨reached, ⟨r, at_, named, same⟩, connection⟩ := start
      refine ⟨reached.under, reached.audited, Or.inr fun sound => ?_⟩
      obtain ⟨key, new⟩ := fresh ("database/creds/" ++ probeRole name ++ "/") w.leases
      refine none_ _ ⟨r, at_, by rwa [named], ?_, new, key, rfl⟩
      rw [named, same, reached.under.databases]
      exact sound.run known probes
    · exact ⟨start.reached.under.troubles, start.reached.audited, Or.inl rfl⟩
    · rw [after_eq fun _ => start.reached.audited]
      obtain ⟨-, post⟩ := leased w lease start answers
      exact ⟨post.under.troubles, post.audited, Or.inl rfl⟩
  refine Crash.onError read (fun lease w post => post.2.under) fun exn => ?_
  split
  · exact Crash.raise fun w start => ⟨start.1, start⟩
  · exact Crash.raise fun w start => ⟨start.1, start⟩

theorem validateConnection_crash (known : name ∈ ["postgres", "clickhouse"])
    (probes : PROBES.lookup name = some statements) (there : .config name ∈ slots)
    (new : .role (probeRole name) ∉ slots) :
    Crash Serves (Under env s) (Reached env s slots) (validateConnection name none)
      (fun _ w => Verified s name statements ∧ Reached env s (.role (probeRole name) :: slots) w) (Failed env s) := by
  have found : probesOf name = .ok statements := by
    rw [probesOf, probes]
  refine Crash.bind (checkConnectionConfig_crash known there) fun _ => Crash.of_fact fun fits => ?_
  refine Crash.bind (E := fun given w => given = statements ∧ Reached env s slots w) ?_ fun given => Crash.of_fact ?_
  · rw [show (truthy none).getD name = name from rfl, found]
    exact Crash.ret fun w start => ⟨start.under, rfl, start⟩
  rintro rfl
  refine Crash.bind (E := fun _ => Probing env s slots name given) ?_ fun _ => ?_
  · refine ask_crash (fun w start => start.under) (fun w start => ⟨(), trivial⟩) fun w answer start _ => ?_
    rw [after_eq fun _ => start.audited]
    have put : Reached env s slots (w.put (.role (probeRole name)) ⟨name, given, ["SELECT 1"], "30s", "30s"⟩) :=
      start.putProbe (probe_role known) new
    refine ⟨put.under, put, ⟨_, lookup_put_self, rfl, rfl⟩, ?_⟩
    exact (put.done _ there).there rfl
  refine Crash.attempt (readProbe_crash known probes) (fun lease => ?_) fun exn => ?_
  · refine Crash.of_fact fun ran => Crash.bind (dropLease_crash known) fun _ => ?_
    exact Crash.ret fun w start => ⟨start.under, ⟨fits, ran⟩, start⟩
  · refine Crash.bind (dropNone_crash known) fun _ => ?_
    exact Crash.raise fun w start => ⟨start.1, start.1, start.2.2⟩

theorem ensureConnection_crash {cfg : ConnectionConfig} (known : name ∈ ["postgres", "clickhouse"])
    (probes : PROBES.lookup name = some statements) (desired : env.desired (.config name) = some cfg)
    (new : .role (probeRole name) ∉ slots) :
    Crash Serves (Under env s) (Reached env s slots) (ensureConnection name cfg)
      (fun _ w => Verified s name statements ∧
        Reached env s (.role (probeRole name) :: .config name :: slots) w) (Failed env s) := by
  have validate : Crash Serves (Under env s) (Reached env s (.config name :: slots)) (validateConnection name none)
      (fun _ w => Verified s name statements ∧
        Reached env s (.role (probeRole name) :: .config name :: slots) w) (Failed env s) := by
    refine validateConnection_crash known probes List.mem_cons_self fun member => ?_
    rcases List.mem_cons.mp member with same | member
    · cases same
    · exact new member
  refine Crash.bind readConfig_crash fun found => ?_
  cases found with
  | some details =>
    refine validate.mono (fun w start => start.1.add (Done.of_there rfl ?_)) (fun _ _ post => post) fun _ _ post => post
    obtain ⟨config, there, -⟩ := Option.map_eq_some_iff.mp start.2.symm
    exact Option.isSome_of_eq_some there
  | none =>
    refine Crash.bind (E := fun _ => Reached env s (.config name :: slots)) ?_ fun _ => validate
    refine (write_crash (F := fun _ => True) desired fun _ _ => trivial).mono
      (fun w start => ⟨start.1, trivial, fun _ => ?_⟩) (fun _ _ post => post.1) fun _ _ post => post
    exact Option.map_eq_none_iff.mp start.2.symm

theorem ensureConnections_crash {postgres clickhouse : List String} (plain : ∀ slot ∈ slots, slot.probe = false)
    (first : PROBES.lookup "postgres" = some postgres) (second : PROBES.lookup "clickhouse" = some clickhouse) :
    Crash Serves (Under env s) (Reached env s slots) (ensureConnections env)
      (fun _ w => ((∃ mode, env.sslmode = .ok mode) ∧ Verified s "postgres" postgres ∧
        Verified s "clickhouse" clickhouse) ∧ Reached env s (.secret "vdba/introspect/clickhouse" :: .secret "vdba/introspect/postgres" ::
          .role (probeRole "clickhouse") :: .config "clickhouse" :: .role (probeRole "postgres") ::
          .config "postgres" :: slots) w) (Failed env s) := by
  have apart (name : String) (known : name ∈ ["postgres", "clickhouse"]) : .role (probeRole name) ∉ slots := by
    intro member
    have probe := plain _ member
    rw [probe_role known] at probe
    cases probe
  refine Crash.bind (lift_crash (fun w start => start.under) fun exn failed sound => ?_) fun mode => ?_
  · obtain ⟨mode, good⟩ := sound.sslmode
    rw [good] at failed
    cases failed
  refine Crash.of_fact fun mode_ => ?_
  refine Crash.bind (ensureConnection_crash (by simp) first ?_ (apart _ (by simp))) fun _ => ?_
  · change (env.sslmode.toOption.map env.postgresConfig) = _
    rw [mode_]
    rfl
  refine Crash.of_fact fun verified => ?_
  refine Crash.bind (ensureConnection_crash (by simp) second rfl ?_) fun _ => Crash.of_fact fun verified_ => ?_
  · intro member
    rcases List.mem_cons.mp member with same | member
    · revert same
      decide
    · exact apart _ (by simp) ((List.mem_cons.mp member).resolve_left (by rintro ⟨⟩))
  refine Crash.bind (set_crash rfl rfl) fun _ => ?_
  exact (set_crash rfl rfl).mono (fun _ start => start) (fun _ w post => ⟨⟨⟨mode, mode_⟩, verified, verified_⟩, post⟩) fun _ _ post => post

theorem ensurePoliciesAndRoles_crash : Crash Serves (Under env s) (Reached env s slots) (ensurePoliciesAndRoles env)
    (fun _ => Reached env s (.approle APPROLE_NAME :: .user env.adminUser :: .authMethod "approle/" ::
      .authMethod "userpass/" :: .tokenRole TOKEN_ROLE_NAME :: .policy ADMIN_POLICY_NAME ::
      .policy CREDS_READER_POLICY_NAME :: .policy SERVICE_POLICY_NAME :: slots)) (Failed env s) := by
  have method (w : State) (path : String) :
      path ∈ w.vault.keys.filterMap Slot.auth ↔ (w.vault.lookup (.authMethod path)).isSome = true := by
    refine mem_listed fun slot => ?_
    cases slot <;> simp [Slot.auth]
  refine Crash.bind (set_crash rfl rfl) fun _ => ?_
  refine Crash.bind (set_crash rfl rfl) fun _ => ?_
  refine Crash.bind (set_crash rfl rfl) fun _ => ?_
  refine Crash.bind (set_crash rfl rfl) fun _ => ?_
  refine Crash.bind (E := fun (auth : List String) w => Reached env s (.tokenRole TOKEN_ROLE_NAME ::
    .policy ADMIN_POLICY_NAME :: .policy CREDS_READER_POLICY_NAME :: .policy SERVICE_POLICY_NAME :: slots) w ∧
      ("userpass/" ∈ auth ↔ (w.vault.lookup (.authMethod "userpass/")).isSome = true) ∧
      ("approle/" ∈ auth ↔ (w.vault.lookup (.authMethod "approle/")).isSome = true)) ?_ fun auth => ?_
  · refine ask_crash (fun w start => start.under) (fun w start => ⟨_, rfl⟩) fun w answer start answers => ?_
    rw [after_eq fun _ => start.audited]
    have auth : answer = w.vault.keys.filterMap Slot.auth := answers
    rw [auth]
    exact ⟨start.under, start, method w _, method w _⟩
  refine Crash.bind (whenMissing_crash rfl rfl fun w listed => ?_) fun _ => ?_
  · rw [lookup_put (by decide)]
    exact listed
  refine Crash.bind ((whenMissing_crash (F := fun _ => True) rfl rfl fun _ _ => trivial).mono
    (fun w start => ⟨start.1, start.2, trivial⟩) (fun _ _ post => post.1) fun _ _ post => post) fun _ => ?_
  refine Crash.bind (set_crash (if_pos rfl) rfl) fun _ => ?_
  exact set_crash rfl rfl

end connections

/-- The secret id of the file logs in. -/
def SecretId (w : State) : Prop := ∃ f, w.files.lookup "approle/secret_id" = some f ∧ strip f.data ∈ w.secretIds

/-- The credentials of the AppRole are in its two files. -/
def Delivered (w : State) : Prop :=
  (∃ f, w.files.lookup "approle/role_id" = some f ∧ strip f.data = w.roleId) ∧ SecretId w

section files
variable {env : Env} {s w : State} {slots : List Slot} {P Q : State → Prop} {path dir name data : String} {f : File}
  {mode : Nat} {uid : Option Nat}

theorem alterFile_setFile (change : File → File) :
    (w.setFile path f).alterFile path change = w.setFile path (change f) := by
  rw [State.alterFile, lookup_setFile_self]
  simp only [State.setFile, AList.insert_insert]

theorem moveFile_setFile {target : String} (new : w.files.lookup path = none) :
    (w.setFile path f).moveFile path target = w.setFile target f := by
  have absent : path ∉ w.files.entries.keys := AList.lookup_eq_none.mp new
  have erased : (w.files.insert path f).erase path = w.files := by
    refine AList.ext ?_
    change List.kerase path (⟨path, f⟩ :: List.kerase path w.files.entries) = w.files.entries
    rw [List.kerase_of_notMem_keys absent]
    exact List.kerase_cons_eq rfl
  rw [State.moveFile, lookup_setFile_self]
  simp only [State.setFile, erased]

/-- The state is one in which the assertion holds, but for a new file. -/
def Besides (P : State → Prop) (path : String) (f : File) (w : State) : Prop :=
  ∃ u, P u ∧ Temp path ∧ u.files.lookup path = none ∧ w = u.setFile path f

theorem Besides.under (under : ∀ w, P w → Under env s w) (private_ : f.Private) (start : Besides P path f w) :
    Under env s w := by
  obtain ⟨u, start, temp, -, rfl⟩ := start
  exact (under u start).setTemp temp private_

/-- One of the operations on a file that is there. -/
theorem alter_crash {op : Op} {g : File} {change : File → File} (unit : Ans op = Unit)
    (under : ∀ w, P w → Under env s w) (private_ : f.Private) (still : g.Private) (files : op.ofVault = false)
    (answers : ∀ w answer, (w.files.lookup path).isSome = true → Answers op w answer)
    (effects : ∀ w answer, effect op answer w = w.alterFile path change) (changed : change f = g) :
    Crash Serves (Under env s) (Besides P path f) (ask op) (fun _ => Besides P path g) (Failed env s) := by
  refine ask_crash (fun w start => start.under under private_) (fun w start => ?_) fun w answer start _ => ?_
  · obtain ⟨u, start, temp, -, rfl⟩ := start
    exact ⟨unit ▸ (), answers _ _ (by rw [lookup_setFile_self]; rfl)⟩
  · obtain ⟨u, start, temp, new, rfl⟩ := start
    rw [after_eq fun vault => (by rw [files] at vault; cases vault), effects, alterFile_setFile, changed]
    have post : Besides P path g (u.setFile path g) := ⟨u, start, temp, new, rfl⟩
    exact ⟨post.under under still, post⟩

/-- A file is replaced as a whole, and nobody else could read it while it was written. -/
theorem writePrivate_crash (under : ∀ w, P w → Under env s w) (inside : dir = "approle/" ∨ dir = "")
    (private_ : mode = 0o400 ∨ mode = 0o600)
    (put : ∀ u, P u → Under env s (u.setFile (dir ++ name) ⟨data, mode, uid⟩) ∧
      Q (u.setFile (dir ++ name) ⟨data, mode, uid⟩)) :
    Crash Serves (Under env s) P (writePrivate dir name data mode uid) (fun _ => Q) (Failed env s) := by
  have temp (rest : String) : Temp (dir ++ ".tmp-" ++ rest) := by
    rcases inside with rfl | rfl
    · exact Or.inl (by simp [String.toList_append])
    · exact Or.inr (by simp [String.toList_append])
  have closed : File.Private ⟨data, mode, uid⟩ := private_
  refine Crash.bind (E := fun tmp => Besides P tmp ⟨"", 0o600, none⟩) ?_ fun tmp => ?_
  · refine ask_crash under (fun w start => ?_) fun w answer start answers => ?_
    · obtain ⟨rest, new⟩ := fresh (dir ++ ".tmp-") w.files.keys
      exact ⟨_, AList.lookup_eq_none.mpr new, rest, rfl⟩
    · rw [after_eq fun vault => (by cases vault)]
      obtain ⟨new, rest, rfl⟩ := answers
      exact ⟨(under w start).setTemp (temp rest) (Or.inr rfl), w, start, temp rest, new, rfl⟩
  refine Crash.bind (E := fun _ => Besides P tmp ⟨data, 0o600, none⟩) ?_ fun _ => ?_
  · exact alter_crash rfl under (Or.inr rfl) (Or.inr rfl) rfl (fun w answer there => there) (fun w answer => rfl) rfl
  refine Crash.bind (E := fun _ => Besides P tmp ⟨data, mode, none⟩) ?_ fun _ => ?_
  · exact alter_crash rfl under (Or.inr rfl) private_ rfl (fun w answer there => there) (fun w answer => rfl) rfl
  refine Crash.bind (E := fun _ => Besides P tmp ⟨data, mode, uid⟩) ?_ fun _ => ?_
  · cases uid with
    | none => exact Crash.ret fun w start => ⟨start.under under closed, start⟩
    | some uid =>
      exact alter_crash rfl under private_ private_ rfl (fun w answer there => there) (fun w answer => rfl) rfl
  · refine ask_crash (fun w start => start.under under closed) (fun w start => ?_) fun w answer start _ => ?_
    · obtain ⟨u, start, temp, new, rfl⟩ := start
      exact ⟨(), by rw [Answers, lookup_setFile_self]; rfl⟩
    · obtain ⟨u, start, temp, new, rfl⟩ := start
      rw [after_eq fun vault => (by cases vault), effect, moveFile_setFile new]
      exact put u start

theorem quiet_crash {op : Op} (audited : ∀ w, P w → w.Audited) (under : ∀ w, P w → Under env s w)
    (answerable : ∀ w, P w → ∃ answer, Answers op w answer) (same : ∀ w answer, effect op answer w = w) :
    Crash Serves (Under env s) P (ask op) (fun answer w => Answers op w answer ∧ P w) (Failed env s) := by
  refine ask_crash under answerable fun w answer start answers => ?_
  rw [after_eq fun _ => audited w start, same]
  exact ⟨under w start, answers, start⟩

theorem readStripped_crash (audited : ∀ w, P w → w.Audited) (under : ∀ w, P w → Under env s w)
    (there : ∀ w, P w → ∃ f, w.files.lookup path = some f) :
    Crash Serves (Under env s) P (readStripped path)
      (fun text w => (∃ f, w.files.lookup path = some f ∧ text = strip f.data) ∧ P w) (Failed env s) := by
  refine Crash.bind (quiet_crash audited under (fun w start => ?_) fun _ _ => rfl) fun text => ?_
  · obtain ⟨f, there⟩ := there w start
    exact ⟨f.data, congrArg (Option.map File.data) there⟩
  · refine Crash.ret fun w start => ⟨under w start.2, ?_, start.2⟩
    obtain ⟨f, there, same⟩ := Option.map_eq_some_iff.mp start.1
    exact ⟨f, there, congrArg strip same.symm⟩

/-- A log-in that passes is good; one that Vault turns down tells nothing. -/
theorem approleLoginOk_crash {roleId secretId : String} (audited : ∀ w, P w → w.Audited)
    (under : ∀ w, P w → Under env s w) (calm : ∀ w, P w → P w.troubles) :
    Crash Serves (Under env s) P (approleLoginOk roleId secretId)
      (fun valid w => (valid = true → w.LogsIn roleId secretId) ∧ P w) (Failed env s) := by
  have login : Crash Serves (Under env s) P (ask (.approleLogin roleId secretId))
      (fun _ w => w.LogsIn roleId secretId ∧ P w)
      fun exn w => (exn.cls.isVaultError = true ∨ w.troubled = true) ∧ P w := by
    refine ask_served under (fun w answer start answers => ?_) (fun w exn start none_ refusal => ?_)
      (fun w exn start => ?_) fun w answer exn start answers => ?_
    · rw [after_eq fun _ => audited w start]
      exact ⟨under w start, answers, start⟩
    · exact ⟨Or.inl refusal, start⟩
    · exact ⟨Or.inr rfl, calm w start⟩
    · rw [after_eq fun _ => audited w start]
      exact ⟨Or.inr rfl, calm w start⟩
  refine Crash.onError (E := fun valid w => (valid = true → w.LogsIn roleId secretId) ∧ P w)
    (Crash.bind login fun _ => ?_) (fun valid w post => under w post.2) fun exn => ?_
  · exact Crash.ret fun w start => ⟨under w start.2, fun _ => start.1, start.2⟩
  · split
    · exact Crash.ret fun w start => ⟨under w start.2, fun valid => (by cases valid), start.2⟩
    · rename_i other
      refine Crash.raise fun w start => ⟨under w start.2, under w start.2, ?_⟩
      exact Or.inl (start.1.resolve_left other)

theorem Reached.troubles (reached : Reached env s slots w) : Reached env s slots w.troubles :=
  ⟨reached.under.troubles, reached.audited, reached.leases, reached.done⟩

theorem Reached.setFile (reached : Reached env s slots w) (plain : ¬Temp path) (own : OwnFile env w path f) :
    Reached env s slots (w.setFile path f) :=
  ⟨reached.under.setFile plain own, reached.audited, reached.leases, reached.done⟩

theorem secretIdValid_crash {roleId : String} : Crash Serves (Under env s) (Reached env s slots) (secretIdValid roleId)
    (fun valid w => (valid = true → SecretId w) ∧ Reached env s slots w) (Failed env s) := by
  have audited (w : State) (start : Reached env s slots w) : w.Audited := start.audited
  have under (w : State) (start : Reached env s slots w) : Under env s w := start.under
  refine Crash.bind (quiet_crash audited under (fun w start => ⟨_, rfl⟩) fun _ _ => rfl) fun there => ?_
  cases there with
  | false => exact Crash.ret fun w start => ⟨start.2.under, fun valid => (by cases valid), start.2⟩
  | true =>
    have found (w : State) (answers : Answers (.fileExists "approle/secret_id") w true) :
        ∃ f, w.files.lookup "approle/secret_id" = some f :=
      Option.isSome_iff_exists.mp answers.symm
    refine Crash.bind (E := fun secretId w =>
      (∃ f, w.files.lookup "approle/secret_id" = some f ∧ secretId = strip f.data) ∧ Reached env s slots w) ?_
      fun secretId => ?_
    · refine (readStripped_crash (fun w start => audited w start.2) (fun w start => under w start.2)
        fun w start => found w start.1).mono (fun w start => start) (fun text w post => ⟨post.1, post.2.2⟩)
        fun _ _ post => post
    · refine (approleLoginOk_crash (fun w start => audited w start.2) (fun w start => under w start.2)
        fun w start => ⟨start.1, start.2.troubles⟩).mono (fun w start => start) (fun valid w post => ⟨fun valid => ?_, post.2.2⟩)
        fun _ _ post => post
      obtain ⟨f, there, rfl⟩ := post.2.1
      exact ⟨f, there, (post.1 valid).2.2⟩

theorem deliverSecretId_crash {roleId : String} (there : .approle APPROLE_NAME ∈ slots) :
    Crash Serves (Under env s) (Reached env s slots) (deliverSecretId env roleId)
      (fun _ w => SecretId w ∧ Reached env s slots w) (Failed env s) := by
  refine Crash.bind secretIdValid_crash fun valid => ?_
  cases valid with
  | true => exact Crash.ret fun w start => ⟨start.2.under, start.1 rfl, start.2⟩
  | false =>
    refine Crash.bind (E := fun secretId w => (strip secretId = secretId ∧ secretId ∈ w.secretIds) ∧
      Reached env s slots w) ?_ fun secretId => ?_
    · refine ask_crash (fun w start => start.2.under) (fun w start => ⟨"", ?_, by decide⟩) fun w answer start answers => ?_
      · rw [(start.2.done _ there).value rfl]
        rfl
      · rw [after_eq fun _ => start.2.audited]
        have under : Under env s { w with secretIds := answer :: w.secretIds } := start.2.under.secretId
        exact ⟨under, ⟨answers.2, List.mem_cons_self⟩, under, start.2.audited, start.2.leases, start.2.done⟩
    · refine writePrivate_crash (fun w start => start.2.under) (Or.inl rfl) (Or.inl rfl) fun u start => ?_
      obtain ⟨⟨tidy, member⟩, reached⟩ := start
      have put : Reached env s slots (u.setFile ("approle/" ++ "secret_id") ⟨secretId, 0o400, some env.appUid⟩) :=
        reached.setFile (by decide) (Or.inr (Or.inl ⟨rfl, secretId, member, tidy, rfl⟩))
      refine ⟨put.under, ⟨_, lookup_setFile_self, ?_⟩, put⟩
      rw [tidy]
      exact member

theorem deliverApprole_crash (there : .approle APPROLE_NAME ∈ slots) :
    Crash Serves (Under env s) (Reached env s slots) (deliverApprole env)
      (fun _ w => Delivered w ∧ Reached env s slots w) (Failed env s) := by
  have quiet {op : Op} (answerable : ∀ w, ∃ answer, Answers op w answer) (same : ∀ w answer, effect op answer w = w) :
      Crash Serves (Under env s) (Reached env s slots) (ask op) (fun _ => Reached env s slots) (Failed env s) :=
    (quiet_crash (fun w start => start.audited) (fun w start => start.under) (fun w _ => answerable w) same).mono
      (fun _ start => start) (fun _ _ post => post.2) fun _ _ post => post
  refine Crash.bind (quiet (fun _ => ⟨(), trivial⟩) fun _ _ => rfl) fun _ => ?_
  refine Crash.bind (quiet (fun _ => ⟨(), trivial⟩) fun _ _ => rfl) fun _ => ?_
  refine Crash.bind (quiet (fun _ => ⟨(), trivial⟩) fun _ _ => rfl) fun _ => ?_
  refine Crash.bind (E := fun roleId w => roleId = s.roleId ∧ Reached env s slots w) ?_ fun roleId => ?_
  · refine ask_crash (fun w start => start.under) (fun w start => ⟨_, ?_, rfl⟩) fun w answer start answers => ?_
    · rw [(start.done _ there).value rfl]
      rfl
    · rw [after_eq fun _ => start.audited]
      exact ⟨start.under, answers.2.trans start.under.roleId, start⟩
  refine Crash.of_fact ?_
  rintro rfl
  refine Crash.bind (deliverSecretId_crash there) fun _ => ?_
  refine writePrivate_crash (fun w start => start.2.under) (Or.inl rfl) (Or.inl rfl) fun u start => ?_
  obtain ⟨⟨f, secret, member⟩, reached⟩ := start
  have put : Reached env s slots (u.setFile ("approle/" ++ "role_id") ⟨s.roleId, 0o400, some env.appUid⟩) :=
    reached.setFile (by decide) (Or.inl ⟨rfl, by rw [reached.under.roleId]⟩)
  refine ⟨put.under, ⟨⟨_, lookup_setFile_self, s.tidy.trans reached.under.roleId.symm⟩, f, ?_, member⟩, put⟩
  rw [lookup_setFile (by decide)]
  exact secret

end files

theorem readPolicy_service : readPolicy SERVICE_POLICY = some serviceRules := by
  cases read : readPolicy SERVICE_POLICY with
  | some rules => rw [serviceRules, read]; rfl
  | none =>
    have rules := serviceRules_eq
    rw [serviceRules, read] at rules
    cases rules

section service
variable {env : Env} {s w : State} {slots : List Slot} {P : State → Prop}

/-- With the role and the policy set, the service identity may do what the policy says. -/
theorem State.permits_iff {request : VaultRequest}
    (assigned : w.vault.lookup (.approle APPROLE_NAME) = some serviceApprole)
    (written : w.vault.lookup (.policy SERVICE_POLICY_NAME) = some SERVICE_POLICY) :
    w.Permits request ↔ Vdba.Permits serviceRules request := by
  constructor
  · rintro ⟨approle, at_, name, member, text, there, rules, read, permits⟩
    obtain rfl : serviceApprole = approle := Option.some.inj (assigned.symm.trans at_)
    obtain rfl : name = SERVICE_POLICY_NAME := List.mem_singleton.mp member
    obtain rfl : SERVICE_POLICY = text := Option.some.inj (written.symm.trans there)
    obtain rfl : serviceRules = rules := Option.some.inj (readPolicy_service.symm.trans read)
    exact permits
  · intro permits
    exact ⟨_, assigned, _, List.mem_singleton_self _, _, written, _, readPolicy_service, permits⟩

theorem Reached.permits_iff {request : VaultRequest} (reached : Reached env s slots w)
    (role : .approle APPROLE_NAME ∈ slots) (policy : .policy SERVICE_POLICY_NAME ∈ slots) :
    w.Permits request ↔ Vdba.Permits serviceRules request :=
  State.permits_iff ((reached.done _ role).value rfl) ((reached.done _ policy).value rfl)

theorem service_rights : Vdba.Permits serviceRules ⟨.read, "kv/data/vdba/introspect/postgres"⟩ ∧
    (¬Vdba.Permits serviceRules ⟨.write, "sys/policies/acl/evil"⟩ ∧
      ¬Vdba.Permits serviceRules ⟨.write, "database/config/evil"⟩) ∧
    Vdba.Permits serviceRules ⟨.read, "database/config/" ++ "postgres"⟩ ∧
    Vdba.Permits serviceRules ⟨.read, "database/config/" ++ "clickhouse"⟩ := by
  rw [serviceRules_eq]
  decide

theorem refusedWrite_crash {bad : String} (under : ∀ w, P w → Under env s w)
    (calm : ∀ w, P w → P w.troubles) (denied : ∀ w, P w → ¬w.Permits ⟨.write, bad⟩) :
    Crash Serves (Under env s) P (refusedWrite bad) (fun _ => P) (Failed env s) := by
  have tried : Crash Serves (Under env s) P (ask (.serviceWrite bad)) (fun _ _ => False)
      fun exn w => (exn.cls = .forbidden ∨ w.troubled = true) ∧ P w := by
    refine ask_served under (fun w answer start answers => absurd answers (denied w start))
      (fun w exn start _ refusal => ⟨Or.inl refusal, start⟩) (fun w exn start => ⟨Or.inr rfl, calm w start⟩)
      fun w answer exn start answers => absurd answers (denied w start)
  refine Crash.bind (E := fun refused w => refused = true ∧ P w) ?_ fun refused => Crash.of_fact ?_
  · refine Crash.onError (E := fun refused w => refused = true ∧ P w) (Crash.bind tried fun _ => ?_)
      (fun refused w post => under w post.2) fun exn => ?_
    · exact fun w start => start.elim
    · split
      · exact Crash.ret fun w start => ⟨under w start.2, rfl, start.2⟩
      · rename_i other
        exact Crash.raise fun w start => ⟨under w start.2, under w start.2, Or.inl (start.1.resolve_left other)⟩
  · rintro rfl
    exact Crash.ret fun w start => ⟨under w start, start⟩

theorem selfCheck_crash (role : .approle APPROLE_NAME ∈ slots) (policy : .policy SERVICE_POLICY_NAME ∈ slots)
    (secret : .secret "vdba/introspect/postgres" ∈ slots) :
    Crash Serves (Under env s) (fun w => Delivered w ∧ Reached env s slots w) selfCheck
      (fun _ w => Delivered w ∧ Reached env s slots w) (Failed env s) := by
  obtain ⟨introspect, ⟨policies, configs⟩, -⟩ := service_rights
  have audited (w : State) (start : Delivered w ∧ Reached env s slots w) : w.Audited := start.2.audited
  have under (w : State) (start : Delivered w ∧ Reached env s slots w) : Under env s w := start.2.under
  have calm (w : State) (start : Delivered w ∧ Reached env s slots w) :
      Delivered w.troubles ∧ Reached env s slots w.troubles := ⟨start.1, start.2.troubles⟩
  have denied {bad : String} (refused : ¬Vdba.Permits serviceRules ⟨.write, bad⟩) (w : State)
      (start : Delivered w ∧ Reached env s slots w) : ¬w.Permits ⟨.write, bad⟩ := by
    rw [start.2.permits_iff role policy]
    exact refused
  refine Crash.bind (E := fun roleId w => roleId = s.roleId ∧ Delivered w ∧ Reached env s slots w) ?_
    fun roleId => Crash.of_fact ?_
  · refine (readStripped_crash audited under fun w start => ?_).mono (fun _ start => start) (fun text w post => ?_)
      fun _ _ post => post
    · exact ⟨_, start.1.1.choose_spec.1⟩
    · obtain ⟨⟨f, there, rfl⟩, delivered, reached⟩ := post
      obtain ⟨f', there', good⟩ := delivered.1
      obtain rfl : f = f' := Option.some.inj (there.symm.trans there')
      exact ⟨good.trans reached.under.roleId, delivered, reached⟩
  rintro rfl
  refine Crash.bind (E := fun secretId w => secretId ∈ w.secretIds ∧ Delivered w ∧ Reached env s slots w) ?_
    fun secretId => ?_
  · refine (readStripped_crash audited under fun w start => ?_).mono (fun _ start => start) (fun text w post => ?_)
      fun _ _ post => post
    · exact ⟨_, start.1.2.choose_spec.1⟩
    · obtain ⟨⟨f, there, rfl⟩, delivered, reached⟩ := post
      obtain ⟨f', there', good⟩ := delivered.2
      obtain rfl : f = f' := Option.some.inj (there.symm.trans there')
      exact ⟨good, delivered, reached⟩
  refine Crash.bind (E := fun _ w => Delivered w ∧ Reached env s slots w) ?_ fun _ => ?_
  · refine (quiet_crash (fun w start => audited w start.2) (fun w start => under w start.2) (fun w start => ?_)
      fun _ _ => rfl).mono (fun _ start => start) (fun _ _ post => post.2.2) fun _ _ post => post
    refine ⟨(), ?_, start.2.2.under.roleId.symm, start.1⟩
    rw [(start.2.2.done _ role).value rfl]
    rfl
  refine Crash.bind (E := fun _ w => Delivered w ∧ Reached env s slots w) ?_ fun _ => ?_
  · refine (quiet_crash audited under (fun w start => ?_) fun _ _ => rfl).mono (fun _ start => start)
      (fun _ _ post => post.2) fun _ _ post => post
    refine ⟨(), ?_, (start.2.permits_iff role policy).mpr introspect⟩
    rw [(start.2.done _ secret).value rfl]
    rfl
  refine Crash.bind (refusedWrite_crash under calm (denied policies)) fun _ => ?_
  refine Crash.bind (refusedWrite_crash under calm (denied configs)) fun _ => ?_
  exact Crash.ret fun w start => ⟨under w start, start⟩

theorem mintTestAdmin_crash (hooks : env.main.testHooks = true) : Crash Serves (Under env s) (fun w => Delivered w ∧ Reached env s slots w)
    (mintTestAdmin env) (fun _ w => Delivered w ∧ Reached env s (.policy "vdba-test-admin" :: slots) w)
    (Failed env s) := by
  refine Crash.bind (E := fun _ w => Delivered w ∧ Reached env s (.policy "vdba-test-admin" :: slots) w) ?_ fun _ => ?_
  · have desired : env.desired (.policy "vdba-test-admin") = some TEST_ADMIN_POLICY := by
      simp [Env.desired, hooks, SERVICE_POLICY_NAME, CREDS_READER_POLICY_NAME, ADMIN_POLICY_NAME]
    exact (write_crash (F := Delivered) desired fun w delivered => delivered).mono
      (fun w start => ⟨start.2, start.1, fun ensured => by cases ensured⟩) (fun _ w post => ⟨post.2, post.1⟩)
      fun _ _ post => post
  refine Crash.bind (E := fun _ w => Delivered w ∧ Reached env s (.policy "vdba-test-admin" :: slots) w) ?_
    fun token => ?_
  · refine (quiet_crash (fun w start => start.2.audited) (fun w start => start.2.under) (fun w start => ?_)
      fun _ _ => rfl).mono (fun _ start => start) (fun _ _ post => post.2) fun _ _ post => post
    exact ⟨"", trivial⟩
  refine writePrivate_crash (fun w start => start.2.under) (Or.inr rfl) (Or.inr rfl) fun u start => ?_
  obtain ⟨⟨⟨f, role, good⟩, f', secret, member⟩, reached⟩ := start
  have put : Reached env s (.policy "vdba-test-admin" :: slots)
      (u.setFile ("" ++ "test-admin-token") ⟨token, 0o600, env.hostUid⟩) :=
    reached.setFile (by decide) (Or.inr (Or.inr ⟨by decide, token, rfl⟩))
  refine ⟨put.under, ⟨⟨f, ?_, good⟩, f', ?_, member⟩, put⟩
  · rw [lookup_setFile (by decide)]
    exact role
  · rw [lookup_setFile (by decide)]
    exact secret

end service

end Vdba.Provisioning
