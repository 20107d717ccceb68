import Vdba.Interaction.Crash
import Vdba.VaultClient

namespace Vdba.Bootstrap
open Interaction (Iface Prog Exchange Happens Crash)

/-- `vault-keys.json`; what it may lack is missing. -/
structure Keys where
  keys : Option (List String) := none
  rootToken : Option String := none
  threshold : Option Nat := none
  rootAccessor : Option String := none
  deriving DecidableEq

/-- The provisioning functions of `main`. They use the root token, and touch neither it nor the two files with it. -/
inductive Step
  | audit
  | engines
  | connections
  | policiesAndRoles
  | approle
  | selfCheck
  | testAdmin
  deriving DecidableEq

inductive Op
  -- the files
  | makeSecrets
  | keysExist
  | readKeys
  | writeKeys (keys : Keys)
  | rootTokenExists
  | readRootToken
  | unlinkRootToken
  | approleExists (name : String)
  | readApprole (name : String)
  -- Vault
  | isInitialized
  | initialize_ (shares threshold : Nat)
  | isSealed
  | submitUnsealKey (key : String)
  | isAuthenticated (token : String)
  | lookupSelf (token : String)
  | revokeSelf (token : String)
  | approleLogin (roleId secretId : String)
  -- the rest of the module
  | provision (step : Step) (token : String)
  | recheckWithoutRoot
  deriving DecidableEq

def Ans : Op → Type
  | .keysExist | .rootTokenExists | .approleExists _ | .isInitialized | .isSealed | .submitUnsealKey _
  | .isAuthenticated _ => Bool
  | .readKeys => Keys
  | .readRootToken | .readApprole _ | .lookupSelf _ => String
  | .initialize_ .. => List String × String
  | _ => Unit

abbrev steps : Iface := ⟨Op, Ans⟩

/-- Code of `setup.py`. -/
abbrev Script := Prog steps Exc

abbrev ask (op : Op) : Script (Ans op) := @Prog.perform steps Exc op

def lift {α : Type} : Except Exc α → Script α := Prog.ofExcept

def systemExit (text : String) : Exc := ⟨.other "SystemExit", text⟩

/-- The arguments and the environment: what `preflight` finds wrong, and what `int` makes of two variables. -/
structure Env where
  keepRoot : Bool
  problems : List String
  shares : Except Exc Nat
  threshold : Except Exc Nat
  testHooks : Bool

/-- The characters that `str.strip` removes. -/
def isSpace (c : Char) : Bool :=
  c.toNat ∈ [9, 10, 11, 12, 13, 28, 29, 30, 31, 32, 0x85, 0xa0, 0x1680, 0x2028, 0x2029, 0x202f, 0x205f, 0x3000] ||
    0x2000 ≤ c.toNat && c.toNat ≤ 0x200a

def strip (text : String) : String :=
  String.ofList (((text.toList.dropWhile isSpace).reverse.dropWhile isSpace).reverse)

def loadKeys : Script Keys := do
  let there : Bool ← ask .keysExist
  if there then ask .readKeys else return {}

/-- What `init_and_unseal` does with a Vault that is new. -/
def initializeVault (env : Env) : Script Keys := do
  let shares ← lift env.shares
  let threshold ← lift env.threshold
  let (keys, rootToken) ← ask (.initialize_ shares threshold)
  let keys : Keys := ⟨some keys, some rootToken, some threshold, none⟩
  ask (.writeKeys keys)
  return keys

def submitUnsealKeys : List String → Script Unit
  | [] => return ()
  | k :: rest => do
    let closed : Bool ← ask (.submitUnsealKey k)
    if closed then submitUnsealKeys rest else return ()

/-- What `init_and_unseal` does with a Vault that is sealed. -/
def unsealVault (keys : Keys) : Script Unit := do
  if keys.keys.getD [] = [] then
    .raise (systemExit "Vault is sealed and /secrets/vault-keys.json has no unseal keys: unseal it manually")
  else
    submitUnsealKeys ((keys.keys.getD []).take (keys.threshold.getD 1))
    let closed : Bool ← ask .isSealed
    if closed then .raise (systemExit "could not unseal Vault with the stored key(s)") else return ()

def initAndUnseal (env : Env) : Script Keys := do
  let found ← loadKeys
  let old : Bool ← ask .isInitialized
  let keys ← if old then pure found else initializeVault env
  let closed : Bool ← ask .isSealed
  if closed then
    unsealVault keys
    return keys
  else return keys

/-- `c.is_authenticated()`, of which Vault's errors are passed over. -/
def authenticated (token : String) : Script Bool :=
  (ask (.isAuthenticated token)).onError fun exn => if exn.cls.isVaultError then .ret false else .raise exn

def firstAuthenticated : List (Option String) → Script (Option String)
  | [] => return none
  | source :: rest =>
    match truthy source with
    | none => firstAuthenticated rest
    | some token => do
      let usable ← authenticated token
      if usable then return some token else firstAuthenticated rest

/-- The second source of `root_client`. -/
def rootTokenText : Script (Option String) := do
  let there : Bool ← ask .rootTokenExists
  if there then
    let text : String ← ask .readRootToken
    return some (strip text)
  else return none

/-- `root_client`; a client is known by its token. -/
def rootClient (keys : Keys) : Script (Option String) := do
  let text ← rootTokenText
  firstAuthenticated [keys.rootToken, text]

def approleLoginOk (roleId secretId : String) : Script Bool :=
  (do ask (.approleLogin roleId secretId); return true : Script Bool).onError fun exn =>
    if exn.cls.isVaultError then .ret false else .raise exn

/-- The files of the AppRole are there and log in. -/
def alreadyProvisioned : Script Bool := do
  let role : Bool ← ask (.approleExists "role_id")
  if role then
    let secret : Bool ← ask (.approleExists "secret_id")
    if secret then
      let roleId : String ← ask (.readApprole "role_id")
      let secretId : String ← ask (.readApprole "secret_id")
      approleLoginOk (strip roleId) (strip secretId)
    else return false
  else return false

def revokeRoot (token : String) (keep : Bool) : Script Unit := do
  if keep then return ()
  else
    let keys ← loadKeys
    let accessor : String ← ask (.lookupSelf token)
    let keys := { keys with rootAccessor := some accessor }
    ask (.writeKeys keys)
    ask (.revokeSelf token)
    ask (.writeKeys { keys with rootToken := none })
    ask .unlinkRootToken

/-- The functions `main` calls with the root client before it revokes the token. -/
def provisioning (env : Env) : List Step :=
  [.audit, .engines, .connections, .policiesAndRoles, .approle, .selfCheck] ++ if env.testHooks then [.testAdmin] else []

def main (env : Env) : Script Unit := do
  if env.problems ≠ [] then .raise (systemExit "refusing to run setup")
  else
    ask .makeSecrets
    let keys ← initAndUnseal env
    let root ← rootClient keys
    match root with
    | none =>
      let provisioned ← alreadyProvisioned
      if provisioned then ask .recheckWithoutRoot
      else .raise (systemExit "no usable root token and the AppRole files are missing or invalid")
    | some token =>
      Prog.forEach (provisioning env) fun step => ask (.provision step token)
      revokeRoot token env.keepRoot

/-- Vault and the two files, and whether this run has written the keys. A Vault that is not initialized has no tokens. -/
structure State where
  initialized : Bool
  live : List String
  keysFile : Option Keys
  rootTokenFile : Option String
  keysWritten : Bool
  empty : initialized = false → live = []
  named : "" ∉ live

namespace State

/-- A new Vault has one root token. -/
def created (s : State) (token : String) (given : token ≠ "") : State where
  initialized := true
  live := [token]
  keysFile := s.keysFile
  rootTokenFile := s.rootTokenFile
  keysWritten := s.keysWritten
  empty := nofun
  named := by simpa using given.symm

def withKeys (s : State) (keys : Keys) : State := { s with keysFile := some keys, keysWritten := true }

def revoked (s : State) (token : String) : State where
  initialized := s.initialized
  live := s.live.filter (· ≠ token)
  keysFile := s.keysFile
  rootTokenFile := s.rootTokenFile
  keysWritten := s.keysWritten
  empty old := by rw [s.empty old]; rfl
  named member := s.named (List.mem_of_mem_filter member)

def unlinked (s : State) : State := { s with rootTokenFile := none }

/-- The root tokens that can be read in the two files. -/
def held (s : State) : List String := [s.keysFile.bind (·.rootToken), s.rootTokenFile.map strip].filterMap truthy

end State

/-- The operations whose answers do not matter here, and that leave Vault's root tokens and the two files alone. -/
def Op.other : Op → Bool
  | .makeSecrets | .approleExists _ | .readApprole _ | .isSealed | .submitUnsealKey _ | .approleLogin ..
  | .provision .. | .recheckWithoutRoot => true
  | _ => false

/-- What an operation answers and does; everything may fail, and Vault may have done what it was asked even so. -/
inductive Serves : (op : Op) → State → Except Exc (Ans op) → State → Prop
  | keysExist {s} : Serves .keysExist s (.ok s.keysFile.isSome) s
  | readKeys {s keys} : s.keysFile = some keys → Serves .readKeys s (.ok keys) s
  | writeKeys {s keys} : Serves (.writeKeys keys) s (.ok ()) (s.withKeys keys)
  | rootTokenExists {s} : Serves .rootTokenExists s (.ok s.rootTokenFile.isSome) s
  | readRootToken {s text} : s.rootTokenFile = some text → Serves .readRootToken s (.ok text) s
  | unlinkRootToken {s} : Serves .unlinkRootToken s (.ok ()) s.unlinked
  | isInitialized {s} : Serves .isInitialized s (.ok s.initialized) s
  | initialize_ {s shares threshold keys token given} : s.initialized = false →
      Serves (.initialize_ shares threshold) s (.ok (keys, token)) (s.created token given)
  | initializeLost {s shares threshold token given exn} : s.initialized = false →
      Serves (.initialize_ shares threshold) s (.error exn) (s.created token given)
  | isAuthenticated {s token usable} : (usable = true → token ∈ s.live) →
      Serves (.isAuthenticated token) s (.ok usable) s
  | lookupSelf {s token accessor} : token ∈ s.live → Serves (.lookupSelf token) s (.ok accessor) s
  | revokeSelf {s token} : token ∈ s.live → Serves (.revokeSelf token) s (.ok ()) (s.revoked token)
  | revokeLost {s token exn} : Serves (.revokeSelf token) s (.error exn) (s.revoked token)
  | other {op s answer} : op.other = true → Serves op s (.ok answer) s
  | fails {op s exn} : Serves op s (.error exn) s

/-- A live token is recognised when Vault is asked about it. -/
def Recognises : (op : Op) → State → Except Exc (Ans op) → Prop
  | .isAuthenticated token, s, answer => token ∈ s.live → answer = .ok true
  | _, _, _ => True

def Recognised (op : Op) (s : State) (answer : Except Exc (Ans op)) (s' : State) : Prop :=
  Serves op s answer s' ∧ Recognises op s answer

/-- The files do not hold two live tokens. -/
def State.Single (s : State) : Prop := ∀ t ∈ s.held, ∀ t' ∈ s.held, t ∈ s.live → t' ∈ s.live → t = t'

/-- The tokens a run that started in `s` answers for: those in the files, and the one it created. -/
def State.Answers (s : State) (token : String) : Prop := token ∈ s.held ∨ token ∉ s.live

/-- What is to hold where a run from `s` has stopped in `w`, with what it was still to do. -/
structure Clears (s : State) (q : Script Unit) (w : State) : Prop where
  revoked : q = .ret () → ∀ token, s.Answers token → token ∉ w.live
  findable : s.initialized = true ∨ w.keysWritten = true → ∀ token ∈ w.live, s.Answers token → token ∈ w.held

section steps
variable {s w v : State} {op : Op} {token : String}

/-- The operations that change nothing. -/
def Op.quiet : Op → Bool
  | .writeKeys _ | .unlinkRootToken | .initialize_ .. | .revokeSelf _ => false
  | _ => true

theorem Serves.quiet {answer : Except Exc (Ans op)} (served : Serves op w answer v) (quiet : op.quiet = true) :
    v = w := by
  cases served with
  | writeKeys | unlinkRootToken | initialize_ | initializeLost | revokeSelf | revokeLost => cases quiet
  | keysExist | readKeys | rootTokenExists | readRootToken | isInitialized | isAuthenticated | lookupSelf | other | fails => rfl

@[simp] theorem held_withKeys (w : State) (keys : Keys) :
    (w.withKeys keys).held = [keys.rootToken, w.rootTokenFile.map strip].filterMap truthy := rfl

/-- The tokens a run answers for are in the files. -/
def Safe (s w : State) : Prop := ∀ token ∈ w.live, s.Answers token → token ∈ w.held

/-- The tokens a run answers for are dead. -/
def Dead (s w : State) : Prop := ∀ token, s.Answers token → token ∉ w.live

/-- What is to hold at every point of a run. -/
def Point (s w : State) : Prop := s.initialized = true ∨ w.keysWritten = true → Safe s w

theorem Dead.safe (dead : Dead s w) : Safe s w := fun token alive answers => absurd alive (dead token answers)

theorem Safe.point (safe : Safe s w) : Point s w := fun _ => safe

theorem safe_self (s : State) : Safe s s := fun _ alive answers => answers.resolve_right fun dead => dead alive

end steps

section reads
variable {I P : State → Prop} {keys : Keys} {token : String}

abbrev Quiet {α : Type} (p : Script α) : Prop := p.All fun op : Op => op.quiet = true

theorem quiet_ask {op : Op} (quiet : op.quiet = true) : Quiet (ask op) := Prog.All.perform quiet

theorem quiet_crash {α : Type} {p : Script α} (all : Quiet p) (inside : ∀ w, P w → I w) :
    Crash Recognised I P p (fun _ => P) (fun _ => P) :=
  Crash.of_all all (fun _ _ _ _ quiet served => served.1.quiet quiet) inside

theorem quiet_kept {α : Type} {p : Script α} (all : Quiet p) (inside : ∀ w, P w → I w) :
    Crash Recognised I P p (fun _ => P) (fun _ _ => True) :=
  (quiet_crash all inside).mono (fun _ start => start) (fun _ _ start => start) fun _ _ _ => trivial

theorem keysExist_crash (inside : ∀ w, P w → I w) : Crash Recognised I P (ask .keysExist)
    (fun there w => P w ∧ there = w.keysFile.isSome) fun _ => P := by
  refine Crash.perform inside (fun w answer v start served => ?_) fun w exn v start served => ?_
  · cases served.1 with
    | keysExist => exact ⟨inside _ start, start, rfl⟩
    | other none_ => cases none_
  · cases served.1
    exact ⟨inside _ start, start⟩

/-- Whatever is read leaves the state as it is, and is what the state has. -/
theorem loadKeys_crash (inside : ∀ w, P w → I w) :
    Crash Recognised I P loadKeys (fun keys w => P w ∧ keys = w.keysFile.getD {}) fun _ => P := by
  refine Crash.bind (keysExist_crash inside) fun there => ?_
  cases there with
  | false =>
    refine Crash.ret fun w ⟨start, missing⟩ => ⟨inside w start, start, ?_⟩
    rw [Option.isSome_eq_false_iff.mp missing.symm |> Option.isNone_iff_eq_none.mp]
    rfl
  | true =>
    refine Crash.perform (fun w start => inside w start.1) (fun w answer v start served => ?_) fun w exn v start served => ?_
    · cases served.1 with
      | readKeys found => exact ⟨inside _ start.1, start.1, by rw [found]; rfl⟩
      | other none_ => cases none_
    · cases served.1
      exact ⟨inside _ start.1, start.1⟩

theorem rootTokenText_crash (inside : ∀ w, P w → I w) :
    Crash Recognised I P rootTokenText (fun text w => P w ∧ text = w.rootTokenFile.map strip) fun _ => P := by
  have exists_ : Crash Recognised I P (ask .rootTokenExists) (fun there w => P w ∧ there = w.rootTokenFile.isSome)
      fun _ => P := by
    refine Crash.perform inside (fun w answer v start served => ?_) fun w exn v start served => ?_
    · cases served.1 with
      | rootTokenExists => exact ⟨inside _ start, start, rfl⟩
      | other none_ => cases none_
    · cases served.1
      exact ⟨inside _ start, start⟩
  refine Crash.bind exists_ fun there => ?_
  cases there with
  | false =>
    refine Crash.ret fun w ⟨start, missing⟩ => ⟨inside w start, start, ?_⟩
    rw [Option.isSome_eq_false_iff.mp missing.symm |> Option.isNone_iff_eq_none.mp]
    rfl
  | true =>
    have read : Crash Recognised I (fun w => P w ∧ true = w.rootTokenFile.isSome) (ask .readRootToken)
        (fun text w => P w ∧ w.rootTokenFile = some text) fun _ => P := by
      refine Crash.perform (fun w start => inside w start.1) (fun w answer v start served => ?_)
        fun w exn v start served => ?_
      · cases served.1 with
        | readRootToken found => exact ⟨inside _ start.1, start.1, found⟩
        | other none_ => cases none_
      · cases served.1
        exact ⟨inside _ start.1, start.1⟩
    exact Crash.bind read fun text => Crash.ret fun w ⟨start, found⟩ => ⟨inside w start, start, by rw [found]; rfl⟩

/-- A token passes if and only if it is live. -/
theorem authenticated_crash (inside : ∀ w, P w → I w) : Crash Recognised I P (authenticated token)
    (fun usable w => P w ∧ (usable = true ↔ token ∈ w.live)) fun _ => P := by
  have asked : Crash Recognised I P (ask (.isAuthenticated token))
      (fun usable w => P w ∧ (usable = true ↔ token ∈ w.live)) fun _ w => P w ∧ token ∉ w.live := by
    refine Crash.perform inside (fun w answer v start served => ?_) fun w exn v start served => ?_
    · obtain ⟨served, recognised⟩ := served
      cases served with
      | isAuthenticated live => exact ⟨inside _ start, start, live, fun alive => Except.ok.inj (recognised alive)⟩
      | other none_ => cases none_
    · obtain ⟨served, recognised⟩ := served
      cases served
      exact ⟨inside _ start, start, fun alive => by cases recognised alive⟩
  refine Crash.onError asked (fun _ w post => inside w post.1) fun exn => ?_
  split
  · exact Crash.ret fun w ⟨start, dead⟩ => ⟨inside w start, start, by simpa using dead⟩
  · exact Crash.raise fun w ⟨start, _⟩ => ⟨inside w start, start⟩

/-- The first token that is live, if there is one. -/
theorem firstAuthenticated_crash (inside : ∀ w, P w → I w) (sources : List (Option String)) :
    Crash Recognised I P (firstAuthenticated sources) (fun found w => P w ∧ match found with
      | some token => token ∈ sources.filterMap truthy ∧ token ∈ w.live
      | none => ∀ token ∈ sources.filterMap truthy, token ∉ w.live) fun _ => P := by
  induction sources generalizing P with
  | nil => exact Crash.ret fun w start => ⟨inside w start, start, by simp⟩
  | cons source rest ih =>
    unfold firstAuthenticated
    cases given : truthy source with
    | none =>
      simp only [List.filterMap_cons, given]
      exact ih inside
    | some token =>
      simp only [List.filterMap_cons, given]
      refine Crash.bind (authenticated_crash inside) fun usable => ?_
      cases usable with
      | true => exact Crash.ret fun w ⟨start, alive⟩ => ⟨inside w start, start, by simp, alive.mp rfl⟩
      | false =>
        have dead (w : State) (post : P w ∧ (false = true ↔ token ∈ w.live)) : token ∉ w.live := by simpa using post.2
        refine (ih (P := fun w => P w ∧ (false = true ↔ token ∈ w.live)) fun w post => inside w post.1).mono
          (fun _ post => post) (fun found w ⟨post, which⟩ => ⟨post.1, ?_⟩) fun _ w post => post.1
        cases found with
        | some other => exact ⟨List.mem_cons_of_mem _ which.1, which.2⟩
        | none => exact List.forall_mem_cons.mpr ⟨dead w post, which⟩

/-- The root client has a live token of the files; without one all of their tokens are dead. -/
theorem rootClient_crash (inside : ∀ w, P w → I w)
    (loaded : ∀ w, P w → keys.rootToken = w.keysFile.bind (·.rootToken)) :
    Crash Recognised I P (rootClient keys) (fun found w => P w ∧ match found with
      | some token => token ∈ w.held ∧ token ∈ w.live
      | none => ∀ token ∈ w.held, token ∉ w.live) fun _ => P := by
  refine Crash.bind (rootTokenText_crash inside) fun text => ?_
  refine (firstAuthenticated_crash (fun w post => inside w post.1) _).mono (fun _ post => post) ?_ fun _ w post => post.1
  rintro found w ⟨⟨start, rfl⟩, which⟩
  rw [loaded w start] at which
  exact ⟨start, which⟩

end reads

section phases
variable {s : State} {env : Env}

theorem alreadyProvisioned_quiet : Quiet alreadyProvisioned := by
  refine (quiet_ask rfl).bind fun role => ?_
  cases role with
  | false => trivial
  | true =>
    refine (quiet_ask rfl).bind fun secret => ?_
    cases secret with
    | false => trivial
    | true =>
      refine (quiet_ask rfl).bind fun roleId => (quiet_ask rfl).bind fun secretId => ?_
      have login : Quiet (do ask (.approleLogin (strip roleId) (strip secretId)); return true : Script Bool) :=
        (quiet_ask rfl).bind fun _ => trivial
      exact login.onError fun exn => Prog.All.cond trivial trivial

theorem submitUnsealKeys_quiet (keys : List String) : Quiet (submitUnsealKeys keys) := by
  induction keys with
  | nil => trivial
  | cons k rest ih =>
    refine (quiet_ask rfl).bind fun closed => ?_
    cases closed with
    | false => trivial
    | true => exact ih

theorem unsealVault_quiet (keys : Keys) : Quiet (unsealVault keys) := by
  refine Prog.All.cond trivial ((submitUnsealKeys_quiet _).bind fun _ => (quiet_ask rfl).bind fun closed => ?_)
  cases closed <;> trivial

theorem provisioning_quiet (env : Env) (token : String) :
    Quiet (Prog.forEach (provisioning env) fun step => ask (.provision step token)) :=
  Prog.All.forEach fun _ _ => quiet_ask rfl

/-- The state once the keys are known. -/
structure Ready (s : State) (keys : Keys) (w : State) : Prop where
  safe : Safe s w
  single : w.Single
  loaded : keys.rootToken = w.keysFile.bind (·.rootToken)

theorem Ready.point {keys : Keys} {w : State} (ready : Ready s keys w) : Point s w := ready.safe.point

theorem ready_created {w : State} {token : String} {given : token ≠ ""} (keys : Keys) (root : keys.rootToken = some token) :
    Ready s keys ((w.created token given).withKeys keys) := by
  have held : token ∈ ((w.created token given).withKeys keys).held := by
    rw [held_withKeys, root]
    simp [truthy, given]
  have live {t : String} (alive : t ∈ ((w.created token given).withKeys keys).live) : t = token :=
    List.mem_singleton.mp alive
  refine ⟨fun t alive _ => ?_, fun t _ t' _ alive alive' => ?_, rfl⟩
  · rw [live alive]
    exact held
  · rw [live alive, live alive']

theorem initializeVault_crash (env : Env) (start : s.keysWritten = false) :
    Crash Recognised (Point s) (fun w => w = s ∧ s.initialized = false) (initializeVault env) (Ready s) fun _ _ => True := by
  have before (w : State) (at_s : w = s ∧ s.initialized = false) : Point s w := by
    rw [at_s.1]
    exact (safe_self s).point
  have early {w : State} {token : String} {given : token ≠ ""} (at_s : w = s ∧ s.initialized = false) :
      Point s (w.created token given) := by
    rintro (old | written)
    · rw [at_s.2] at old
      cases old
    · have same : (w.created token given).keysWritten = s.keysWritten := by rw [at_s.1]; rfl
      rw [same, start] at written
      cases written
  have lifted (result : Except Exc Nat) : Crash Recognised (Point s) (fun w => w = s ∧ s.initialized = false) (lift result)
      (fun _ w => w = s ∧ s.initialized = false) fun _ _ => True := by
    cases result with
    | ok n => exact Crash.ret fun w at_s => ⟨before w at_s, at_s⟩
    | error exn => exact Crash.raise fun w at_s => ⟨before w at_s, trivial⟩
  have made (shares threshold : Nat) : Crash Recognised (Point s) (fun w => w = s ∧ s.initialized = false)
      (ask (.initialize_ shares threshold)) (fun (answer : List String × String) w => Point s w ∧
        ∃ v given, w = State.created v answer.2 given) fun _ _ => True := by
    refine Crash.perform before (fun w answer v at_s served => ?_) fun w exn v at_s served => ?_
    · cases served.1 with
      | initialize_ fresh => exact ⟨early at_s, early at_s, _, _, rfl⟩
      | other none_ => cases none_
    · cases served.1 with
      | initializeLost fresh => exact ⟨early at_s, trivial⟩
      | fails => exact ⟨before w at_s, trivial⟩
  refine Crash.bind (lifted _) fun shares => Crash.bind (lifted _) fun threshold =>
    Crash.bind (made shares threshold) fun ⟨unsealKeys, token⟩ => ?_
  have write : Crash Recognised (Point s) (fun w => Point s w ∧ ∃ v given, w = State.created v token given)
      (ask (.writeKeys ⟨some unsealKeys, some token, some threshold, none⟩))
      (fun _ w => Ready s ⟨some unsealKeys, some token, some threshold, none⟩ w) fun _ _ => True := by
    refine Crash.perform (fun w post => post.1) (fun w answer v post served => ?_) fun w exn v post served => ?_
    · obtain ⟨-, u, given, rfl⟩ := post
      cases served.1 with
      | writeKeys => exact ⟨(ready_created _ rfl).point, ready_created _ rfl⟩
      | other none_ => cases none_
    · cases served.1
      exact ⟨post.1, trivial⟩
  exact Crash.bind write fun _ => Crash.ret fun w ready => ⟨ready.point, ready⟩

theorem initAndUnseal_crash (env : Env) (single : s.Single) (start : s.keysWritten = false) :
    Crash Recognised (Point s) (fun w => w = s) (initAndUnseal env) (Ready s) fun _ _ => True := by
  have before (w : State) (at_s : w = s) : Point s w := by
    rw [at_s]
    exact (safe_self s).point
  have loaded : Crash Recognised (Point s) (fun w => w = s) loadKeys (fun keys w => w = s ∧ keys = w.keysFile.getD {})
      fun _ _ => True :=
    (loadKeys_crash before).mono (fun _ at_s => at_s) (fun _ _ post => post) fun _ _ _ => trivial
  have tested (found : Keys) : Crash Recognised (Point s) (fun w => w = s ∧ found = w.keysFile.getD {}) (ask .isInitialized)
      (fun old w => (w = s ∧ found = w.keysFile.getD {}) ∧ old = s.initialized) fun _ _ => True := by
    refine Crash.perform (fun w post => before w post.1) (fun w answer v post served => ?_) fun w exn v post served => ?_
    · cases served.1 with
      | isInitialized => exact ⟨before _ post.1, post, by rw [post.1]⟩
      | other none_ => cases none_
    · cases served.1
      exact ⟨before _ post.1, trivial⟩
  have obtained : Crash Recognised (Point s) (fun w => w = s) (do
      let found ← loadKeys
      let old : Bool ← ask .isInitialized
      if old then pure found else initializeVault env) (Ready s) fun _ _ => True := by
    refine Crash.bind loaded fun found => Crash.bind (tested found) fun old => ?_
    cases old with
    | true =>
      refine Crash.ret fun w ⟨⟨at_s, keys⟩, _⟩ => ⟨before w at_s, ?_⟩
      subst at_s
      refine ⟨safe_self w, single, ?_⟩
      rw [keys]
      cases w.keysFile <;> rfl
    | false =>
      exact (initializeVault_crash env start).mono (fun w ⟨⟨at_s, _⟩, new⟩ => ⟨at_s, new.symm⟩) (fun _ _ ready => ready)
        fun _ _ _ => trivial
  have same : initAndUnseal env = (do
      let found ← loadKeys
      let old : Bool ← ask .isInitialized
      if old then pure found else initializeVault env : Script Keys).bind fun keys => (ask .isSealed).bind fun (closed : Bool) =>
        if closed = true then (unsealVault keys).bind fun _ => .ret keys else .ret keys := by
    rw [Prog.bind_eq, Prog.bind_assoc]
    refine congrArg loadKeys.bind (funext fun found => ?_)
    refine Eq.trans (congrArg (ask .isInitialized).bind (funext fun old => ?_)) (Prog.bind_assoc _ _ _).symm
    cases old <;> rfl
  rw [same]
  refine Crash.bind obtained fun keys => ?_
  have inside : ∀ w, Ready s keys w → Point s w := fun w ready => ready.point
  refine Crash.bind (quiet_kept (quiet_ask rfl) inside) fun closed => ?_
  cases closed with
  | false => exact Crash.ret fun w ready => ⟨ready.point, ready⟩
  | true =>
    refine Crash.bind (quiet_kept (unsealVault_quiet keys) inside) fun _ => ?_
    exact Crash.ret fun w ready => ⟨inside w ready, ready⟩

theorem dead_revoked {w : State} {token : String} (safe : Safe s w) (single : w.Single) (held : token ∈ w.held)
    (live : token ∈ w.live) : Dead s (w.revoked token) := by
  intro other answers alive
  obtain ⟨alive, differ⟩ := List.mem_filter.mp alive
  have same : other = token := single other (safe other alive answers) token held alive live
  simp [same] at differ

/-- Once the tokens are dead, nothing that leaves Vault alone changes that. -/
theorem dead_kept {op : Op} (keeps : ∀ w answer v, Serves op w answer v → v.live = w.live) :
    Crash Recognised (Point s) (Dead s) (ask op) (fun _ => Dead s) fun _ _ => True := by
  have kept {w v : State} {answer : Except Exc (Ans op)} (dead : Dead s w) (served : Serves op w answer v) : Dead s v := by
    unfold Dead
    rw [keeps w answer v served]
    exact dead
  refine Crash.perform (fun w dead => dead.safe.point) (fun w answer v dead served => ?_) fun w exn v dead served => ?_
  · exact ⟨(kept dead served.1).safe.point, kept dead served.1⟩
  · exact ⟨(kept dead served.1).safe.point, trivial⟩

theorem writeKeys_live {keys : Keys} {w v : State} {answer : Except Exc Unit}
    (served : Serves (.writeKeys keys) w answer v) :
    v.live = w.live := by
  cases served with
  | writeKeys | other | fails => rfl

theorem unlink_live {w v : State} {answer : Except Exc Unit} (served : Serves .unlinkRootToken w answer v) :
    v.live = w.live := by
  cases served with
  | unlinkRootToken | other | fails => rfl

/-- What `revoke_root` finds. -/
structure Chosen (s : State) (token : String) (w : State) : Prop where
  safe : Safe s w
  single : w.Single
  held : token ∈ w.held
  live : token ∈ w.live

theorem Chosen.point {token : String} {w : State} (chosen : Chosen s token w) : Point s w := chosen.safe.point

theorem Chosen.withKeys {token : String} {w : State} (chosen : Chosen s token w) {keys : Keys}
    (same : keys.rootToken = w.keysFile.bind (·.rootToken)) : Chosen s token (w.withKeys keys) := by
  have held : (w.withKeys keys).held = w.held := by
    rw [held_withKeys, same]
    rfl
  refine ⟨fun t alive answers => ?_, fun t in_ t' in_' => ?_, ?_, chosen.live⟩
  · rw [held]
    exact chosen.safe t alive answers
  · rw [held] at in_ in_'
    exact chosen.single t in_ t' in_'
  · rw [held]
    exact chosen.held

theorem revokeRoot_crash (token : String) : Crash Recognised (Point s) (Chosen s token)
    (revokeRoot token false) (fun _ => Dead s) fun _ _ => True := by
  have loaded : Crash Recognised (Point s) (Chosen s token) loadKeys
      (fun keys w => Chosen s token w ∧ keys = w.keysFile.getD {}) fun _ _ => True :=
    (loadKeys_crash fun _ chosen => chosen.point).mono (fun _ chosen => chosen) (fun _ _ post => post) fun _ _ _ => trivial
  refine Crash.bind loaded fun keys => ?_
  have inside (w : State) (post : Chosen s token w ∧ keys = w.keysFile.getD {}) : Point s w := post.1.point
  refine Crash.bind (quiet_kept (quiet_ask rfl) inside) fun accessor => ?_
  have noted (accessor : String) : Crash Recognised (Point s) (fun w => Chosen s token w ∧ keys = w.keysFile.getD {})
      (ask (.writeKeys { keys with rootAccessor := some accessor })) (fun _ => Chosen s token) fun _ _ => True := by
    refine Crash.perform inside (fun w answer v post served => ?_) fun w exn v post served => ?_
    · cases served.1 with
      | writeKeys =>
        obtain ⟨chosen, rfl⟩ := post
        have same : (w.keysFile.getD {}).rootToken = w.keysFile.bind (·.rootToken) := by cases w.keysFile <;> rfl
        exact ⟨(chosen.withKeys same).point, chosen.withKeys same⟩
      | other none_ => cases none_
    · cases served.1
      exact ⟨inside _ post, trivial⟩
  have revoked : Crash Recognised (Point s) (Chosen s token) (ask (.revokeSelf token)) (fun _ => Dead s) fun _ _ => True := by
    refine Crash.perform (fun _ chosen => chosen.point) (fun w answer v chosen served => ?_) fun w exn v chosen served => ?_
    · have dead := dead_revoked chosen.safe chosen.single chosen.held chosen.live
      cases served.1 with
      | revokeSelf => exact ⟨dead.safe.point, dead⟩
      | other none_ => cases none_
    · have dead := dead_revoked chosen.safe chosen.single chosen.held chosen.live
      cases served.1 with
      | revokeLost => exact ⟨dead.safe.point, trivial⟩
      | fails => exact ⟨chosen.point, trivial⟩
  refine Crash.bind (noted accessor) fun _ => Crash.bind revoked fun _ => ?_
  refine Crash.bind (dead_kept fun _ _ _ served => writeKeys_live served) fun _ => ?_
  exact dead_kept fun _ _ _ served => unlink_live served

end phases

section result
variable {s w : State} {env : Env} {q : Script Unit} {trace : List (Exchange steps Exc)}

theorem main_crash (keep : env.keepRoot = false) (single : s.Single) (start : s.keysWritten = false) :
    Crash Recognised (Point s) (fun w => w = s) (main env) (fun _ => Dead s) fun _ _ => True := by
  have before (w : State) (at_s : w = s) : Point s w := by
    rw [at_s]
    exact (safe_self s).point
  unfold main
  split
  · exact Crash.raise fun w at_s => ⟨before w at_s, trivial⟩
  refine Crash.bind (quiet_kept (quiet_ask rfl) before) fun _ => ?_
  refine Crash.bind (initAndUnseal_crash env single start) fun keys => ?_
  have chosen : Crash Recognised (Point s) (Ready s keys) (rootClient keys) (fun found w => Ready s keys w ∧ match found with
      | some token => token ∈ w.held ∧ token ∈ w.live
      | none => ∀ token ∈ w.held, token ∉ w.live) fun _ _ => True :=
    (rootClient_crash (fun w ready => ready.point) fun w ready => ready.loaded).mono (fun _ ready => ready)
      (fun _ _ post => post) fun _ _ _ => trivial
  refine Crash.bind chosen fun root => ?_
  cases root with
  | none =>
    have inside (w : State) (post : Ready s keys w ∧ ∀ token ∈ w.held, token ∉ w.live) : Point s w := post.1.point
    refine Crash.bind (quiet_kept alreadyProvisioned_quiet inside) fun provisioned => ?_
    cases provisioned with
    | false => exact Crash.raise fun w post => ⟨inside w post, trivial⟩
    | true =>
      refine (quiet_kept (quiet_ask rfl) inside).mono (fun _ post => post) (fun _ w post => ?_) fun _ _ _ => trivial
      exact fun token answers alive => post.2 token (post.1.safe token alive answers) alive
  | some token =>
    have at_ (w : State) (post : Ready s keys w ∧ token ∈ w.held ∧ token ∈ w.live) : Chosen s token w :=
      ⟨post.1.safe, post.1.single, post.2.1, post.2.2⟩
    refine Crash.bind (quiet_kept (provisioning_quiet env token) fun w post => (at_ w post).point) fun _ => ?_
    rw [keep]
    exact (revokeRoot_crash token).mono at_ (fun _ _ dead => dead) fun _ _ _ => trivial

/-- A run that finds at most one live root token in the files, and recognises it, leaves none behind. -/
theorem main_clears (keep : env.keepRoot = false) (single : s.Single) (start : s.keysWritten = false)
    (path : (main env).Path trace q) (happens : Happens Recognised s trace w) : Clears s q w := by
  obtain ⟨point, ended⟩ := main_crash keep single start s rfl trace q w path happens
  refine ⟨fun returned => ?_, point⟩
  subst returned
  exact ended

end result

def did (op : Op) (answer : Ans op) : Exchange steps Exc := ⟨op, .ok answer⟩

def plainEnv : Env := ⟨false, [], .ok 1, .ok 1, false⟩

def keptKeys : Keys := ⟨some ["key"], some "hvs.a", some 1, none⟩

/-- A provisioned Vault whose keys file has kept a live root token. -/
def kept (live : List String) (text : Option String) (named : "" ∉ live) : State where
  initialized := true
  live := live
  keysFile := some keptKeys
  rootTokenFile := text
  keysWritten := false
  empty := nofun
  named := named

def noted : Keys := { keptKeys with rootAccessor := some "accessor" }

def cleaned (s : State) : State :=
  (((s.withKeys noted).revoked "hvs.a").withKeys { noted with rootToken := none }).unlinked

/-- A run that finds the kept token and goes on to its end. -/
def cleaning (text : Option String) : List (Exchange steps Exc) :=
  [did .makeSecrets (), did .keysExist true, did .readKeys keptKeys, did .isInitialized true, did .isSealed false,
    did .rootTokenExists text.isSome] ++ (text.toList.map fun text => did .readRootToken text) ++
  did (.isAuthenticated "hvs.a") true :: ((provisioning plainEnv).map fun step => did (.provision step "hvs.a") ()) ++
  [did .keysExist true, did .readKeys keptKeys, did (.lookupSelf "hvs.a") "accessor", did (.writeKeys noted) (),
    did (.revokeSelf "hvs.a") (), did (.writeKeys { noted with rootToken := none }) (), did .unlinkRootToken ()]

theorem cleaning_path (text : Option String) : (main plainEnv).Path (cleaning text) (.ret ()) := by
  cases text <;> repeat' first | exact .here | refine .call ?_

theorem cleaning_happens (live : List String) (text : Option String) (named : "" ∉ live) (alive : "hvs.a" ∈ live) :
    Happens Recognised (kept live text named) (cleaning text) (cleaned (kept live text named)) := by
  have tail : Happens Recognised (kept live text named) (did (.isAuthenticated "hvs.a") true ::
      ((provisioning plainEnv).map fun step => did (.provision step "hvs.a") ()) ++
      [did .keysExist true, did .readKeys keptKeys, did (.lookupSelf "hvs.a") "accessor", did (.writeKeys noted) (),
        did (.revokeSelf "hvs.a") (), did (.writeKeys { noted with rootToken := none }) (), did .unlinkRootToken ()])
      (cleaned (kept live text named)) := by
    refine .next ⟨.isAuthenticated fun _ => alive, fun _ => rfl⟩ ?_
    iterate 6 refine .next ⟨.other rfl, trivial⟩ ?_
    refine .next ⟨.keysExist, trivial⟩ (.next ⟨.readKeys rfl, trivial⟩ (.next ⟨.lookupSelf alive, trivial⟩ ?_))
    refine .next ⟨.writeKeys, trivial⟩ (.next ⟨.revokeSelf alive, trivial⟩ (.next ⟨.writeKeys, trivial⟩ ?_))
    exact .next ⟨.unlinkRootToken, trivial⟩ .done
  refine .next ⟨.other rfl, trivial⟩ (.next ⟨.keysExist, trivial⟩ (.next ⟨.readKeys rfl, trivial⟩ ?_))
  refine .next ⟨.isInitialized, trivial⟩ (.next ⟨.other rfl, trivial⟩ ?_)
  cases text with
  | none => exact .next ⟨.rootTokenExists, trivial⟩ tail
  | some text => exact .next ⟨.rootTokenExists, trivial⟩ (.next ⟨.readRootToken rfl, trivial⟩ tail)

theorem keptToken_clears :
    Clears (kept ["hvs.a"] none (by decide)) (.ret ()) (cleaned (kept ["hvs.a"] none (by decide))) := by
  have single : (kept ["hvs.a"] none (by decide)).Single := by
    intro t _ t' _ alive alive'
    rw [List.mem_singleton.mp alive, List.mem_singleton.mp alive']
  exact main_clears rfl single rfl (cleaning_path none)
    (cleaning_happens ["hvs.a"] none (by decide) List.mem_cons_self)

/-- A kept root token, and then a generated one in the other file: the second stays alive and is deleted. -/
theorem twoTokens_not_clear :
    ((main plainEnv).Path (cleaning (some "hvs.b\n")) (.ret ()) ∧
      Happens Recognised (kept ["hvs.a", "hvs.b"] (some "hvs.b\n") (by decide)) (cleaning (some "hvs.b\n"))
        (cleaned (kept ["hvs.a", "hvs.b"] (some "hvs.b\n") (by decide)))) ∧
    ¬Clears (kept ["hvs.a", "hvs.b"] (some "hvs.b\n") (by decide)) (.ret ())
      (cleaned (kept ["hvs.a", "hvs.b"] (some "hvs.b\n") (by decide))) := by
  refine ⟨⟨cleaning_path _, cleaning_happens _ _ _ List.mem_cons_self⟩, fun clears => ?_⟩
  have held : "hvs.b" ∈ (kept ["hvs.a", "hvs.b"] (some "hvs.b\n") (by decide)).held := by decide +kernel
  have alive : "hvs.b" ∈ (cleaned (kept ["hvs.a", "hvs.b"] (some "hvs.b\n") (by decide))).live := by decide +kernel
  exact clears.revoked rfl "hvs.b" (Or.inl held) alive

end Vdba.Bootstrap
