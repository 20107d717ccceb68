import Vdba.Identity
import Vdba.Main

namespace Vdba

/-- Vault is sealed or cannot be reached. -/
def ExcClass.isDown : ExcClass → Bool
  | .vaultDown | .osError _ => true
  | _ => false

/-- A failure of a log-in that does not become `VaultUnavailable`. -/
def ExcClass.unreported (cls : ExcClass) : Bool := !cls.isVaultError && !cls.isOSError && cls ≠ .vaultUnavailable

namespace Identity
open Interaction (Exchange)
open Interaction.Prog (Runs)

abbrev Trace (α : Type) := List (Exchange (steps α) Exc)

/-- The function is called with a client, and ends so. -/
def tried {α : Type} (token : Secret) (result : Except Exc α) : Exchange (steps α) Exc := ⟨.attempt token, result⟩

def attempted {α : Type} : Exchange (steps α) Exc → Option (Except Exc α)
  | ⟨.attempt _, result⟩ => some result
  | _ => none

def loggedIn {α : Type} : Exchange (steps α) Exc → Option Secret
  | ⟨.approleLogin .., .ok token⟩ => some token
  | _ => none

def loginError {α : Type} : Exchange (steps α) Exc → Option Exc
  | ⟨.approleLogin .., .error exn⟩ | ⟨.readText _, .error exn⟩ => some exn
  | _ => none

section traces
variable {α : Type} {t u : Trace α}

/-- How the attempts ended. -/
def attempts (t : Trace α) : List (Except Exc α) := t.filterMap attempted

/-- The clients of the log-ins that went well. -/
def logins (t : Trace α) : List Secret := t.filterMap loggedIn

/-- Why log-ins failed. -/
def loginErrors (t : Trace α) : List Exc := t.filterMap loginError

/-- What comes after the first attempt. -/
def afterFirst (t : Trace α) : Trace α := (t.dropWhile fun x => (attempted x).isNone).drop 1

/-- The lock, the fields and the clock do not fail, and reading a file does not fail as a request to Vault does. -/
def Fair : Exchange (steps α) Exc → Prop
  | ⟨.attempt _, _⟩ | ⟨.approleLogin .., _⟩ | ⟨.revokeSelf _, _⟩ => True
  | ⟨.readText _, .error exn⟩ => exn.cls.isVaultError = false
  | ⟨_, .ok _⟩ => True
  | ⟨_, .error _⟩ => False

@[simp] theorem attempts_append (t u : Trace α) : attempts (t ++ u) = attempts t ++ attempts u := List.filterMap_append

@[simp] theorem logins_append (t u : Trace α) : logins (t ++ u) = logins t ++ logins u := List.filterMap_append

@[simp] theorem loginErrors_append (t u : Trace α) : loginErrors (t ++ u) = loginErrors t ++ loginErrors u :=
  List.filterMap_append

@[simp] theorem attempts_attempt (token : Secret) (result : Except Exc α) (t : Trace α) :
    attempts (tried token result :: t) = result :: attempts t := rfl

@[simp] theorem loginErrors_attempt (token : Secret) (result : Except Exc α) (t : Trace α) :
    loginErrors (tried token result :: t) = loginErrors t := rfl

@[simp] theorem attempts_nil : attempts ([] : Trace α) = [] := rfl

@[simp] theorem loginErrors_nil : loginErrors ([] : Trace α) = [] := rfl

theorem afterFirst_append (none : attempts t = []) (token : Secret) (result : Except Exc α) (u : Trace α) :
    afterFirst (t ++ tried token result :: u) = u := by
  have quiet : ∀ x ∈ t, (attempted x).isNone = true := by
    intro x member
    rw [List.filterMap_eq_nil_iff.mp none x member]
    rfl
  rw [afterFirst, List.dropWhile_append_of_pos quiet]
  rfl

/-- Where an attempt can stand behind a part without one. -/
theorem split_attempt {token : Secret} {result : Except Exc α} {before after : Trace α} (none : attempts t = [])
    (split : t ++ u = before ++ tried token result :: after) :
    ∃ rest, before = t ++ rest ∧ u = rest ++ tried token result :: after := by
  rcases List.append_eq_append_iff.mp split with ⟨rest, same, tail⟩ | ⟨rest, same, tail⟩
  · exact ⟨rest, same, tail⟩
  · cases rest with
    | nil => exact ⟨[], by simpa using same.symm, by simpa using tail.symm⟩
    | cons x rest =>
      obtain ⟨rfl, -⟩ := List.cons.inj tail
      have member : tried token result ∈ t := by simp [same]
      cases List.filterMap_eq_nil_iff.mp none _ member

end traces

/-- Vault cannot be had, which the portal answers with a 503. -/
def Unavailable {α : Type} (outcome : Except Exc α) : Prop :=
  ∃ exn, outcome = .error exn ∧ exn.cls = .vaultUnavailable ∧ ∀ req : Request, (answer req exn).status = 503

/-- What is to hold of a call: at most two attempts, the second after a 403 and a log-in and with the new client; the
value of the last attempt is the result; Vault being down, or a log-in that fails, is `VaultUnavailable`; only a second
403 or another exception is passed on, and unchanged. -/
structure Classified {α : Type} (trace : Trace α) (outcome : Except Exc α) : Prop where
  twice : (attempts trace).length ≤ 2
  retried : ∀ before token result after, trace = before ++ tried token result :: after →
    attempts before = [] ∨
      ∃ exn, attempts before = [.error exn] ∧ exn.cls = .forbidden ∧ logins (afterFirst before) = [token]
  value : ∀ value, outcome = .ok value ↔ (attempts trace).getLast? = some (.ok value)
  down : ∀ exn, .error exn ∈ attempts trace → exn.cls.isDown = true → Unavailable outcome
  login : loginErrors trace ≠ [] → Unavailable outcome
  passed : ∀ exn, outcome = .error exn → exn.cls ≠ .vaultUnavailable →
    (attempts trace).getLast? = some (.error exn) ∧ exn.cls.isDown = false ∧
      (exn.cls = .forbidden → (attempts trace).length = 2)
  unchanged : ∀ exn, (attempts trace).getLast? = some (.error exn) → exn.cls.isDown = false →
    (exn.cls = .forbidden → (attempts trace).length = 2) → outcome = .error exn

/-- Vault is not down at the second attempt, and a log-in that fails does so as hvac or the network does. -/
def Reported {α : Type} (trace : Trace α) : Prop :=
  (∀ first exn, attempts trace = [first, .error exn] → exn.cls.isDown = false) ∧
    ∀ exn ∈ loginErrors trace, exn.cls.unreported = false

section runs
variable {α β : Type} {trace first rest : Trace α} {token : Secret} {exn : Exc}

/-- What a part of a trace without attempts and without a failing log-in leaves. -/
structure Quiet (trace : Trace α) : Prop where
  none : attempts trace = []
  smooth : loginErrors trace = []

/-- A log-in fails in a trace without attempts, and what it raises. -/
structure LoginFailed (trace : Trace α) (exn : Exc) : Prop where
  none : attempts trace = []
  why : ∃ cause, loginErrors trace = [cause] ∧
    (cause.cls.unreported = true → exn = cause) ∧ (cause.cls.unreported = false → exn.cls = .vaultUnavailable)

theorem Quiet.append (left : Quiet first) (right : Quiet rest) : Quiet (first ++ rest) :=
  ⟨by simp [left.none, right.none], by simp [left.smooth, right.smooth]⟩

theorem LoginFailed.after (before : Quiet first) (failed : LoginFailed rest exn) : LoginFailed (first ++ rest) exn := by
  obtain ⟨none, why⟩ := failed
  exact ⟨by simp [before.none, none], by simpa [before.smooth] using why⟩

theorem LoginFailed.before (failed : LoginFailed first exn) (after : Quiet rest) : LoginFailed (first ++ rest) exn := by
  obtain ⟨none, why⟩ := failed
  exact ⟨by simp [after.none, none], by simpa [after.smooth] using why⟩

/-- Reading a file fails in a trace without attempts. -/
structure ReadFailed (trace : Trace α) (exn : Exc) : Prop where
  none : attempts trace = []
  why : loginErrors trace = [exn]
  plain : exn.cls.isVaultError = false

/-- How a part of a log-in ends: with a value and the clients it has made, or as `fails` says. -/
inductive Ends (trace : Trace α) (made : β → List Secret) (fails : Exc → Prop) : Except Exc β → Prop
  | ok {value : β} : Quiet trace → logins trace = made value → Ends trace made fails (.ok value)
  | error {why : Exc} : fails why → Ends trace made fails (.error why)

theorem readText_runs {file : String} {outcome : Except Exc String}
    (run : (ask (α := α) (.readText file)).Runs trace outcome)
    (fair : ∀ x ∈ trace, Fair x) : Ends trace (fun _ => []) (ReadFailed trace) outcome := by
  obtain rfl := Runs.of_perform run
  cases outcome with
  | ok text => exact .ok ⟨rfl, rfl⟩ rfl
  | error exn => exact .error ⟨rfl, rfl, fair _ List.mem_cons_self⟩

theorem readBoth_runs {outcome : Except Exc (String × String)}
    (run : ((ask (α := α) (.readText "role_id")).bind fun roleId =>
      (ask (.readText "secret_id")).bind fun secretId => .ret ((roleId, secretId) : String × String)).Runs trace outcome)
    (fair : ∀ x ∈ trace, Fair x) : Ends trace (fun _ => []) (ReadFailed trace) outcome := by
  rcases Runs.of_bind run with ⟨exn, failed, rfl⟩ | ⟨roleId, first, rest, rfl, role, run⟩
  · cases readText_runs failed fair with
    | error failed => exact .error failed
  · cases readText_runs role fun x member => fair x (List.mem_append_left rest member) with
    | ok quiet none =>
      rcases Runs.of_bind run with ⟨exn, failed, rfl⟩ | ⟨secretId, second, last, rfl, secret, run⟩
      · cases readText_runs failed fun x member => fair x (List.mem_append_right first member) with
        | error failed => exact .error ⟨by simp [quiet.none, failed.none], by simp [quiet.smooth, failed.why],
          failed.plain⟩
      · obtain ⟨rfl, rfl⟩ := Runs.of_ret run
        cases readText_runs secret fun x member => fair x (by simp [member]) with
        | ok quiet' none' => exact .ok (quiet.append (by simpa using quiet')) (by simp [none, none'])

theorem readApprole_runs {outcome : Except Exc (String × String)} (run : (readApprole (α := α)).Runs trace outcome)
    (fair : ∀ x ∈ trace, Fair x) : Ends trace (fun _ => []) (LoginFailed trace) outcome := by
  rcases Runs.of_onError run with ⟨texts, read, rfl⟩ | ⟨cause, first, rest, rfl, read, handled⟩
  · cases readBoth_runs read fair with
    | ok quiet none => exact .ok quiet none
  · cases readBoth_runs read fun x member => fair x (List.mem_append_left rest member) with
    | error failed =>
      obtain ⟨none, why, plain⟩ := failed
      split at handled
      · rename_i system
        obtain ⟨rfl, rfl⟩ := Runs.of_raise handled
        refine .error ⟨by simpa using none, cause, by simpa using why, fun unreported => ?_, fun _ => rfl⟩
        simp [ExcClass.unreported, system] at unreported
      · rename_i other
        obtain ⟨rfl, rfl⟩ := Runs.of_raise handled
        refine .error ⟨by simpa using none, cause, by simpa using why, fun _ => rfl, fun reported => ?_⟩
        simpa [ExcClass.unreported, plain, other] using reported

theorem approleLogin_runs {roleId secretId : String} {outcome : Except Exc Secret}
    (run : (approleLogin (α := α) roleId secretId).Runs trace outcome) :
    Ends trace (fun token => [token]) (LoginFailed trace) outcome := by
  rcases Runs.of_onError run with ⟨token, asked, rfl⟩ | ⟨cause, first, rest, rfl, asked, handled⟩
  · obtain rfl := Runs.of_perform asked
    exact .ok ⟨rfl, rfl⟩ rfl
  · obtain rfl := Runs.of_perform asked
    split at handled
    · rename_i known
      obtain ⟨rfl, rfl⟩ := Runs.of_raise handled
      refine .error ⟨rfl, cause, rfl, fun unreported => ?_, fun _ => rfl⟩
      simp only [Bool.or_eq_true] at known
      rcases known with vault | system
      · simp [ExcClass.unreported, vault] at unreported
      · simp [ExcClass.unreported, system] at unreported
    · rename_i other
      obtain ⟨rfl, rfl⟩ := Runs.of_raise handled
      simp only [Bool.or_eq_true, not_or, Bool.not_eq_true] at other
      refine .error ⟨rfl, cause, rfl, fun _ => rfl, fun reported => ?_⟩
      simpa [ExcClass.unreported, other.1, other.2] using reported

/-- A step that is no part of a log-in and does not fail. -/
def Op.plain : Op → Prop
  | .acquire | .release | .getClient | .getLoggedInAt | .setClient .. | .now => True
  | .readText _ | .approleLogin .. | .revokeSelf _ | .attempt _ => False

theorem plain_runs {op : Op} {outcome : Except Exc (Ans α op)} (run : (ask op).Runs trace outcome) (plain : op.plain)
    (fair : ∀ x ∈ trace, Fair x) : ∃ value, outcome = .ok value ∧ Quiet trace ∧ logins trace = [] := by
  obtain rfl := Runs.of_perform run
  have held := fair _ List.mem_cons_self
  cases outcome with
  | ok value =>
    cases op
    case readText | approleLogin | revokeSelf | attempt => exact plain.elim
    all_goals exact ⟨value, rfl, ⟨rfl, rfl⟩, rfl⟩
  | error exn =>
    cases op
    case readText | approleLogin | revokeSelf | attempt => exact plain.elim
    all_goals exact held.elim

/-- Such a step in front of the rest. -/
theorem plain_bind {op : Op} {f : Ans α op → Code α β} {outcome : Except Exc β}
    (run : ((ask op).bind f).Runs trace outcome)
    (plain : op.plain) (fair : ∀ x ∈ trace, Fair x) :
    ∃ value first rest, trace = first ++ rest ∧ Quiet first ∧ logins first = [] ∧ (f value).Runs rest outcome ∧
      ∀ x ∈ rest, Fair x := by
  rcases Runs.of_bind run with ⟨exn, failed, rfl⟩ | ⟨value, first, rest, rfl, asked, after⟩
  · obtain ⟨value, same, -⟩ := plain_runs failed plain fair
    cases same
  · obtain ⟨-, -, quiet, none⟩ := plain_runs asked plain fun x member => fair x (List.mem_append_left rest member)
    exact ⟨value, first, rest, rfl, quiet, none, after, fun x member => fair x (List.mem_append_right first member)⟩

theorem revokeOld_runs {old : Option Secret} {outcome : Except Exc Unit}
    (run : (revokeOld (α := α) old).Runs trace outcome) :
    outcome = .ok () ∧ Quiet trace ∧ logins trace = [] := by
  cases old with
  | none =>
    obtain ⟨rfl, rfl⟩ := Runs.of_ret run
    exact ⟨rfl, ⟨rfl, rfl⟩, rfl⟩
  | some old =>
    rcases Runs.of_onError run with ⟨value, revoked, rfl⟩ | ⟨exn, first, rest, rfl, revoked, handled⟩
    · obtain rfl := Runs.of_perform revoked
      exact ⟨rfl, ⟨rfl, rfl⟩, rfl⟩
    · obtain rfl := Runs.of_perform revoked
      obtain ⟨rfl, rfl⟩ := Runs.of_ret handled
      exact ⟨rfl, ⟨rfl, rfl⟩, rfl⟩

theorem swap_runs {outcome : Except Exc Secret} (run : (swap (α := α) token).Runs trace outcome)
    (fair : ∀ x ∈ trace, Fair x) : outcome = .ok token ∧ Quiet trace ∧ logins trace = [] := by
  obtain ⟨old, a, rest, rfl, quietA, noneA, run, fair⟩ := plain_bind run trivial fair
  obtain ⟨now, b, rest, rfl, quietB, noneB, run, fair⟩ := plain_bind run trivial fair
  obtain ⟨_, c, rest, rfl, quietC, noneC, run, fair⟩ := plain_bind run trivial fair
  rcases Runs.of_bind run with ⟨exn, failed, rfl⟩ | ⟨_, d, rest, rfl, revoked, run⟩
  · cases (revokeOld_runs failed).1
  · obtain ⟨-, quietD, noneD⟩ := revokeOld_runs revoked
    obtain ⟨rfl, rfl⟩ := Runs.of_ret run
    rw [List.append_nil]
    exact ⟨rfl, quietA.append (quietB.append (quietC.append quietD)), by simp [noneA, noneB, noneC, noneD]⟩

theorem login_runs {outcome : Except Exc Secret} (run : (login (α := α)).Runs trace outcome)
    (fair : ∀ x ∈ trace, Fair x) :
    Ends trace (fun token => [token]) (LoginFailed trace) outcome := by
  rcases Runs.of_bind run with ⟨exn, failed, rfl⟩ | ⟨⟨roleId, secretId⟩, a, rest, rfl, read, run⟩
  · cases readApprole_runs failed fair with
    | error failed => exact .error failed
  cases readApprole_runs read fun x member => fair x (List.mem_append_left rest member) with
  | ok quietA noneA =>
  have fair := fun x member => fair x (List.mem_append_right a member)
  rcases Runs.of_bind run with ⟨exn, failed, rfl⟩ | ⟨token, b, rest, rfl, asked, run⟩
  · cases approleLogin_runs failed with
    | error failed => exact .error (failed.after quietA)
  cases approleLogin_runs asked with
  | ok quietB made =>
  obtain ⟨rfl, quietC, noneC⟩ := swap_runs run fun x member => fair x (List.mem_append_right b member)
  exact .ok (quietA.append (quietB.append quietC)) (by simp [noneA, made, noneC])

/-- The lock around a part is quiet, and ends as the part does. -/
theorem locked_runs {p : Code α β} {outcome : Except Exc β} (run : (locked p).Runs trace outcome)
    (fair : ∀ x ∈ trace, Fair x) :
    ∃ before inside after, trace = before ++ (inside ++ after) ∧ Quiet before ∧ Quiet after ∧ logins before = [] ∧
      logins after = [] ∧ p.Runs inside outcome ∧ ∀ x ∈ inside, Fair x := by
  obtain ⟨_, before, rest, rfl, quiet, none, run, fair⟩ := plain_bind run trivial fair
  obtain ⟨result, inside, after, rfl, run, ended⟩ := Runs.of_finally run
  have fairAfter := fun x member => fair x (List.mem_append_right inside member)
  have fairInside := fun x member => fair x (List.mem_append_left after member)
  rcases ended with ⟨released, rfl⟩ | ⟨exn, failed, -⟩
  · obtain ⟨-, -, quiet', none'⟩ := plain_runs released trivial fairAfter
    exact ⟨before, inside, after, rfl, quiet, quiet', none, none', run, fairInside⟩
  · obtain ⟨value, same, -⟩ := plain_runs failed trivial fairAfter
    cases same

/-- A client is had, or the log-in for it fails. -/
inductive Got (trace : Trace α) : Except Exc Secret → Prop
  | ok {token : Secret} : Quiet trace → Got trace (.ok token)
  | error {why : Exc} : LoginFailed trace why → Got trace (.error why)

theorem Got.after {outcome : Except Exc Secret} (before : Quiet first) (got : Got rest outcome) :
    Got (first ++ rest) outcome := by
  cases got with
  | ok quiet => exact .ok (before.append quiet)
  | error failed => exact .error (failed.after before)

theorem Got.before {outcome : Except Exc Secret} (got : Got first outcome) (after : Quiet rest) :
    Got (first ++ rest) outcome := by
  cases got with
  | ok quiet => exact .ok (quiet.append after)
  | error failed => exact .error (failed.before after)

theorem login_got {outcome : Except Exc Secret} (run : (login (α := α)).Runs trace outcome)
    (fair : ∀ x ∈ trace, Fair x) :
    Got trace outcome := by
  cases login_runs run fair with
  | ok quiet _ => exact .ok quiet
  | error failed => exact .error failed

theorem current_got {outcome : Except Exc Secret} (run : (current (α := α)).Runs trace outcome)
    (fair : ∀ x ∈ trace, Fair x) : Got trace outcome := by
  obtain ⟨held, a, rest, rfl, quietA, -, run, fair⟩ := plain_bind run trivial fair
  cases held with
  | none => exact (login_got run fair).after quietA
  | some token =>
    obtain ⟨now, b, rest, rfl, quietB, -, run, fair⟩ := plain_bind run trivial fair
    obtain ⟨since, c, rest, rfl, quietC, -, run, fair⟩ := plain_bind run trivial fair
    refine Got.after quietA (Got.after quietB (Got.after quietC ?_))
    split at run
    · exact login_got run fair
    · obtain ⟨rfl, rfl⟩ := Runs.of_ret run
      exact .ok ⟨rfl, rfl⟩

theorem client_got {outcome : Except Exc Secret} (run : (client (α := α)).Runs trace outcome)
    (fair : ∀ x ∈ trace, Fair x) :
    Got trace outcome := by
  obtain ⟨before, inside, after, rfl, quiet, quiet', -, -, run, fair⟩ := locked_runs run fair
  exact ((current_got run fair).before quiet').after quiet

/-- The log-in behind a 403. -/
theorem relogin_runs {outcome : Except Exc Secret} (run : (locked (login (α := α))).Runs trace outcome)
    (fair : ∀ x ∈ trace, Fair x) : Ends trace (fun token => [token]) (LoginFailed trace) outcome := by
  obtain ⟨before, inside, after, rfl, quiet, quiet', none, none', run, fair⟩ := locked_runs run fair
  cases login_runs run fair with
  | ok within made => exact .ok (quiet.append (within.append quiet')) (by simp [none, none', made])
  | error failed => exact .error ((failed.before quiet').after quiet)

theorem LoginFailed.other (failed : LoginFailed trace exn) : exn.cls ≠ .forbidden ∧ exn.cls.isDown = false := by
  obtain ⟨-, cause, -, same, known⟩ := failed
  by_cases unreported : cause.cls.unreported = true
  · obtain rfl := same unreported
    cases cls : exn.cls <;> simp [ExcClass.unreported, ExcClass.isVaultError, ExcClass.isOSError, cls] at unreported <;>
      exact ⟨nofun, rfl⟩
  · rw [known (by simpa using unreported)]
    exact ⟨nofun, rfl⟩

/-- What a caller sees of an attempt that is not answered with a 403. -/
def seen : Except Exc α → Except Exc α
  | .ok value => .ok value
  | .error exn => .error (if exn.cls.isDown then unavailable exn else exn)

/-- How a call goes: no client; one attempt that is not answered with a 403; no log-in behind a 403; or a second
attempt with the new client, which is the end of it. -/
inductive Course : Trace α → Except Exc α → Prop
  | noClient {t : Trace α} {why : Exc} : LoginFailed t why → Course t (.error why)
  | first {t : Trace α} {old : Secret} {result : Except Exc α} : Quiet t →
      (∀ why, result = .error why → why.cls ≠ .forbidden) → Course (t ++ [tried old result]) (seen result)
  | noLogin {t u : Trace α} {old : Secret} {denied why : Exc} : Quiet t → denied.cls = .forbidden → LoginFailed u why →
      Course (t ++ tried old (.error denied) :: u) (.error why)
  | second {t u : Trace α} {old new : Secret} {denied : Exc} {result : Except Exc α} : Quiet t →
      denied.cls = .forbidden → Quiet u → logins u = [new] →
      Course (t ++ tried old (.error denied) :: (u ++ [tried new result])) result

theorem call_course {outcome : Except Exc α} (run : (call (α := α)).Runs trace outcome) (fair : ∀ x ∈ trace, Fair x) :
    Course trace outcome := by
  rcases Runs.of_onError run with ⟨value, inner, rfl⟩ | ⟨exn, head, rest, rfl, inner, handled⟩
  · rcases Runs.of_bind inner with ⟨exn, -, same⟩ | ⟨token, before, last, rfl, got, asked⟩
    · cases same
    obtain rfl := Runs.of_perform asked
    cases client_got got fun x member => fair x (List.mem_append_left _ member) with
    | ok quiet => exact (Course.first quiet nofun : Course _ (seen (.ok value)))
  · have fairInner := fun x member => fair x (List.mem_append_left rest member)
    have fairRest := fun x member => fair x (List.mem_append_right head member)
    have passed (down : exn.cls.isDown = false) (known : exn.cls ≠ .forbidden) : rest = [] ∧ outcome = .error exn := by
      cases cls : exn.cls <;> rw [cls] at handled down known
      case forbidden => exact absurd rfl known
      case vaultDown | osError => cases down
      all_goals exact Runs.of_raise handled
    rcases Runs.of_bind inner with ⟨exn, failed, same⟩ | ⟨token, before, last, rfl, got, asked⟩
    · cases same
      cases client_got failed fairInner with
      | error failed =>
        obtain ⟨rfl, rfl⟩ := passed failed.other.2 failed.other.1
        rw [List.append_nil]
        exact .noClient failed
    · obtain rfl := Runs.of_perform asked
      cases client_got got fun x member => fairInner x (List.mem_append_left _ member) with
      | ok quiet =>
        by_cases denied : exn.cls = .forbidden
        · rw [denied] at handled
          rw [List.append_assoc, List.singleton_append]
          rcases Runs.of_bind handled with ⟨why, failed, rfl⟩ | ⟨new, middle, last, rfl, relogged, again⟩
          · cases relogin_runs failed fairRest with
            | error failed => exact .noLogin quiet denied failed
          · obtain rfl := Runs.of_perform again
            cases relogin_runs relogged fun x member => fairRest x (List.mem_append_left _ member) with
            | ok within made => exact .second quiet denied within made
        · have course : Course (before ++ [tried token (.error exn)]) (seen (.error exn)) :=
            Course.first quiet fun why same => by cases same; exact denied
          rw [seen] at course
          cases down : exn.cls.isDown with
          | false =>
            obtain ⟨rfl, rfl⟩ := passed down denied
            rw [if_neg (by simp [down])] at course
            rw [List.append_nil]
            exact course
          | true =>
            obtain ⟨rfl, rfl⟩ : rest = [] ∧ outcome = .error (unavailable exn) := by
              cases cls : exn.cls <;> rw [cls] at handled down
              case vaultDown | osError => exact Runs.of_raise handled
              all_goals cases down
            rw [if_pos down] at course
            rw [List.append_nil]
            exact course

/-- A log-in that fails is reported if its error is one that `_login` knows. -/
theorem LoginFailed.reported (failed : LoginFailed trace exn) :
    (∀ cause ∈ loginErrors trace, cause.cls.unreported = false) ↔ exn.cls = .vaultUnavailable := by
  obtain ⟨-, cause, why, same, known⟩ := failed
  rw [why, List.forall_mem_singleton]
  refine ⟨known, fun reported => ?_⟩
  cases unreported : cause.cls.unreported with
  | false => rfl
  | true =>
    rw [← same unreported, ExcClass.unreported, reported] at unreported
    simp at unreported

theorem unavailable_of {why : Exc} (cls : why.cls = .vaultUnavailable) : Unavailable (.error why : Except Exc α) := by
  have other : why ≠ notAuthenticated := by
    rintro rfl
    cases cls
  exact ⟨why, rfl, cls, fun req => by simp [answer, other, cls]⟩

theorem vaultUnavailable_of {why : Exc} (same : Unavailable (.error why : Except Exc α)) :
    why.cls = .vaultUnavailable := by
  obtain ⟨exn, same, cls, -⟩ := same
  rwa [Except.error.inj same]

/-- In a trace without attempts there is nothing to retry. -/
theorem retried_of_none (none : attempts trace = []) {before after : Trace α} {result : Except Exc α}
    (split : trace = before ++ tried token result :: after) : attempts before = [] := by
  rw [split, attempts_append] at none
  exact (List.append_eq_nil_iff.mp none).1

/-- Behind the first attempt there is none, or one with the client of the log-in between. -/
theorem retried_after {t u : Trace α} {old again : Secret} {denied : Exc} {result : Except Exc α}
    {before after : Trace α} (quiet : attempts t = []) (forbidden : denied.cls = .forbidden)
    (split : t ++ tried old (.error denied) :: u = before ++ tried again result :: after)
    (behind : ∀ rest, u = rest ++ tried again result :: after → attempts rest = [] ∧ logins rest = [again]) :
    attempts before = [] ∨
      ∃ exn, attempts before = [.error exn] ∧ exn.cls = .forbidden ∧ logins (afterFirst before) = [again] := by
  obtain ⟨rest, rfl, tail⟩ := split_attempt quiet split
  cases rest with
  | nil => exact Or.inl (by simpa using quiet)
  | cons x rest =>
    obtain ⟨rfl, behind_u⟩ := List.cons.inj tail
    obtain ⟨none, made⟩ := behind rest behind_u
    exact Or.inr ⟨denied, by simp [quiet, none], forbidden, by rw [afterFirst_append quiet]; exact made⟩

/-- A call is classified as it should be exactly if Vault is not down at its second attempt and its log-ins fail in a
way that `_login` knows. -/
theorem call_classified {outcome : Except Exc α} (run : (call (α := α)).Runs trace outcome)
    (fair : ∀ x ∈ trace, Fair x) :
    Classified trace outcome ↔ Reported trace := by
  cases call_course run fair with
  | @noClient t why failed =>
    have reported : Reported trace ↔ why.cls = .vaultUnavailable := by
      rw [← failed.reported, Reported, failed.none]
      simp
    rw [reported]
    obtain ⟨cause, errors, -⟩ := failed.why
    refine ⟨fun classified => vaultUnavailable_of (classified.login (by simp [errors])), fun cls => ?_⟩
    refine ⟨by simp [failed.none], fun before token result after split => Or.inl (retried_of_none failed.none split),
      by simp [failed.none], by simp [failed.none], fun _ => unavailable_of cls, fun exn same other => ?_, by simp [failed.none]⟩
    cases same
    exact absurd cls other
  | @first t old result quiet known =>
    have all : attempts (t ++ [tried old result]) = [result] := by simp [quiet.none]
    have errors : loginErrors (t ++ [tried old result]) = [] := by simp [quiet.smooth]
    refine iff_of_true ⟨by simp [all], fun before token other after split => Or.inl ?_, fun value => ?_,
      fun exn member down => ?_,
      fun failed => absurd errors failed, fun exn same other => ?_, fun exn last up once => ?_⟩ ⟨by simp [all], by simp [errors]⟩
    · obtain ⟨rest, rfl, tail⟩ := split_attempt quiet.none split
      cases rest with
      | nil => simpa using quiet.none
      | cons x rest => simp at tail
    · rw [all]
      cases result <;> simp [seen]
    · rw [all, List.mem_singleton] at member
      subst member
      rw [seen, if_pos down]
      exact unavailable_of rfl
    · rw [all]
      cases result with
      | ok value => cases same
      | error cause =>
        cases down : cause.cls.isDown with
        | true =>
          simp only [seen, down, if_true, Except.error.injEq] at same
          subst same
          exact absurd rfl other
        | false =>
          simp only [seen, down, Bool.false_eq_true, if_false, Except.error.injEq] at same
          subst same
          exact ⟨rfl, down, fun denied => absurd denied (known cause rfl)⟩
    · rw [all] at last
      obtain rfl : result = .error exn := by simpa using last
      simp [seen, up]
  | @noLogin t u old denied why quiet forbidden failed =>
    have all : attempts (t ++ tried old (.error denied) :: u) = [.error denied] := by simp [quiet.none, failed.none]
    have errors : loginErrors (t ++ tried old (.error denied) :: u) = loginErrors u := by simp [quiet.smooth]
    have reported : Reported (t ++ tried old (.error denied) :: u) ↔ why.cls = .vaultUnavailable := by
      rw [← failed.reported, Reported, all, errors]
      simp
    rw [reported]
    obtain ⟨cause, causes, -⟩ := failed.why
    refine ⟨fun classified => vaultUnavailable_of (classified.login (by simp [errors, causes])), fun cls => ?_⟩
    refine ⟨by simp [all], fun before token result after split => ?_, by simp [all], fun exn member down => ?_,
      fun _ => unavailable_of cls, fun exn same other => ?_, fun exn last up once => ?_⟩
    · refine retried_after quiet.none forbidden split fun rest tail => ?_
      have none := failed.none
      rw [tail] at none
      simp at none
    · rw [all, List.mem_singleton] at member
      cases member
      rw [forbidden] at down
      cases down
    · cases same
      exact absurd cls other
    · rw [all] at last once
      obtain rfl : denied = exn := by simpa using last
      cases once forbidden
  | @second t u old new denied result quiet forbidden within made =>
    have all : attempts (t ++ tried old (.error denied) :: (u ++ [tried new outcome])) = [.error denied, outcome] := by
      simp [quiet.none, within.none]
    have errors : loginErrors (t ++ tried old (.error denied) :: (u ++ [tried new outcome])) = [] := by
      simp [quiet.smooth, within.smooth]
    constructor
    · refine fun classified => ⟨fun first exn two => ?_, by simp [errors]⟩
      rw [all] at two
      obtain rfl : outcome = .error exn := by simpa using (List.cons.inj (List.cons.inj two).2).1
      cases down : exn.cls.isDown with
      | false => rfl
      | true =>
        have cls := vaultUnavailable_of (classified.down exn (by simp [all]) down)
        rw [cls] at down
        cases down
    · rintro ⟨up, -⟩
      have standing (exn : Exc) (same : outcome = .error exn) : exn.cls.isDown = false := up _ exn (by rw [all, same])
      refine ⟨by simp [all], fun before token other after split => ?_, fun value => ?_, fun exn member down => ?_,
        fun failed => absurd errors failed, fun exn same other => ?_, fun exn last _ _ => ?_⟩
      · refine retried_after quiet.none forbidden split fun rest tail => ?_
        obtain ⟨rest', rfl, tail'⟩ := split_attempt within.none tail
        cases rest' with
        | nil =>
          obtain ⟨same, -⟩ := List.cons.inj tail'
          cases same
          simp [within.none, made]
        | cons x rest' => simp at tail'
      · simp [all]
      · rw [all] at member
        simp only [List.mem_cons, List.not_mem_nil, or_false] at member
        rcases member with same | same
        · cases same
          rw [forbidden] at down
          cases down
        · rw [standing exn same.symm] at down
          cases down
      · rw [all]
        exact ⟨by simp [same], standing exn same, fun _ => rfl⟩
      · rw [all] at last
        simpa using last

end runs

/-- A log-in that goes well, with the client it replaces. -/
def loginSteps (old : Option Secret) (token : Secret) : Trace Nat :=
  [⟨.readText "role_id", .ok "role"⟩, ⟨.readText "secret_id", .ok "secret"⟩, ⟨.approleLogin "role" "secret", .ok token⟩,
    ⟨.getClient, .ok old⟩, ⟨.now, .ok (0 : Nat)⟩, ⟨.setClient token 0, .ok ()⟩] ++
  old.toList.map fun token => ⟨.revokeSelf token, .ok ()⟩

/-- A call that logs in, is answered with a 403, logs in again, and ends with its second attempt. -/
def deniedCall (result : Except Exc Nat) : Trace Nat :=
  ⟨.acquire, .ok ()⟩ :: ⟨.getClient, .ok none⟩ :: loginSteps none ⟨"first"⟩ ++
    ⟨.release, .ok ()⟩ :: tried ⟨"first"⟩ (.error ⟨.forbidden, ""⟩) :: ⟨.acquire, .ok ()⟩ ::
    loginSteps (some ⟨"first"⟩) ⟨"second"⟩ ++ [⟨.release, .ok ()⟩, tried ⟨"second"⟩ result]

theorem deniedCall_runs (result : Except Exc Nat) : (call (α := Nat)).Runs (deniedCall result) result := by
  unfold Runs deniedCall loginSteps
  simp only [Option.toList, List.map, List.append_nil, List.cons_append, List.nil_append]
  cases result <;> repeat' first | exact .here | refine .call ?_

theorem deniedCall_fair (result : Except Exc Nat) : ∀ x ∈ deniedCall result, Fair x := by
  unfold deniedCall loginSteps
  simp only [Option.toList, List.map, List.append_nil, List.cons_append, List.nil_append, List.forall_mem_cons]
  repeat' constructor
  intro x member
  cases member

theorem deniedCall_classified : Classified (deniedCall (.ok 7)) (.ok 7) := by
  refine (call_classified (deniedCall_runs _) (deniedCall_fair _)).mpr ⟨fun first exn two => ?_, fun exn member => ?_⟩
  · cases two
  · cases member

theorem sealedCall_not_classified :
    ((call (α := Nat)).Runs (deniedCall (.error ⟨.vaultDown, "sealed"⟩)) (.error ⟨.vaultDown, "sealed"⟩) ∧
      ∀ x ∈ deniedCall (.error ⟨.vaultDown, "sealed"⟩), Fair x) ∧
    ¬Classified (deniedCall (.error ⟨.vaultDown, "sealed"⟩)) (.error ⟨.vaultDown, "sealed"⟩) := by
  refine ⟨⟨deniedCall_runs _, deniedCall_fair _⟩, fun classified => ?_⟩
  have down : (.error ⟨.vaultDown, "sealed"⟩ : Except Exc Nat) ∈ attempts (deniedCall (.error ⟨.vaultDown, "sealed"⟩)) :=
    List.mem_cons_of_mem _ List.mem_cons_self
  cases vaultUnavailable_of (classified.down _ down rfl)

end Identity
end Vdba
