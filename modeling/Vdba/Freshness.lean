import Vdba.Interaction.Path
import Vdba.TokenCustody

namespace Vdba
open Interaction (Protocol Pool Machine Exchange)
open Interaction.Prog (All Follows Runs)

/-- A check of the rights behind a session: when Vault said that the user is an admin, when it said that the token is
alive, and the clock reading that the thread took next. -/
structure Check where
  username : String
  token : Secret
  admin : Time
  alive : Time
  stamp : Time
  deriving DecidableEq

def Check.Covers (c : Check) (s : Session) : Prop := c.username = s.username ∧ c.token = s.vaultToken

/-- What a thread has been told: the session row it has read, its first clock reading after that, what Vault has said of
a user and of a token since the last reading, and the check that was complete with that reading. -/
structure Mind where
  row : Option (Digest × Session) := none
  judged : Option Time := none
  admin : Option (String × Time) := none
  alive : Option (Secret × Time) := none
  last : Option Check := none
  deriving DecidableEq

namespace Mind

/-- The check that a clock reading completes. -/
def complete (m : Mind) (stamp : Time) : Option Check :=
  match m.admin, m.alive with
  | some (username, admin), some (token, alive) => some ⟨username, token, admin, alive, stamp⟩
  | _, _ => none

/-- An answer given at a time. -/
def hears (m : Mind) (time : Time) : (op : Op) → Except Exc (Ans op) → Mind
  | .now, .ok reading =>
    { m with
      judged := if (m.complete reading).isSome then m.judged else m.judged.or (some reading)
      admin := none, alive := none, last := m.complete reading }
  | .getSession sid, answer =>
    let answer : Except Exc (Option Session) := answer
    match answer with
    | .ok row => { m with row := row.map fun s => (sid, s), judged := none }
    | .error _ => m
  | .readUser username, answer =>
    let answer : Except Exc (Option (List String)) := answer
    match answer with
    | .ok names => { m with admin := if ADMIN_POLICY_NAME ∈ names.getD [] then some (username, time) else none }
    | .error _ => m
  | .lookupSelf token, answer =>
    let answer : Except Exc (List String) := answer
    match answer with
    | .ok names => { m with alive := if names ≠ [] then some (token, time) else none }
    | .error _ => m
  | .userpassLogin username _, answer =>
    let answer : Except Exc (Secret × List String) := answer
    match answer with
    | .ok (token, names) =>
      if ADMIN_POLICY_NAME ∈ names then { m with admin := some (username, time), alive := some (token, time) } else m
    | .error _ => m
  | _, _ => m

/-- The same without the times of Vault's answers, which the thread does not see. -/
def timeless (m : Mind) : Mind :=
  { m with
    admin := m.admin.map fun x => (x.1, 0)
    alive := m.alive.map fun x => (x.1, 0)
    last := m.last.map fun c => { c with admin := 0, alive := 0 } }

theorem complete_timeless (m : Mind) (stamp : Time) :
    m.timeless.complete stamp = (m.complete stamp).map fun c => { c with admin := 0, alive := 0 } := by
  unfold complete timeless
  cases m.admin with
  | none => rfl
  | some admin =>
    cases m.alive with
    | none => rfl
    | some alive => rfl

theorem hears_timeless (m : Mind) (time : Time) (op : Op) (answer : Except Exc (Ans op)) :
    (m.hears time op answer).timeless = m.timeless.hears 0 op answer := by
  cases op
  case now =>
    cases answer with
    | error exn => rfl
    | ok reading =>
      have complete := m.complete_timeless reading
      simp only [hears, complete, Option.isSome_map]
      rfl
  case getSession sid => cases answer <;> rfl
  case readUser username =>
    cases answer with
    | error exn => rfl
    | ok names =>
      simp only [hears, timeless]
      split <;> rfl
  case lookupSelf token =>
    cases answer with
    | error exn => rfl
    | ok names =>
      simp only [hears, timeless]
      split <;> rfl
  case userpassLogin username password =>
    cases answer with
    | error exn => rfl
    | ok logged =>
      change Secret × List String at logged
      obtain ⟨token, names⟩ := logged
      simp only [hears]
      split <;> rfl
  all_goals cases answer <;> rfl

end Mind

/-- A thread stamps a session with the check it has just made, or leaves the stamp if it is not too old; it makes a
session for the user it has just logged in. -/
def judging (site : Site) : Protocol calls Exc Mind where
  allows m op :=
    match op with
    | .touchSession now sid checked => ∃ s judged, m.row = some (sid, s) ∧ m.judged = some judged ∧
        if checked then ∃ c, m.last = some c ∧ c.Covers s ∧ c.stamp = now
        else judged ≤ s.lastCheck + seconds site.cfg.sessionRecheckSeconds
    | .createSession session => ∃ c, m.last = some c ∧ c.Covers session ∧ c.stamp = session.lastCheck
    | _ => True
  after m op answer := m.hears 0 op answer

/-- A call that stamps no session. -/
def Op.stampless : Op → Prop
  | .touchSession .. | .createSession _ => False
  | _ => True

/-- Code that stamps no session, whatever the thread knows. -/
def Stampless {α : Type} (site : Site) (p : Portal α) : Prop := ∀ m, p.Follows (judging site) (fun _ _ => True) m

section walk
variable {α β : Type} {site : Site} {req : Request} {s : Session}

namespace Stampless

theorem of_all {p : Portal α} (all : p.All Op.stampless) : Stampless site p := by
  induction p with
  | ret => exact fun _ => trivial
  | raise => exact fun _ => trivial
  | call op next ih =>
    refine fun m => ⟨?_, fun answer => ih answer (all.2 answer) _⟩
    have stampless := all.1
    cases op
    case touchSession | createSession => exact stampless.elim
    all_goals trivial
  | iter body next ihBody ih =>
    refine fun m => ⟨fun _ => True, trivial, fun r _ => (ihBody all.1 r).mono fun outcome r' _ => ?_⟩
    rcases outcome with exn | ⟨⟨⟩⟩ | value
    · trivial
    · trivial
    · exact ih value (all.2 value) r'

theorem bind {p : Portal α} {f : α → Portal β} (first : Stampless site p) (next : ∀ value, Stampless site (f value)) :
    Stampless site (p.bind f) := by
  refine fun m => Follows.bind ((first m).mono fun outcome r _ => ?_)
  cases outcome with
  | ok value => exact next value r
  | error exn => trivial

end Stampless

theorem stampless_ask (op : Op) (stampless : op.stampless) : (ask op).All Op.stampless := All.perform stampless

theorem stampless_of_grants {p : Portal α} (all : p.All Op.ofGrants) : p.All Op.stampless := by
  refine all.mono fun op ofGrants => ?_
  cases op
  case touchSession | createSession => exact ofGrants.elim
  all_goals trivial

theorem stampless_gated {kind : Kind} {p : Portal α} (all : p.All Op.stampless) : (admit_ kind p).All Op.stampless := by
  refine All.bind (stampless_ask _ trivial) fun (granted : Bool) => ?_
  cases granted with
  | false => trivial
  | true => exact All.finally_ all (stampless_ask _ trivial)

theorem stampless_audit (requestId : Option String) (id : Option GrantId) (actor action result detail : String) :
    (audit requestId id actor action result detail).All Op.stampless :=
  stampless_of_grants (grants_audit _ _ _ _ _ _)

theorem stampless_revokeToken (token : Secret) : (revokeTokenQuietly token).All Op.stampless :=
  All.onError (stampless_ask _ trivial) fun _ => trivial

theorem stampless_loginPage (msg : String) (status : Nat) (username : String) :
    (loginPage req msg status username).All Op.stampless :=
  All.bind (stampless_audit _ _ _ _ _ _) fun _ => All.bind (stampless_ask _ trivial) fun _ => trivial

theorem stampless_indexPage (result : Option Issued) (error : Option String) (status : Nat) :
    (indexPage site s result error status).All Op.stampless := by
  have tables (db : DbType) (error : Option String) : (indexTables db error).All Op.stampless :=
    All.onError (All.bind (stampless_gated (stampless_of_grants (grants_of_basic (basic_catalog db)))) fun _ => trivial)
      fun _ => All.cond trivial trivial
  exact All.bind (tables _ _) fun _ => All.bind (tables _ _) fun _ => All.bind (stampless_ask _ trivial) fun _ => trivial

theorem stampless_issueGrant (body : GrantRequest) : (issueGrant site req s body).All Op.stampless := by
  refine All.onError (stampless_gated (stampless_of_grants (grants_issue _ _ _ _))) fun exn => ?_
  cases exn.cls <;> trivial

theorem stampless_createGrantForm : (createGrantForm site req s).All Op.stampless := by
  unfold createGrantForm
  split
  · exact stampless_indexPage _ _ _
  · refine (stampless_issueGrant _).attempt.bind fun outcome => ?_
    cases outcome with
    | ok issued => exact stampless_indexPage _ _ _
    | error exn =>
      dsimp only
      split
      · exact stampless_indexPage _ _ _
      · exact stampless_indexPage _ _ _
      · trivial

theorem stampless_revokeGrant (id : GrantId) : (revokeGrant req s id).All Op.stampless := by
  refine All.bind (All.onError (stampless_gated (stampless_of_grants (grants_revoke _ _ _))) fun exn => ?_) fun _ =>
    All.cond trivial trivial
  cases exn.cls <;> trivial

theorem stampless_rotateConnection (db : DbType) : (rotateConnection req s db).All Op.stampless := by
  have rotated : (rotateAdmitted req s db).All Op.stampless := by
    refine All.bind (All.onError (call_all trivial trivial (stampless_ask _ trivial)) fun exn => All.cond trivial ?_)
      fun _ => stampless_audit _ _ _ _ _ _
    exact All.bind (stampless_audit _ _ _ _ _ _) fun _ => trivial
  exact All.bind (All.onError (stampless_gated rotated) fun _ => All.cond trivial trivial) fun _ =>
    All.cond trivial trivial

theorem stampless_apiListTables (db : DbType) : (apiListTables db).All Op.stampless :=
  All.bind (All.onError (stampless_gated (stampless_of_grants (grants_of_basic (basic_catalog db)))) fun _ =>
    All.cond trivial trivial) fun _ => trivial

theorem stampless_matched (param : Except String α) : (matched param).All Op.stampless := by
  cases param <;> trivial

/-- Code in which nothing is lost where it raises. -/
theorem admit_follows {kind : Kind} {p : Portal α} {Q : Except Exc α → Mind → Prop} {m : Mind}
    (raises : ∀ exn r, Q (.error exn) r) (run : p.Follows (judging site) Q m) :
    (admit_ kind p).Follows (judging site) Q m := by
  refine Follows.bind (Follows.perform trivial fun answer => ?_)
  rcases answer with exn | granted
  · exact raises _ _
  · change Bool at granted
    cases granted with
    | false => exact raises _ _
    | true =>
      refine Follows.finally_ (run.mono fun outcome r post => Follows.perform trivial fun ended => ?_)
      cases ended with
      | ok _ => exact post
      | error exn => exact raises _ _

theorem call_follows {op : Op} {Q : Except Exc (Ans op) → Mind → Prop} {m : Mind} (allowed : (judging site).allows m op)
    (same : ∀ exn, m.hears 0 op (.error exn) = m) (raises : ∀ exn r, Q (.error exn) r)
    (told : ∀ value, Q (.ok value) (m.hears 0 op (.ok value))) :
    (Service.call (ask op)).Follows (judging site) Q m := by
  have asked (Q' : Except Exc (Ans op) → Mind → Prop) (failed : ∀ exn, Q' (.error exn) m)
      (told : ∀ value, Q' (.ok value) (m.hears 0 op (.ok value))) : (ask op).Follows (judging site) Q' m := by
    refine Follows.perform allowed fun answer => ?_
    cases answer with
    | ok value => exact told value
    | error exn =>
      rw [show (judging site).after m op (.error exn) = m from same exn]
      exact failed exn
  have first : ((ask .client).bind fun _ => ask op : Portal (Ans op)).Follows (judging site)
      (fun outcome r => (∀ exn, outcome = .error exn → r = m) ∧
        ∀ value, outcome = .ok value → r = m.hears 0 op (.ok value)) m := by
    refine Follows.bind (Follows.perform trivial fun answer => ?_)
    cases answer with
    | error exn => exact ⟨fun _ _ => rfl, fun value same => by cases same⟩
    | ok _ =>
      refine asked _ (fun exn => ⟨fun _ _ => rfl, fun value same => by cases same⟩) fun value => ?_
      exact ⟨fun exn same => (by cases same), fun value' same => (by cases same; rfl)⟩
  refine Follows.onError (first.mono fun outcome r ended => ?_)
  cases outcome with
  | ok value =>
    obtain rfl := ended.2 value rfl
    exact told value
  | error exn =>
    obtain rfl := ended.1 exn rfl
    obtain ⟨cls, text⟩ := exn
    cases cls
    case forbidden =>
      refine Follows.bind (Follows.perform trivial fun answer => ?_)
      cases answer with
      | ok _ => exact asked Q (fun exn => raises exn _) told
      | error exn => exact raises _ _
    all_goals exact raises _ _

/-- What is known once the rights of a session were asked for. -/
def Asked (s : Session) (m : Mind) : Except Exc Bool → Mind → Prop
  | .ok true, r => r = { m with admin := some (s.username, 0), alive := some (s.vaultToken, 0) }
  | _, _ => True

theorem userPolicies_follows (m : Mind) :
    (userPolicies s.username).Follows (judging site) (fun outcome r =>
      ∀ current, outcome = .ok current → ADMIN_POLICY_NAME ∈ current.getD [] →
        r = { m with admin := some (s.username, 0) }) m := by
  refine Follows.cond (fun _ => ?_) fun _ => fun current same => by cases same; simp
  refine Follows.onError (call_follows trivial (fun _ => rfl) (fun exn r => ?_) fun names => ?_)
  · dsimp only
    split
    · exact fun current same => by cases same; simp
    · exact fun current same => by cases same
  · intro current same admin
    cases same
    exact congrArg (fun x => { m with admin := x }) (if_pos admin)

theorem tokenPolicies_follows (m : Mind) :
    (tokenPolicies s.vaultToken).Follows (judging site) (fun outcome r =>
      ∀ alive, outcome = .ok alive → alive.getD [] ≠ [] → r = { m with alive := some (s.vaultToken, 0) }) m := by
  refine Follows.onError (Follows.bind (Follows.perform trivial fun answer => ?_))
  cases answer with
  | ok names =>
    intro alive same some
    cases same
    exact congrArg (fun x => { m with alive := x }) (if_pos some)
  | error exn =>
    dsimp only [Follows.Then]
    split
    · exact fun alive same none => by cases same; exact absurd rfl none
    · split <;> exact fun alive same => by cases same

theorem recheck_follows (m : Mind) : (recheck s).Follows (judging site) (Asked s m) m := by
  have asked : (do
      let current ← userPolicies s.username
      let alive ← tokenPolicies s.vaultToken
      return (current, alive) : Portal (Option (List String) × Option (List String))).Follows (judging site)
      (fun outcome r => ∀ current alive, outcome = .ok (current, alive) → ADMIN_POLICY_NAME ∈ current.getD [] →
        alive.getD [] ≠ [] → r = { m with admin := some (s.username, 0), alive := some (s.vaultToken, 0) }) m := by
    refine Follows.bind ((userPolicies_follows m).mono fun outcome r known => ?_)
    cases outcome with
    | error exn => exact fun current alive same => by cases same
    | ok current =>
      refine Follows.bind ((tokenPolicies_follows r).mono fun outcome r' known' => ?_)
      cases outcome with
      | error exn => exact fun current alive same => by cases same
      | ok alive =>
        rintro current' alive' ⟨⟩ admin token
        rw [known' _ rfl token, known _ rfl admin]
  refine Follows.bind (Follows.onError (admit_follows (fun exn r => ?_) (asked.mono fun outcome r known => ?_)))
  · dsimp only
    split <;> trivial
  · rcases outcome with exn | ⟨current, alive⟩
    · dsimp only
      split <;> trivial
    · change Asked s m (.ok ((current.getD []).contains ADMIN_POLICY_NAME && decide ((alive.getD []) ≠ []))) r
      cases rights : (current.getD []).contains ADMIN_POLICY_NAME && decide ((alive.getD []) ≠ []) with
      | false => trivial
      | true =>
        simp only [Bool.and_eq_true, List.contains_iff_mem, decide_eq_true_eq] at rights
        exact known current alive rfl rights.1 rights.2

/-- A session that is given was read before, and has been stamped. -/
theorem touch_judged {sid : String} {checked : Bool} {m : Mind} {judged : Time} (row : m.row = some (⟨sid⟩, s))
    (at_ : m.judged = some judged)
    (pending : if checked then m.admin = some (s.username, 0) ∧ m.alive = some (s.vaultToken, 0)
      else judged ≤ s.lastCheck + seconds site.cfg.sessionRecheckSeconds) :
    ((touchSession sid checked).bind fun _ => (.ret (some s) : Portal (Option Session))).Follows (judging site)
      (fun _ _ => True) m := by
  refine Follows.bind (Follows.bind (Follows.perform trivial fun answer => ?_))
  cases answer with
  | error exn => trivial
  | ok now =>
    refine Follows.perform ?_ fun answer => ?_
    · cases checked with
      | true =>
        obtain ⟨admin, alive⟩ := pending
        have complete : m.complete now = some ⟨s.username, s.vaultToken, 0, 0, now⟩ := by
          simp only [Mind.complete, admin, alive]
        have kept : (if (m.complete now).isSome then m.judged else m.judged.or (some now)) = some judged := by
          rw [complete]
          exact at_
        exact ⟨s, judged, row, kept, _, complete, ⟨rfl, rfl⟩, rfl⟩
      | false =>
        have kept : (if (m.complete now).isSome then m.judged else m.judged.or (some now)) = some judged := by
          rw [at_]
          split <;> rfl
        exact ⟨s, judged, row, kept, pending⟩
    · cases answer <;> trivial

theorem stampless_endSession (sid : String) : (endSession sid s).All Op.stampless :=
  All.bind (stampless_ask _ trivial) fun _ => stampless_revokeToken _

theorem checkSession_judged {sid : String} {now : Time} {m : Mind} (row : m.row = some (⟨sid⟩, s))
    (judged : m.judged = some now) : (checkSession site sid s now).Follows (judging site) (fun _ _ => True) m := by
  refine Follows.cond (fun _ => ?_) fun _ => Follows.cond (fun _ => ?_) fun recent => ?_
  · refine Stampless.of_all (All.bind (stampless_endSession sid) fun _ => ?_) m
    trivial
  · refine Follows.bind ((recheck_follows m).mono fun outcome r asked => ?_)
    cases outcome with
    | error exn => trivial
    | ok rights =>
      cases rights with
      | true =>
        subst asked
        exact touch_judged row judged ⟨rfl, rfl⟩
      | false =>
        refine Stampless.of_all (All.bind (stampless_endSession sid) fun _ => ?_) r
        exact All.bind (stampless_audit _ _ _ _ _ _) fun _ => trivial
  · exact touch_judged row judged (Nat.le_of_not_lt recent)

theorem currentSession_judged : (currentSession site req).Follows (judging site) (fun _ _ => True) {} := by
  unfold currentSession
  split
  · trivial
  · rename_i sid _
    refine Follows.bind (Follows.perform trivial fun answer => ?_)
    rcases answer with exn | _ | s
    · trivial
    · trivial
    · refine Follows.bind (Follows.perform trivial fun answer => ?_)
      cases answer with
      | error exn => trivial
      | ok now => exact checkSession_judged rfl rfl

theorem requireAdmin_judged {f : Session → Portal β} (rest : ∀ s, Stampless site (f s)) :
    ((requireAdmin site req).bind f).Follows (judging site) (fun _ _ => True) {} := by
  refine Follows.bind (Follows.bind (currentSession_judged.mono fun outcome r _ => ?_))
  rcases outcome with exn | _ | s
  · trivial
  · trivial
  · have checked : (if req.route.safe then (.ret s : Portal Session)
      else (lift (checkOrigin site req)).bind fun _ => (lift (compareDigest (submittedToken req) s.csrf)).bind fun same =>
        if same then .ret s else .raise (httpException 403 "missing or invalid CSRF token")).All Op.stampless :=
      All.cond trivial (All.bind (All.ofExcept _) fun _ => All.bind (All.ofExcept _) fun same => All.cond trivial trivial)
    refine (Stampless.of_all checked r).mono fun outcome r' _ => ?_
    cases outcome with
    | error exn => trivial
    | ok s => exact rest s r'

/-- A log-in stamps the new session with the check it is. -/
theorem createSession_judged {username : String} {token : Secret} {m : Mind} (admin : m.admin = some (username, 0))
    (alive : m.alive = some (token, 0)) :
    (createSession username token).Follows (judging site) (fun _ _ => True) m := by
  have drawn {f : String → Portal String} (rest : ∀ text, (f text).Follows (judging site) (fun _ _ => True) m) :
      ((ask .tokenUrlsafe).bind f).Follows (judging site) (fun _ _ => True) m := by
    refine Follows.bind (Follows.perform trivial fun answer => ?_)
    cases answer with
    | error exn => trivial
    | ok text => exact rest text
  refine drawn fun sid => drawn fun csrf => Follows.bind (Follows.perform trivial fun answer => ?_)
  cases answer with
  | error exn => trivial
  | ok now =>
    have complete : m.complete now = some ⟨username, token, 0, 0, now⟩ := by simp only [Mind.complete, admin, alive]
    refine Follows.bind (Follows.perform ⟨_, complete, ⟨rfl, rfl⟩, rfl⟩ fun answer => ?_)
    cases answer <;> trivial

theorem replaceSession_judged (m : Mind) : (forGiven req.sid replaceSession).Follows (judging site)
    (fun _ r => r.admin = m.admin ∧ r.alive = m.alive) m := by
  unfold forGiven
  split
  · refine Follows.bind (Follows.perform trivial fun answer => ?_)
    have quiet {s : Session} {r : Mind} (same : r.admin = m.admin ∧ r.alive = m.alive) :
        (revokeTokenQuietly s.vaultToken).Follows (judging site) (fun _ r => r.admin = m.admin ∧ r.alive = m.alive) r := by
      refine Follows.onError (Follows.perform trivial fun answer => ?_)
      cases answer <;> exact same
    cases answer with
    | error exn => exact ⟨rfl, rfl⟩
    | ok row =>
      refine Follows.bind (Follows.perform trivial fun answer => ?_)
      cases answer with
      | error exn => exact ⟨rfl, rfl⟩
      | ok _ =>
        change Option Session at row
        cases row with
        | none => exact ⟨rfl, rfl⟩
        | some s => exact quiet ⟨rfl, rfl⟩
  · exact ⟨rfl, rfl⟩

theorem admitAdmin_judged {username : String} {token : Secret} {policies : List String} {m : Mind}
    (told : ADMIN_POLICY_NAME ∈ policies → m.admin = some (username, 0) ∧ m.alive = some (token, 0)) :
    (admitAdmin req username token policies).Follows (judging site) (fun _ _ => True) m := by
  refine Follows.cond (fun _ => ?_) fun admin => ?_
  · refine Stampless.of_all (All.bind (stampless_revokeToken _) fun _ => All.bind (stampless_loginPage _ _ _) fun _ => ?_) m
    trivial
  · refine Follows.bind ((replaceSession_judged m).mono fun outcome r same => ?_)
    obtain ⟨user, alive⟩ := told (not_not.mp admin)
    cases outcome with
    | error exn => trivial
    | ok _ =>
      refine Follows.bind ((createSession_judged (same.1.trans user) (same.2.trans alive)).mono fun outcome r' _ => ?_)
      cases outcome with
      | error exn => trivial
      | ok sid =>
        refine Stampless.of_all (All.bind (stampless_audit _ _ _ _ _ _) fun _ => ?_) r'
        trivial

theorem loginAdmitted_judged (username password : String) (m : Mind) :
    (loginAdmitted req username password).Follows (judging site) (fun _ _ => True) m := by
  have refused (r : Mind) : ((loginPage req "Invalid credentials" 401 username).bind fun page =>
      (.ret (.inl page) : Portal (Response ⊕ String))).Follows (judging site) (fun _ _ => True) r := by
    refine Stampless.of_all (All.bind (stampless_loginPage _ _ _) fun _ => ?_) r
    trivial
  refine Follows.cond (fun _ => refused m) fun _ => ?_
  have asked : (userpassLogin username password).Follows (judging site) (fun outcome r => ∀ token policies,
      outcome = .ok (token, policies) → ADMIN_POLICY_NAME ∈ policies →
        r.admin = some (username, 0) ∧ r.alive = some (token, 0)) m := by
    refine Follows.onError (Follows.perform trivial fun answer => ?_)
    cases answer with
    | ok logged =>
      change Secret × List String at logged
      rintro token policies ⟨⟩ admin
      have heard : m.hears 0 (.userpassLogin username password) (.ok (token, policies)) =
          { m with admin := some (username, 0), alive := some (token, 0) } := if_pos admin
      change (m.hears 0 (.userpassLogin username password) (.ok (token, policies))).admin = _ ∧ _
      rw [show (judging site).after m (.userpassLogin username password) (.ok (token, policies)) =
        m.hears 0 (.userpassLogin username password) (.ok (token, policies)) from rfl, heard]
      exact ⟨rfl, rfl⟩
    | error exn =>
      refine Follows.cond (fun _ => ?_) fun _ => Follows.cond (fun _ => ?_) fun _ => ?_ <;> exact fun _ _ same => by cases same
  refine Follows.bind (Follows.onError (Follows.bind (asked.mono fun outcome r told => ?_)))
  cases outcome with
  | error exn =>
    refine Follows.cond (fun _ => ?_) fun _ => ?_
    · exact refused r
    · trivial
  | ok logged =>
    obtain ⟨token, policies⟩ := logged
    exact admitAdmin_judged (told token policies rfl)

theorem loginSubmit_judged (m : Mind) : (loginSubmit site req).Follows (judging site) (fun _ _ => True) m := by
  have logged (m : Mind) : (doLogin req req.form.username req.form.password).Follows (judging site) (fun _ _ => True) m := by
    refine Follows.bind (Follows.onError (admit_follows (fun exn r => ?_) ((loginAdmitted_judged _ _ m).mono
      fun outcome r _ => ?_)))
    · exact Follows.cond (fun _ => trivial) fun _ => trivial
    · cases outcome with
      | error exn => exact Follows.cond (fun _ => trivial) fun _ => trivial
      | ok outcome => cases outcome <;> trivial
  have lifted {γ : Type} (outcome : Except Exc γ) {f : γ → Portal Response} (m : Mind)
      (rest : ∀ value, (f value).Follows (judging site) (fun _ _ => True) m) :
      ((lift outcome).bind f).Follows (judging site) (fun _ _ => True) m := by
    cases outcome with
    | error exn => trivial
    | ok value => exact rest value
  refine lifted _ m fun _ => Follows.cond (fun _ => trivial) fun _ => lifted _ m fun same => ?_
  exact Follows.cond (fun _ => logged m) fun _ => trivial

theorem dispatch_judged : (dispatch site req).Follows (judging site) (fun _ _ => True) {} := by
  have plain {p : Portal Response} (all : p.All Op.stampless) : Stampless site p := Stampless.of_all all
  have admin {f : Session → Portal Response} (rest : ∀ s, (f s).All Op.stampless) :
      ((requireAdmin site req).bind f).Follows (judging site) (fun _ _ => True) {} :=
    requireAdmin_judged fun s => plain (rest s)
  unfold dispatch
  cases req.route with
  | healthz => trivial
  | loginForm error =>
    refine plain (All.bind (stampless_ask .tokenUrlsafe trivial) fun _ => ?_) _
    trivial
  | login => exact loginSubmit_judged _
  | logout =>
    exact admin fun s => All.bind (stampless_ask _ trivial) fun _ => All.bind (stampless_revokeToken _) fun _ =>
      All.bind (stampless_audit _ _ _ _ _ _) fun _ => trivial
  | index => exact admin fun s => stampless_indexPage _ _ _
  | createGrantForm => exact admin fun s => stampless_createGrantForm
  | revokeGrant api id => exact admin fun s => All.bind (stampless_matched id) fun id => stampless_revokeGrant id
  | apiSession => exact admin fun s => trivial
  | apiCreateGrant body =>
    cases body with
    | malformed message => trivial
    | invalid message => exact admin fun s => trivial
    | accepted body =>
      exact admin fun s => All.cond (All.bind (stampless_issueGrant body) fun _ => trivial) trivial
  | apiListGrants => exact admin fun s => All.bind (stampless_ask (.listGrants 500) trivial) fun _ => trivial
  | apiListTables db => exact admin fun s => All.bind (stampless_matched db) fun db => stampless_apiListTables db
  | settingsPage message => exact admin fun s => trivial
  | rotateConnection db => exact admin fun s => All.bind (stampless_matched db) fun db => stampless_rotateConnection db

theorem stampless_of_pass {p : Portal α} (all : p.All Op.ofPass) : p.All Op.stampless := by
  refine all.mono fun op ofPass => ?_
  cases op
  case touchSession | createSession => exact ofPass.elim
  all_goals trivial

theorem stampless_reconcileOnce : reconcileOnce.All Op.stampless := by
  refine All.bind (stampless_ask _ trivial) fun now => All.bind (stampless_ask _ trivial) fun rows => ?_
  refine All.bind (All.forEach fun g _ => stampless_of_pass (ofPass_reconcileRow now g)) fun _ => ?_
  refine All.bind (All.bind (stampless_ask _ trivial) fun _ => stampless_ask _ trivial) fun purged => ?_
  exact All.bind (All.forEach fun session _ => stampless_revokeToken _) fun _ => stampless_of_pass ofPass_reportOrphans

theorem Duty.judged (duty : Duty) : (duty.code site).Follows (judging site) (fun _ _ => True) {} := by
  cases duty with
  | serves req =>
    refine Follows.bind (Follows.attempt (dispatch_judged.mono fun outcome r _ => ?_))
    cases outcome with
    | ok response => exact Stampless.of_all (stampless_ask (.respond response) trivial) r
    | error exn => exact Stampless.of_all (stampless_ask (.respond (answer req exn)) trivial) r
  | reconciles => exact Stampless.of_all stampless_reconcileOnce _

end walk

/-- What Vault has said, and to whom: the checks that were made, the ids of sessions that were made or looked up, and
the minds of the threads. -/
structure Rights where
  checks : List Check
  named : List Digest
  mind : Nat → Mind

namespace Rights

def empty : Rights := ⟨[], [], fun _ => {}⟩

/-- The ids that a call shows. -/
def names (g : Rights) : Op → List Digest
  | .getSession sid => sid :: g.named
  | .createSession session => session.sid :: g.named
  | _ => g.named

def note (t : Nat) (op : Op) (v : World) (answer : Except Exc (Ans op)) (_ : World) (g : Rights) : Rights :=
  let m := (g.mind t).hears v.clock op answer
  { checks := if op = .now then m.last.toList ++ g.checks else g.checks
    named := g.names op
    mind := Function.update g.mind t m }

/-- What is left when the process dies. -/
def reset (g : Rights) : Rights := { g with mind := fun _ => {} }

end Rights

/-- The machine with a record of the checks. -/
def judged : Machine calls Exc (World × Rights) Nat Choice Event :=
  { machine.recording Rights.note with reset := fun x => (x.1.reset, x.2.reset) }

abbrev Judged := Pool calls Exc (World × Rights) Nat

/-- A session id is new when its row is made, and the clock does not run backwards. -/
def Judged.Allows (s : Judged) : Turn → Prop
  | .run t _ => ∀ session next, s.threads t = some (.call (.createSession session) next) → session.sid ∉ s.world.2.named
  | .env event => ∀ w, event.happen s.world.1 = some w → s.world.1.clock ≤ w.clock
  | .spawn .. | .kill => True

/-- The states of the runs of logins, requests and passes, kills included. -/
abbrev Judged.Run (site : Site) (duties : Nat → Duty) : Judged → Prop :=
  Pool.Reach judged (fun t _ => (duties t).code site) Judged.Allows ⟨(World.initial, Rights.empty), fun _ => none⟩

/-- The check is known, and it has given the session the stamp of its last check. -/
def Rights.Vouches (g : Rights) (s : Session) : Prop := ∃ c ∈ g.checks, c.Covers s ∧ c.stamp = s.lastCheck

/-- What a mind has to do with the record and the world. -/
structure Mind.Sane (m : Mind) (w : World) (g : Rights) : Prop where
  row : ∀ sid s, m.row = some (sid, s) → sid ∈ g.named ∧ g.Vouches s ∧
    ∀ r ∈ w.store.sessions, r.sid = sid → r.username = s.username ∧ r.vaultToken = s.vaultToken
  last : ∀ c, m.last = some c → c ∈ g.checks ∧ ∀ judged, m.judged = some judged → judged ≤ c.admin ∧ judged ≤ c.alive
  judged : ∀ judged, m.judged = some judged → judged ≤ w.clock ∧ (∀ x, m.admin = some x → judged ≤ x.2) ∧
    ∀ x, m.alive = some x → judged ≤ x.2
  admin : ∀ x, m.admin = some x → x.2 ≤ w.clock
  alive : ∀ x, m.alive = some x → x.2 ≤ w.clock

/-- Every stamp of a session is vouched for. -/
structure Judged.Right (q : Nat → Mind) (x : World × Rights) : Prop where
  minds : ∀ t, q t = (x.2.mind t).timeless
  sane : ∀ t, (x.2.mind t).Sane x.1 x.2
  rows : ∀ r ∈ x.1.store.sessions, r.sid ∈ x.2.named ∧ x.2.Vouches r
  ids : (x.1.store.sessions.map (·.sid)).Nodup
  checks : ∀ c ∈ x.2.checks, c.admin ≤ c.stamp ∧ c.alive ≤ c.stamp

theorem Mind.sane_empty (w : World) (g : Rights) : ({} : Mind).Sane w g where
  row _ _ none := by cases none
  last _ none := by cases none
  judged _ none := by cases none
  admin _ none := by cases none
  alive _ none := by cases none

theorem Judged.right_start : Judged.Right (fun _ => {}) (World.initial, Rights.empty) where
  minds _ := rfl
  sane _ := Mind.sane_empty _ _
  rows _ member := by cases member
  ids := List.nodup_nil
  checks _ member := by cases member

section right
variable {site : Site} {q : Nat → Mind} {t : Nat} {op : Op} {c : Choice} {v w : World} {g : Rights}

theorem Rights.note_named (answer : Except Exc (Ans op)) : g.named ⊆ (Rights.note t op v answer w g).named := by
  intro sid member
  cases op
  case getSession | createSession => exact List.mem_cons_of_mem _ member
  all_goals exact member

theorem Rights.note_checks (answer : Except Exc (Ans op)) : g.checks ⊆ (Rights.note t op v answer w g).checks := by
  intro check member
  unfold note
  dsimp only
  split
  · exact List.mem_append_right _ member
  · exact member

theorem Rights.Vouches.mono {g' : Rights} {s : Session} (vouches : g.Vouches s) (more : g.checks ⊆ g'.checks) :
    g'.Vouches s := by
  obtain ⟨check, member, covers⟩ := vouches
  exact ⟨check, more member, covers⟩

/-- How a call can change a session row. -/
def Changed (op : Op) (v : World) (r : Session) : Prop :=
  (∃ r₀ ∈ v.store.sessions, r₀.sid = r.sid ∧ r₀.username = r.username ∧ r₀.vaultToken = r.vaultToken ∧
    (r₀.lastCheck = r.lastCheck ∨ op = .touchSession r.lastCheck r.sid true)) ∨ op = .createSession r

theorem effect_sessions (w : World) (t : Nat) (c : Choice) {r : Session}
    (member : r ∈ (w.effect t c op).store.sessions) : Changed op w r := by
  have same (member : r ∈ w.store.sessions) : Changed op w r := Or.inl ⟨r, member, rfl, rfl, rfl, Or.inl rfl⟩
  cases op
  case createSession session =>
    rcases List.mem_append.mp member with old | new
    · exact same old
    · rw [List.mem_singleton.mp new]
      exact Or.inr rfl
  case touchSession now sid checked =>
    obtain ⟨r₀, old, rfl⟩ := List.mem_map.mp member
    refine Or.inl ⟨r₀, old, ?_⟩
    by_cases touched : r₀.sid = sid
    · rw [if_pos touched]
      cases checked with
      | true => exact ⟨rfl, rfl, rfl, Or.inr (by rw [← touched]; rfl)⟩
      | false => exact ⟨rfl, rfl, rfl, Or.inl rfl⟩
    · rw [if_neg touched]
      exact ⟨rfl, rfl, rfl, Or.inl rfl⟩
  case deleteSession sid => exact same (List.mem_of_mem_filter member)
  case purgeSessions now => exact same (List.mem_of_mem_filter member)
  case mark m => cases m <;> exact same member
  case updateGrant now id fields =>
    refine same ?_
    simp only [World.effect, World.updated, World.noteWrite] at member
    split at member <;> exact member
  case runStatement db text account =>
    refine same ?_
    rw [World.effect] at member
    cases ran : w.statement db text account c.count with
    | none => rw [ran] at member; exact member
    | some w' =>
      rw [ran] at member
      rcases World.statement_cases ran with ⟨-, rfl⟩ | ⟨_, _, -, -, rfl⟩
      · exact member
      · exact member
  all_goals exact same member

theorem exec_sessions {answer : Except Exc (Ans op)} (executed : exec t op c v = some (answer, w)) {r : Session}
    (member : r ∈ w.store.sessions) : Changed op v r := by
  rcases exec_effect executed with rfl | ⟨rfl, -⟩
  · exact Or.inl ⟨r, member, rfl, rfl, rfl, Or.inl rfl⟩
  · exact effect_sessions v t c member

theorem effect_clock (w : World) (t : Nat) (c : Choice) : w.clock ≤ (w.effect t c op).clock := by
  cases op
  case sleep span => exact Nat.le_add_right _ _
  case mark m => cases m <;> exact Nat.le_refl _
  case updateGrant now id fields =>
    simp only [World.effect, World.updated, World.noteWrite]
    split <;> exact Nat.le_refl _
  case runStatement db text account =>
    rw [World.effect]
    cases ran : w.statement db text account c.count with
    | none => exact Nat.le_refl _
    | some w' =>
      rcases World.statement_cases ran with ⟨-, rfl⟩ | ⟨_, _, -, -, rfl⟩
      · exact Nat.le_refl _
      · exact Nat.le_refl _
  all_goals exact Nat.le_refl _

theorem exec_clock {answer : Except Exc (Ans op)} (executed : exec t op c v = some (answer, w)) : v.clock ≤ w.clock := by
  rcases exec_effect executed with rfl | ⟨rfl, -⟩
  · exact Nat.le_refl _
  · exact effect_clock v t c

theorem exec_ids {answer : Except Exc (Ans op)} (executed : exec t op c v = some (answer, w))
    (ids : (v.store.sessions.map (·.sid)).Nodup)
    (new : ∀ session, op = .createSession session → session.sid ∉ v.store.sessions.map (·.sid)) :
    (w.store.sessions.map (·.sid)).Nodup := by
  have held (u : World) : u.store.sessions.map (·.sid) = u.held.map (·.1) := by simp [World.held, Function.comp_def]
  rcases exec_effect executed with rfl | ⟨rfl, -⟩
  · exact ids
  · by_cases sessionless : op.sessionless
    · rw [held, effect_held sessionless, ← held]
      exact ids
    · cases op
      case createSession session =>
        simp only [World.effect, Store.createSession, List.map_append, List.map_cons, List.map_nil]
        exact List.nodup_append.mpr ⟨ids, List.nodup_singleton _, fun a member b single => by
          rw [List.mem_singleton.mp single]
          rintro rfl
          exact new session rfl member⟩
      case deleteSession sid => exact ids.sublist (List.filter_sublist.map _)
      case purgeSessions now => exact ids.sublist (List.filter_sublist.map _)
      all_goals exact absurd trivial sessionless

/-- What a mind knows lasts. -/
theorem Mind.Sane.later {m : Mind} {g' : Rights} (sane : m.Sane v g) (named : g.named ⊆ g'.named)
    (checks : g.checks ⊆ g'.checks) (clock : v.clock ≤ w.clock) (rows : ∀ r ∈ w.store.sessions, Changed op v r)
    (new : ∀ session, op = .createSession session → session.sid ∉ g.named) : m.Sane w g' := by
  refine ⟨fun sid s row => ?_, fun check last => ?_, fun judged known => ?_, fun x known => ?_, fun x known => ?_⟩
  · obtain ⟨there, vouches, owner⟩ := sane.row sid s row
    refine ⟨named there, vouches.mono checks, fun r member same => ?_⟩
    rcases rows r member with ⟨r₀, old, id, user, token, -⟩ | made
    · rw [← user, ← token]
      exact owner r₀ old (id.trans same)
    · exact absurd (same ▸ there) (new r made)
  · exact ⟨checks (sane.last check last).1, (sane.last check last).2⟩
  · obtain ⟨before, rest⟩ := sane.judged judged known
    exact ⟨before.trans clock, rest⟩
  · exact (sane.admin x known).trans clock
  · exact (sane.alive x known).trans clock

/-- A call that tells a thread nothing. -/
def Op.mute : Op → Prop
  | .now | .getSession _ | .readUser _ | .lookupSelf _ | .userpassLogin .. => False
  | _ => True

theorem Mind.hears_mute (mute : op.mute) (m : Mind) (time : Time) (answer : Except Exc (Ans op)) :
    m.hears time op answer = m := by
  cases op
  case now | getSession | readUser | lookupSelf | userpassLogin => exact mute.elim
  all_goals cases answer <;> rfl

/-- A call that tells a thread something changes nothing. -/
theorem exec_tells {answer : Except Exc (Ans op)} (tells : ¬op.mute) (executed : exec t op c v = some (answer, w)) :
    w = v := by
  rcases exec_effect executed with same | ⟨same, -⟩
  · exact same
  · cases op
    case now | getSession | readUser | lookupSelf | userpassLogin => exact same
    all_goals exact absurd trivial tells

theorem Mind.Sane.more {m : Mind} {g' : Rights} (sane : m.Sane v g) (named : g.named ⊆ g'.named)
    (checks : g.checks ⊆ g'.checks) : m.Sane v g' :=
  sane.later named checks (Nat.le_refl _)
    (fun r member => (Or.inl ⟨r, member, rfl, rfl, rfl, Or.inl rfl⟩ : Changed .now v r)) fun _ other => by cases other

/-- Vault has answered now. -/
theorem Mind.Sane.answered {m m' : Mind} (sane : m.Sane v g) (row : m'.row = m.row) (judged : m'.judged = m.judged)
    (last : m'.last = m.last) (admin : ∀ x, m'.admin = some x → m.admin = some x ∨ x.2 = v.clock)
    (alive : ∀ x, m'.alive = some x → m.alive = some x ∨ x.2 = v.clock) : m'.Sane v g := by
  refine ⟨by rw [row]; exact sane.row, by rw [last, judged]; exact sane.last, fun at_ known => ?_, fun x known => ?_,
    fun x known => ?_⟩
  · rw [judged] at known
    obtain ⟨before, users, tokens⟩ := sane.judged at_ known
    refine ⟨before, fun x known => ?_, fun x known => ?_⟩
    · rcases admin x known with old | now
      · exact users x old
      · rw [now]
        exact before
    · rcases alive x known with old | now
      · exact tokens x old
      · rw [now]
        exact before
  · rcases admin x known with old | now
    · exact sane.admin x old
    · exact now.le
  · rcases alive x known with old | now
    · exact sane.alive x old
    · exact now.le

/-- A clock reading, which may complete a check. -/
theorem Mind.Sane.reads {m : Mind} (sane : m.Sane v g) :
    (m.hears v.clock .now (.ok v.clock)).Sane v { g with checks := (m.complete v.clock).toList ++ g.checks } := by
  have more : g.checks ⊆ (m.complete v.clock).toList ++ g.checks := List.subset_append_right _ _
  have still : m.Sane v { g with checks := (m.complete v.clock).toList ++ g.checks } :=
    sane.more (List.Subset.refl _) more
  have judged (at_ : Time) (known : (m.hears v.clock .now (.ok v.clock)).judged = some at_) :
      m.judged = some at_ ∨ at_ = v.clock ∧ m.complete v.clock = none := by
    have known : (if (m.complete v.clock).isSome then m.judged else m.judged.or (some v.clock)) = some at_ := known
    cases complete : m.complete v.clock with
    | some check =>
      rw [complete] at known
      exact Or.inl known
    | none =>
      rw [complete] at known
      cases before : m.judged with
      | none => rw [before] at known; exact Or.inr ⟨(Option.some.inj known).symm, rfl⟩
      | some early => rw [before] at known; exact Or.inl known
  have unsaid {α : Type} {φ : α → Prop} (x : α) (said : none = some x) : φ x := by cases said
  refine ⟨still.row, fun check last => ⟨?_, fun at_ known => ?_⟩, fun at_ known => ⟨?_, unsaid, unsaid⟩, unsaid, unsaid⟩
  · have last : m.complete v.clock = some check := last
    simp [last]
  · have last : m.complete v.clock = some check := last
    rcases judged at_ known with before | ⟨-, none⟩
    · obtain ⟨-, users, tokens⟩ := sane.judged at_ before
      unfold complete at last
      split at last
      · rename_i username admin token alive user live
        cases last
        exact ⟨users _ user, tokens _ live⟩
      · cases last
    · rw [none] at last
      cases last
  · rcases judged at_ known with before | ⟨now, -⟩
    · exact (sane.judged at_ before).1
    · exact now.le

/-- What a thread has just been told is so. -/
theorem Mind.Sane.told {m : Mind} {answer : Except Exc (Ans op)} (sane : m.Sane v g) (tells : ¬op.mute)
    (rows : ∀ r ∈ v.store.sessions, g.Vouches r) (ids : (v.store.sessions.map (·.sid)).Nodup)
    (executed : exec t op c v = some (answer, w)) :
    (m.hears v.clock op answer).Sane v
      ⟨if op = .now then (m.hears v.clock op answer).last.toList ++ g.checks else g.checks, g.names op, g.mind⟩ := by
  cases op
  case now =>
    cases executed
    exact sane.reads
  case getSession sid =>
    have still : m.Sane v ⟨g.checks, sid :: g.named, g.mind⟩ :=
      sane.more (List.subset_cons_self _ _) (List.Subset.refl _)
    rcases settle_cases executed with ⟨rfl, -, -⟩ | ⟨e, rfl, -⟩
    · refine ⟨fun id s row => ?_, fun check last => ⟨(still.last check last).1, fun _ unsaid => by cases unsaid⟩,
        fun _ unsaid => (by cases unsaid), still.admin, still.alive⟩
      have row : (v.store.getSession sid).map (fun s => (sid, s)) = some (id, s) := row
      obtain ⟨found, read, same⟩ := Option.map_eq_some_iff.mp row
      obtain ⟨rfl, rfl⟩ : sid = id ∧ found = s := by simpa using same
      have member := List.mem_of_find?_eq_some read
      have named : found.sid = sid := by simpa using List.find?_some read
      refine ⟨List.mem_cons_self, rows found member, fun r there same => ?_⟩
      have one : r = found := List.inj_on_of_nodup_map ids there member (same.trans named.symm)
      rw [one]
      exact ⟨rfl, rfl⟩
    · exact still
  case readUser username =>
    rcases settle_cases executed with ⟨rfl, -, -⟩ | ⟨e, rfl, -⟩
    · refine sane.answered rfl rfl rfl (fun x known => Or.inr ?_) fun x known => Or.inl known
      simp only [hears, Option.ite_none_right_eq_some, Option.some.injEq] at known
      rw [← known.2]
    · exact sane
  case lookupSelf token =>
    rcases settle_cases executed with ⟨rfl, -, -⟩ | ⟨e, rfl, -⟩
    · refine sane.answered rfl rfl rfl (fun x known => Or.inl known) fun x known => Or.inr ?_
      simp only [hears, Option.ite_none_right_eq_some, Option.some.injEq] at known
      rw [← known.2]
    · exact sane
  case userpassLogin username password =>
    rcases settle_cases executed with ⟨rfl, -, -⟩ | ⟨e, rfl, -⟩
    · by_cases admin : ADMIN_POLICY_NAME ∈ c.names
      · have heard : m.hears v.clock (.userpassLogin username password) (.ok (c.secret, c.names)) =
            { m with admin := some (username, v.clock), alive := some (c.secret, v.clock) } := if_pos admin
        rw [heard]
        refine sane.answered rfl rfl rfl (fun x known => Or.inr ?_) fun x known => Or.inr ?_
        · rw [← Option.some.inj known]
        · rw [← Option.some.inj known]
      · have heard : m.hears v.clock (.userpassLogin username password) (.ok (c.secret, c.names)) = m := if_neg admin
        rw [heard]
        exact sane
    · exact sane
  all_goals exact absurd trivial tells

/-- A check that the thread knows of, up to the times. -/
theorem Mind.timeless_last {m : Mind} {check : Check} (last : m.timeless.last = some check) :
    ∃ known, m.last = some known ∧ known.username = check.username ∧ known.token = check.token ∧
      known.stamp = check.stamp := by
  obtain ⟨known, at_, rfl⟩ := Option.map_eq_some_iff.mp last
  exact ⟨known, at_, rfl, rfl, rfl⟩

namespace Judged.Right

/-- A row that a call leaves is vouched for. -/
theorem rows_after {answer : Except Exc (Ans op)} (right : Judged.Right q (v, g))
    (allowed : (judging site).allows (q t) op) (executed : exec t op c v = some (answer, w)) {r : Session}
    (member : r ∈ w.store.sessions) :
    r.sid ∈ (Rights.note t op v answer w g).named ∧ (Rights.note t op v answer w g).Vouches r := by
  have checks : g.checks ⊆ (Rights.note t op v answer w g).checks := Rights.note_checks answer
  have named : g.named ⊆ (Rights.note t op v answer w g).named := Rights.note_named answer
  rcases exec_sessions executed member with ⟨r₀, old, id, user, token, stamp⟩ | made
  · obtain ⟨there, check, known, covers, stamped⟩ := right.rows r₀ old
    refine ⟨named (id ▸ there), ?_⟩
    rcases stamp with stamp | touched
    · exact ⟨check, checks known, ⟨covers.1.trans user, covers.2.trans token⟩, stamped.trans stamp⟩
    · subst touched
      obtain ⟨s, judged, row, -, check, last, covers, stamped⟩ := allowed
      rw [right.minds t] at row last
      obtain ⟨known, last, username, secret, time⟩ := Mind.timeless_last last
      obtain ⟨-, -, owner⟩ := (right.sane t).row _ _ row
      obtain ⟨same, alike⟩ := owner r₀ old id
      refine ⟨known, checks ((right.sane t).last known last).1, ⟨?_, ?_⟩, time.trans stamped⟩
      · rw [username, covers.1, ← same, user]
      · rw [secret, covers.2, ← alike, token]
  · subst made
    obtain ⟨check, last, covers, stamped⟩ := allowed
    rw [right.minds t] at last
    obtain ⟨known, last, username, secret, time⟩ := Mind.timeless_last last
    refine ⟨List.mem_cons_self, known, checks ((right.sane t).last known last).1, ⟨?_, ?_⟩, time.trans stamped⟩
    · rw [username, covers.1]
    · rw [secret, covers.2]

theorem own {answer : Except Exc (Ans op)} (right : Judged.Right q (v, g)) (allowed : (judging site).allows (q t) op)
    (executed : exec t op c v = some (answer, w))
    (new : ∀ session, op = .createSession session → session.sid ∉ g.named) :
    Judged.Right (Function.update q t ((judging site).after (q t) op answer)) (w, Rights.note t op v answer w g) := by
  have checks : g.checks ⊆ (Rights.note t op v answer w g).checks := Rights.note_checks answer
  have named : g.named ⊆ (Rights.note t op v answer w g).named := Rights.note_named answer
  have ids : (v.store.sessions.map (·.sid)).Nodup := right.ids
  refine ⟨fun u => ?_, fun u => ?_, fun r member => right.rows_after allowed executed member,
    exec_ids executed ids fun session made there => ?_, fun check member => ?_⟩
  · by_cases same : u = t
    · subst same
      simp only [Rights.note, Function.update_self, judging, right.minds u, Mind.hears_timeless]
    · simp only [Rights.note, Function.update_of_ne same, right.minds u]
  · by_cases same : u = t
    · subst same
      simp only [Rights.note, Function.update_self]
      by_cases mute : op.mute
      · rw [Mind.hears_mute mute]
        have later := (right.sane u).later named checks (exec_clock executed) (fun r => exec_sessions executed) new
        rwa [Rights.note, Mind.hears_mute mute] at later
      · have still := exec_tells mute executed
        subst still
        have told := (right.sane u).told mute (fun r member => (right.rows r member).2) ids executed
        exact told.more (List.Subset.refl _) (List.Subset.refl _)
    · simp only [Rights.note, Function.update_of_ne same]
      exact ((right.sane u).later named checks (exec_clock executed) (fun r => exec_sessions executed) new).more
        (List.Subset.refl _) (List.Subset.refl _)
  · obtain ⟨row, member, same⟩ := List.mem_map.mp there
    exact new session made (same ▸ (right.rows row member).1)
  · simp only [Rights.note] at member
    by_cases reading : op = .now
    · subst reading
      cases executed
      rw [if_pos rfl] at member
      rcases List.mem_append.mp member with fresh | old
      · have last : (g.mind t).complete v.clock = some check := Option.mem_toList.mp fresh
        unfold Mind.complete at last
        split at last
        · rename_i username admin token alive user live
          cases last
          exact ⟨(right.sane t).admin _ user, (right.sane t).alive _ live⟩
        · cases last
      · exact right.checks check old
    · rw [if_neg reading] at member
      exact right.checks check member

end Judged.Right
end right

section runs
variable {site : Site} {duties : Nat → Duty} {s : Judged}

theorem Judged.guides : Protocol.Guides (fun _ => judging site) judged (fun t _ => (duties t).code site) Judged.Allows
    Judged.Right {} (fun _ => True) where
  own := by
    intro s t choice op next answer x q allowed at_t right follows executed
    obtain ⟨executed, noted⟩ := Interaction.Machine.recording_exec executed
    rw [← Prod.mk.eta (p := x), noted]
    refine right.own follows executed fun session same => ?_
    subst same
    exact allowed session next at_t
  env := by
    intro s event x q allowed moved right
    obtain ⟨w, happened, rfl⟩ := Option.map_eq_some_iff.mp moved
    have store := Event.happen_store happened
    refine ⟨right.minds, fun t => ?_, ?_, ?_, right.checks⟩
    · refine (right.sane t).later (List.Subset.refl _) (List.Subset.refl _) (allowed w happened)
        (fun r member => (Or.inl ⟨r, store ▸ member, rfl, rfl, rfl, Or.inl rfl⟩ : Changed .now s.world.1 r))
        fun _ other => by cases other
    · rw [store]
      exact right.rows
    · rw [store]
      exact right.ids
  reset := by
    intro s q allowed right
    exact ⟨fun _ => rfl, fun _ => Mind.sane_empty _ _, right.rows, right.ids, right.checks⟩
  entry t _ := (duties t).judged

theorem Judged.Run.right (run : Judged.Run site duties s) :
    ∃ q, Protocol.Guided (fun _ => judging site) Judged.Right {} (fun _ => True) q s :=
  Judged.guides.guided ⟨Judged.right_start, fun _ _ => rfl, fun _ _ at_t => by cases at_t⟩ run

/-- A request is given the session that it has read by its cookie, and only past a stamp of it. -/
theorem currentSession_stamps {req : Request} {trace : List (Exchange calls Exc)} {row : Session}
    (run : (currentSession site req).Runs trace (.ok (some row))) :
    ∃ id middle now checked, truthy req.sid = some id ∧
      trace = ⟨.getSession ⟨id⟩, .ok (some row)⟩ :: (middle ++ [⟨.touchSession now ⟨id⟩ checked, .ok ()⟩]) := by
  have stamped {sid : String} {checked : Bool} {r : Session} {rest : List (Exchange calls Exc)}
      (ran : ((touchSession sid checked).bind fun _ => (.ret (some r) : Portal (Option Session))).Runs rest
        (.ok (some row))) : r = row ∧ ∃ before now, rest = before ++ [⟨.touchSession now ⟨sid⟩ checked, .ok ()⟩] := by
    rcases Runs.of_bind ran with ⟨exn, -, same⟩ | ⟨⟨⟩, front, back, rfl, touched, returned⟩
    · cases same
    · obtain ⟨rfl, same⟩ := Runs.of_ret returned
      cases same
      rcases Runs.of_bind touched with ⟨exn, -, same⟩ | ⟨now, first, last, rfl, -, touch⟩
      · cases same
      · obtain rfl := Runs.of_perform touch
        exact ⟨rfl, first, now, List.append_nil _⟩
  have refused {γ : Type} {p : Portal γ} {rest : List (Exchange calls Exc)} {f : γ → Portal (Option Session)}
      (ran : (p.bind f).Runs rest (.ok (some row)))
      (none : ∀ value last, ¬(f value).Runs last (.ok (some row))) : False := by
    rcases Runs.of_bind ran with ⟨exn, -, same⟩ | ⟨value, _, last, -, -, returned⟩
    · cases same
    · exact none value last returned
  have nothing (last : List (Exchange calls Exc)) :
      ¬(.ret none : Portal (Option Session)).Runs last (.ok (some row)) := fun ran => by cases (Runs.of_ret ran).2
  have judged {sid : String} {r : Session} {now : Time} {rest : List (Exchange calls Exc)}
      (ran : (checkSession site sid r now).Runs rest (.ok (some row))) :
      r = row ∧ ∃ before now checked, rest = before ++ [⟨.touchSession now ⟨sid⟩ checked, .ok ()⟩] := by
    unfold checkSession at ran
    split at ran
    · exact (refused ran fun _ => nothing).elim
    · split at ran
      · rcases Runs.of_bind ran with ⟨exn, -, same⟩ | ⟨rights, front, back, rfl, -, decided⟩
        · cases same
        · cases rights with
          | true =>
            obtain ⟨same, before, now, rfl⟩ := stamped decided
            exact ⟨same, front ++ before, now, true, by simp⟩
          | false => exact (refused decided fun _ _ ran => refused ran fun _ => nothing).elim
      · obtain ⟨same, before, now, rfl⟩ := stamped ran
        exact ⟨same, before, now, false, rfl⟩
  unfold currentSession at run
  cases cookie : truthy req.sid with
  | none =>
    rw [cookie] at run
    cases (Runs.of_ret run).2
  | some id =>
    rw [cookie] at run
    rcases Runs.of_bind run with ⟨exn, -, same⟩ | ⟨found, front, back, rfl, read, ran⟩
    · cases same
    · cases found with
      | none => cases (Runs.of_ret ran).2
      | some r =>
        rcases Runs.of_bind ran with ⟨exn, -, same⟩ | ⟨now, first, last, rfl, -, ran⟩
        · cases same
        · obtain ⟨rfl, before, now, checked, rfl⟩ := judged ran
          refine ⟨id, first ++ before, now, checked, rfl, ?_⟩
          rw [Runs.of_perform read, List.append_assoc]
          rfl

/-- A pending stamp rests on a check that is no older than the interval. -/
theorem Judged.Run.stamp_fresh (run : Judged.Run site duties s) {t : Nat} {now : Time} {sid : Digest} {checked : Bool}
    {next : Except Exc (Ans (.touchSession now sid checked)) → Portal Unit}
    (at_t : s.threads t = some (.call (.touchSession now sid checked) next)) :
    ∃ row judged check, (s.world.2.mind t).row = some (sid, row) ∧ (s.world.2.mind t).judged = some judged ∧
      check ∈ s.world.2.checks ∧ check.Covers row ∧ check.admin ≤ check.stamp ∧ check.alive ≤ check.stamp ∧
      judged ≤ check.stamp + seconds site.cfg.sessionRecheckSeconds ∧
      (checked = true → judged ≤ check.admin ∧ judged ≤ check.alive) := by
  obtain ⟨q, guided⟩ := run.right
  have right := guided.inv
  have follows := guided.threads t _ at_t
  obtain ⟨row, judged, read, at_, pending⟩ := follows.1
  rw [right.minds t] at read at_ pending
  cases checked with
  | true =>
    obtain ⟨check, last, covers, -⟩ := pending
    obtain ⟨known, last, username, token, -⟩ := Mind.timeless_last last
    obtain ⟨member, within⟩ := (right.sane t).last known last
    obtain ⟨admin, alive⟩ := right.checks known member
    obtain ⟨user, live⟩ := within judged at_
    refine ⟨row, judged, known, read, at_, member, ⟨?_, ?_⟩, admin, alive, ?_, fun _ => ⟨user, live⟩⟩
    · rw [username, covers.1]
    · rw [token, covers.2]
    · exact (user.trans admin).trans (Nat.le_add_right _ _)
  | false =>
    obtain ⟨-, ⟨check, member, covers, stamp⟩, -⟩ := (right.sane t).row sid row read
    obtain ⟨admin, alive⟩ := right.checks check member
    refine ⟨row, judged, check, read, at_, member, covers, admin, alive, ?_, fun same => by cases same⟩
    rw [stamp]
    exact pending

/-- A request is given the session that it has read by its cookie, and only past a stamp of it; and a session is stamped
only on rights that Vault has confirmed: in this request, or in an earlier check or log-in whose stamp is no older than
the interval. -/
theorem Judged.Run.rights_fresh (run : Judged.Run site duties s) :
    (∀ req trace row, (currentSession site req).Runs trace (.ok (some row)) →
      ∃ id middle now checked, truthy req.sid = some id ∧
        trace = ⟨.getSession ⟨id⟩, .ok (some row)⟩ :: (middle ++ [⟨.touchSession now ⟨id⟩ checked, .ok ()⟩])) ∧
    ∀ t now sid checked next, s.threads t = some (.call (.touchSession now sid checked) next) →
      ∃ row judged check, (s.world.2.mind t).row = some (sid, row) ∧ (s.world.2.mind t).judged = some judged ∧
        check ∈ s.world.2.checks ∧ check.Covers row ∧ check.admin ≤ check.stamp ∧ check.alive ≤ check.stamp ∧
        judged ≤ check.stamp + seconds site.cfg.sessionRecheckSeconds ∧
        (checked = true → judged ≤ check.admin ∧ judged ≤ check.alive) :=
  ⟨fun _ _ _ stamped => currentSession_stamps stamped, fun _ _ _ _ _ at_t => run.stamp_fresh at_t⟩

/-- The test of `Judged.Allows`, step by step. -/
def Judged.admits (s : Judged) : Turn → Bool
  | .run t _ =>
    match s.threads t with
    | some (.call (.createSession session) _) => decide (session.sid ∉ s.world.2.named)
    | _ => true
  | .env (.tick _) | .spawn .. | .kill => true
  | .env _ => false

theorem Judged.admits_ok (s : Judged) (label : Turn) (tested : s.admits label = true) : s.Allows label := by
  cases label with
  | run t choice =>
    intro session next at_t
    simp only [admits, at_t, decide_eq_true_eq] at tested
    exact tested
  | env event =>
    cases event
    case tick span =>
      intro w happened
      cases happened
      exact Nat.le_add_right _ _
    all_goals cases tested
  | spawn => trivial
  | kill => trivial

/-- Choices with which Vault confirms the rights of a user. -/
def Op.confirmed : Op → Choice
  | .readUser _ | .lookupSelf _ => { names := [ADMIN_POLICY_NAME] }
  | op => op.welcome

def Judged.turn (t : Nat) (s : Judged) : Turn :=
  match s.threads t with
  | some (.call op _) => .run t op.confirmed
  | _ => .run t {}

/-- A log-in, and long after it a request up to its stamp. -/
def recheckedState : Judged :=
  Pool.play judged (fun t _ => (loginThenLogout t).code someSite) Judged.admits
    ((fun _ => .spawn 0 ()) :: List.replicate 12 (Judged.turn 0) ++
      (fun _ => .env (.tick (seconds 1000))) :: (fun _ => .spawn 1 ()) :: List.replicate 8 (Judged.turn 1))
    ⟨(World.initial, Rights.empty), fun _ => none⟩

/-- The stamp that the thread is about to make. -/
def Judged.stamp (s : Judged) (t : Nat) : Option (Time × Digest × Bool) :=
  match s.threads t with
  | some (.call (.touchSession now sid checked) _) => some (now, sid, checked)
  | _ => none

theorem Judged.at_stamp {t : Nat} {now : Time} {sid : Digest} {checked : Bool}
    (stamp : s.stamp t = some (now, sid, checked)) :
    ∃ next, s.threads t = some (.call (.touchSession now sid checked) next) := by
  unfold Judged.stamp at stamp
  split at stamp
  · rename_i next at_t
    cases stamp
    exact ⟨next, at_t⟩
  · cases stamp

theorem recheckedState_stamp : recheckedState.stamp 1 = some (seconds 1000, ⟨"token"⟩, true) := by decide +kernel

theorem recheckedState_fresh : ∃ row judged check, (recheckedState.world.2.mind 1).row = some (⟨"token"⟩, row) ∧
    (recheckedState.world.2.mind 1).judged = some judged ∧ check ∈ recheckedState.world.2.checks ∧ check.Covers row ∧
    check.admin ≤ check.stamp ∧ check.alive ≤ check.stamp ∧
    judged ≤ check.stamp + seconds someSite.cfg.sessionRecheckSeconds ∧
    (true = true → judged ≤ check.admin ∧ judged ≤ check.alive) := by
  obtain ⟨next, at_t⟩ := Judged.at_stamp recheckedState_stamp
  have run : Judged.Run someSite loginThenLogout recheckedState := Pool.Reach.play Judged.admits_ok _ .start
  exact run.rights_fresh.2 1 _ _ _ next at_t

end runs
end Vdba
