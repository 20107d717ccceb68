import Vdba.Interaction.Path
import Vdba.OriginCheck

namespace Vdba
open Interaction

abbrev Exchanges := List (Exchange calls Exc)

/-- An operation that succeeded. -/
def done (op : Op) (answer : Ans op) : Exchange calls Exc := ⟨op, .ok answer⟩

def Route.isLogin : Route → Bool
  | .login => true
  | _ => false

/-- The body can be read. -/
def Route.wellFormed : Route → Bool
  | .apiCreateGrant (.malformed _) => false
  | _ => true

/-- The session lookup of a route that changes something. -/
def lookup (site : Site) (req : Request) : Portal (Option Session) :=
  if req.route.isLogin then .ret none else currentSession site req

/-- The token the request submits, and the one it has to equal. -/
def tokens (req : Request) (session : Option Session) : Option (String × String) :=
  if req.route.isLogin then (truthy req.pre).map fun pre => (req.form.csrfToken, pre)
  else session.map fun s => (submittedToken req, s.csrf)

/-- The body of the request is a form. -/
def Request.Urlencoded (req : Request) : Prop :=
  ∃ type, req.contentType = some type ∧ "application/x-www-form-urlencoded".toList <+: type.toList

theorem startsWith_getD {encoding : String} {given : Option String} (text : encoding ≠ "") :
    encoding.toList <+: (given.getD "").toList ↔ ∃ type, given = some type ∧ encoding.toList <+: type.toList := by
  cases given with
  | none => simp [text]
  | some type => simp

/-- The token a request submits is its header, or else the field of its form. -/
theorem submittedToken_cases (req : Request) :
    (∃ token, req.csrfToken = some token ∧ token ≠ "" ∧ submittedToken req = token) ∨
      (∀ token, req.csrfToken = some token → token = "") ∧
        (req.Urlencoded ∧ submittedToken req = req.form.csrfToken ∨ ¬req.Urlencoded ∧ submittedToken req = "") := by
  unfold submittedToken
  cases header : truthy req.csrfToken with
  | some token =>
    obtain ⟨given, filled⟩ := Option.filter_eq_some_iff.mp header
    exact Or.inl ⟨token, given, of_decide_eq_true filled, rfl⟩
  | none =>
    refine Or.inr ⟨fun token given => ?_, ?_⟩
    · by_contra filled
      exact Option.filter_eq_none_iff.mp header token given (decide_eq_true filled)
    · by_cases form : req.Urlencoded
      · exact Or.inl ⟨form, if_pos ((startsWith_getD (by decide)).mpr form)⟩
      · exact Or.inr ⟨form, if_neg fun encoded => form ((startsWith_getD (by decide)).mp encoded)⟩

/-- The lookup has read a session that is neither too old nor idle, and whose rights, when they were due to be checked
again, are still there. -/
structure Live (site : Site) (req : Request) (trace : Exchanges) (s : Session) : Prop where
  read : ∃ sid, truthy req.sid = some sid ∧ done (.getSession ⟨sid⟩) (some s) ∈ trace
  inTime : ∃ now : Time, done .now now ∈ trace ∧ now ≤ s.createdAt + seconds SESSION_ABSOLUTE_SECONDS ∧
    now ≤ s.lastSeen + seconds SESSION_IDLE_SECONDS ∧
    (s.lastCheck + seconds site.cfg.sessionRecheckSeconds < now →
      (∃ policies, done (.readUser s.username) (some policies) ∈ trace ∧ ADMIN_POLICY_NAME ∈ policies) ∧
      ∃ own, done (.lookupSelf s.vaultToken) own ∈ trace ∧ own ≠ [])

/-- What the gate asks of a request. -/
structure Proven (site : Site) (req : Request) (trace : Exchanges) (session : Option Session) : Prop where
  live : req.route.isLogin = false → ∃ s, session = some s ∧ Live site req trace s
  origin : checkOrigin site req = .ok ()
  token : ∃ token, tokens req session = some (token, token)

/-- A request without the proof gets the answer of those who are not logged in, or a 403, and nothing else happens. -/
def Closed (site : Site) (req : Request) (trace : Exchanges) (session : Option Session) : Prop :=
  ∀ rest outcome, (handle site req).Runs (trace ++ rest) outcome → ¬Proven site req trace session →
    ∃ response result, rest = [⟨.respond response, result⟩] ∧
      (response = answer req notAuthenticated ∨ response.status = 403)

def isAscii (text : String) : Bool := text.toList.all (·.toNat < 128)

/-- `urlsplit` takes the URLs that the origin check gives it. -/
def OriginSplits (site : Site) (req : Request) : Prop :=
  FetchedHere req → ∀ origin, truthy req.origin = some origin →
    (∀ o ∈ site.origins, ∃ host, site.netloc o = .ok host) ∧ (origin ≠ "null" → ∃ host, site.netloc origin = .ok host)

/-- What the gate gets to can be split and compared. -/
def Comparable (site : Site) (req : Request) (session : Option Session) : Prop :=
  req.route.isLogin = true ∨ session ≠ none → OriginSplits site req ∧
    (checkOrigin site req = .ok () → ∀ submitted token, tokens req session = some (submitted, token) →
      isAscii submitted = true ∧ isAscii token = true ∨ submitted = token)

/-- The gate of both `require_admin` and `login_submit`. -/
def gate (site : Site) (req : Request) (session : Option Session) : Except Exc Unit :=
  if req.route.isLogin = false ∧ session = none then .error notAuthenticated
  else do
    checkOrigin site req
    match tokens req session with
    | none => .error (httpException 403 "missing or invalid CSRF token")
    | some (submitted, token) =>
      let same ← compareDigest submitted token
      if same then .ok () else .error (httpException 403 "missing or invalid CSRF token")

/-- The route's own work. -/
def work (site : Site) (req : Request) (session : Option Session) : Portal Response :=
  match req.route, session with
  | .login, _ => doLogin req req.form.username req.form.password
  | .logout, some s => doLogout req s
  | .createGrantForm, some s => createGrantForm site req s
  | .revokeGrant _ id, some s => (matched id).bind fun id => revokeGrant req s id
  | .apiCreateGrant (.malformed message), _ | .apiCreateGrant (.invalid message), _ => .raise (validationError message)
  | .apiCreateGrant (.accepted body), some s => apiCreateGrant site req s body
  | .rotateConnection db, some s => (matched db).bind fun db => rotateConnection req s db
  | _, _ => .raise notAuthenticated

section decomposition
variable {site : Site} {req : Request}

theorem truthy_getD (text : Option String) :
    truthy text = if text.getD "" = "" then none else some (text.getD "") := by
  cases text with
  | none => rfl
  | some s => by_cases empty : s = "" <;> simp [truthy, empty]

theorem loginSubmit_eq (login : req.route = .login) :
    loginSubmit site req = (lift (gate site req none)).bind fun _ => work site req none := by
  unfold loginSubmit gate work tokens
  simp only [login, Route.isLogin, truthy_getD]
  cases checkOrigin site req with
  | error exn => rfl
  | ok =>
    by_cases empty : req.pre.getD "" = ""
    · simp [empty, lift, Prog.ofExcept, bind, Except.bind]
    · cases compared : compareDigest req.form.csrfToken (req.pre.getD "") with
      | error exn => simp [empty, compared, lift, Prog.ofExcept, bind, Except.bind]
      | ok same => cases same <;> simp [empty, compared, lift, Prog.ofExcept, bind, Except.bind]

theorem requireAdmin_eq (unsafe_ : req.route.safe = false) (other : req.route.isLogin = false) :
    requireAdmin site req = (currentSession site req).bind fun session =>
      (lift (gate site req session)).bind fun _ => lift (session.elim (.error notAuthenticated) .ok) := by
  unfold requireAdmin gate tokens
  rw [Prog.bind_eq]
  congr 1
  funext session
  cases session with
  | none => simp [other, lift, Prog.ofExcept]
  | some s =>
    cases checkOrigin site req with
    | error exn => simp [other, unsafe_, lift, Prog.ofExcept, bind, Except.bind]
    | ok =>
      cases compared : compareDigest (submittedToken req) s.csrf with
      | error exn => simp [other, unsafe_, compared, lift, Prog.ofExcept, bind, Except.bind]
      | ok same => cases same <;> simp [other, unsafe_, compared, lift, Prog.ofExcept, bind, Except.bind]

/-- A state-changing route looks the session up, passes the gate and then does its work. -/
theorem dispatch_eq (unsafe_ : req.route.safe = false) (readable : req.route.wellFormed = true) :
    dispatch site req = (lookup site req).bind fun session =>
      (lift (gate site req session)).bind fun _ => work site req session := by
  cases login : req.route.isLogin with
  | true =>
    have at_login : req.route = .login := by
      cases route : req.route <;> rw [route] at login <;> first | rfl | cases login
    unfold dispatch lookup
    rw [at_login]
    exact loginSubmit_eq at_login
  | false =>
    have admin : requireAdmin site req = _ := requireAdmin_eq unsafe_ login
    have gated (session : Option Session) (f : Session → Portal Response)
        (same : ∀ s, work site req (some s) = f s) :
        ((lift (gate site req session)).bind fun _ => lift (session.elim (.error notAuthenticated) .ok)).bind f =
          (lift (gate site req session)).bind fun _ => work site req session := by
      cases session with
      | none => simp [gate, login, lift, Prog.ofExcept]
      | some s =>
        rw [Prog.bind_assoc]
        congr 1
        funext _
        rw [same s]
        rfl
    have whole (f : Session → Portal Response) (same : ∀ s, work site req (some s) = f s) :
        (requireAdmin site req).bind f = (lookup site req).bind fun session =>
          (lift (gate site req session)).bind fun _ => work site req session := by
      rw [admin, Prog.bind_assoc]
      unfold lookup
      rw [login]
      congr 1
      funext session
      exact gated session f same
    unfold dispatch
    cases route : req.route <;> rw [route] at unsafe_ readable login
    case logout => exact whole _ fun s => by simp [work, route]
    case createGrantForm => exact whole _ fun s => by simp [work, route]
    case revokeGrant api id => exact whole _ fun s => by simp [work, route]
    case rotateConnection db => exact whole _ fun s => by simp [work, route]
    case apiCreateGrant body =>
      cases body with
      | malformed message => cases readable
      | invalid message => exact whole _ fun s => by simp [work, route]
      | accepted body => exact whole _ fun s => by simp [work, route]
    case login => cases login
    all_goals cases unsafe_

/-- Once the session is looked up, the gate opens, or its exception is answered. -/
theorem handle_path (unsafe_ : req.route.safe = false) (readable : req.route.wellFormed = true) {trace : Exchanges}
    {session : Option Session} (looked : (lookup site req).Runs trace (.ok session)) :
    (handle site req).Path trace (((lift (gate site req session)).bind fun _ => work site req session).attempt.bind fun
      | .ok response => ask (.respond response)
      | .error exn => ask (.respond (answer req exn))) := by
  unfold handle
  rw [dispatch_eq unsafe_ readable]
  exact ((looked.bind _).attempt).bind _

theorem handle_refused (unsafe_ : req.route.safe = false) (readable : req.route.wellFormed = true)
    {trace rest : Exchanges}
    {session : Option Session} (looked : (lookup site req).Runs trace (.ok session)) {exn : Exc}
    (closed : gate site req session = .error exn) {outcome : Except Exc Unit}
    (run : (handle site req).Runs (trace ++ rest) outcome) :
    rest = [⟨.respond (answer req exn), outcome⟩] := by
  have after := (handle_path unsafe_ readable looked).residual run
  rw [closed] at after
  exact Prog.Runs.of_perform after

theorem handle_answers (unsafe_ : req.route.safe = false) (readable : req.route.wellFormed = true) {trace : Exchanges}
    {session : Option Session} (looked : (lookup site req).Runs trace (.ok session)) {exn : Exc}
    (closed : gate site req session = .error exn) :
    (handle site req).Runs (trace ++ [done (.respond (answer req exn)) ()]) (.ok ()) := by
  have before := handle_path unsafe_ readable looked
  rw [closed] at before
  exact before.trans (.call .here)

end decomposition

section lookups
variable {site : Site} {req : Request} {trace : Exchanges} {s : Session}

theorem call_done {α : Type} {fn : Portal α} {value : α} (run : (Service.call fn).Runs trace (.ok value)) :
    ∃ before after, trace = before ++ after ∧ fn.Runs after (.ok value) := by
  rcases Prog.Runs.of_onError run with ⟨_, tried, same⟩ | ⟨exn, first, rest, rfl, -, handled⟩
  · cases same
    rcases Prog.Runs.of_bind tried with ⟨exn, -, same⟩ | ⟨_, before, after, rfl, -, ran⟩
    · cases same
    · exact ⟨before, after, rfl, ran⟩
  · have again {p : Portal α} (raised : ∃ why, p = .raise why) (ran : p.Runs rest (.ok value)) : False := by
      obtain ⟨why, rfl⟩ := raised
      cases (Prog.Runs.of_raise ran).2
    split at handled
    · rcases Prog.Runs.of_bind handled with ⟨exn, -, same⟩ | ⟨_, before, after, rfl, -, ran⟩
      · cases same
      · exact ⟨first ++ before, after, by simp, ran⟩
    · exact (again ⟨_, rfl⟩ handled).elim
    · exact (again ⟨_, rfl⟩ handled).elim
    · exact (again ⟨_, rfl⟩ handled).elim

theorem userPolicies_found {username : String} {policies : List String}
    (run : (userPolicies username).Runs trace (.ok (some policies))) :
    done (.readUser username) (some policies) ∈ trace := by
  by_cases named : isUserName username = true
  · have asks : userPolicies username = _ := if_pos named
    rw [asks] at run
    rcases Prog.Runs.of_onError run with ⟨_, called, same⟩ | ⟨exn, first, rest, rfl, -, handled⟩
    · cases same
      obtain ⟨before, after, rfl, asked⟩ := call_done called
      rw [Prog.Runs.of_perform asked]
      exact List.mem_append_right _ List.mem_cons_self
    · split at handled
      · cases (Prog.Runs.of_ret handled).2
      · cases (Prog.Runs.of_raise handled).2
  · have none_ : userPolicies username = _ := if_neg named
    rw [none_] at run
    cases (Prog.Runs.of_ret run).2

theorem admit_done {α : Type} {kind : Kind} {body : Portal α} {value : α}
    (run : (admit_ kind body).Runs trace (.ok value)) :
    ∃ before middle after, trace = before ++ middle ++ after ∧ body.Runs middle (.ok value) := by
  unfold admit_ at run
  rcases Prog.Runs.of_bind run with ⟨exn, -, same⟩ | ⟨granted, before, rest, rfl, -, ran⟩
  · cases same
  · cases granted with
    | false => cases (Prog.Runs.of_raise ran).2
    | true =>
      obtain ⟨result, middle, after, rfl, inside, left⟩ := Prog.Runs.of_finally ran
      rcases left with ⟨-, same⟩ | ⟨exn, -, same⟩
      · subst same
        exact ⟨before, middle, after, by simp, inside⟩
      · cases same

theorem tokenPolicies_found {token : Secret} {own : List String}
    (run : (tokenPolicies token).Runs trace (.ok (some own))) : done (.lookupSelf token) own ∈ trace := by
  unfold tokenPolicies at run
  rcases Prog.Runs.of_onError run with ⟨_, asked, same⟩ | ⟨exn, first, rest, rfl, -, handled⟩
  · cases same
    rcases Prog.Runs.of_bind asked with ⟨exn, -, same⟩ | ⟨value, before, after, rfl, ran, passed⟩
    · cases same
    · cases (Prog.Runs.of_ret passed).2
      rw [Prog.Runs.of_perform ran]
      exact List.mem_append_left _ List.mem_cons_self
  · split at handled
    · cases (Prog.Runs.of_ret handled).2
    · split at handled <;> cases (Prog.Runs.of_raise handled).2

theorem recheck_found (run : (recheck s).Runs trace (.ok true)) :
    (∃ policies, done (.readUser s.username) (some policies) ∈ trace ∧ ADMIN_POLICY_NAME ∈ policies) ∧
      ∃ own, done (.lookupSelf s.vaultToken) own ∈ trace ∧ own ≠ [] := by
  unfold recheck at run
  rcases Prog.Runs.of_bind run with ⟨exn, -, same⟩ | ⟨⟨current, alive⟩, first, rest, rfl, asked, decided⟩
  · cases same
  · obtain ⟨-, same⟩ := Prog.Runs.of_ret decided
    have rights : ADMIN_POLICY_NAME ∈ current.getD [] ∧ alive.getD [] ≠ [] := by simpa using same
    rcases Prog.Runs.of_onError asked with ⟨_, admitted, same⟩ | ⟨exn, front, back, rfl, -, handled⟩
    · cases same
      obtain ⟨before, middle, after, rfl, inside⟩ := admit_done admitted
      rcases Prog.Runs.of_bind inside with ⟨exn, -, same⟩ | ⟨_, front, back, rfl, users, inside⟩
      · cases same
      rcases Prog.Runs.of_bind inside with ⟨exn, -, same⟩ | ⟨_, own, last, rfl, selves, passed⟩
      · cases same
      cases (Prog.Runs.of_ret passed).2
      cases current with
      | none => cases rights.1
      | some policies =>
        cases alive with
        | none => exact absurd rfl rights.2
        | some self =>
          have user := userPolicies_found users
          have own := tokenPolicies_found selves
          exact ⟨⟨policies, by simp [user], rights.1⟩, self, by simp [own], rights.2⟩
    · split at handled <;> cases (Prog.Runs.of_raise handled).2

theorem checkSession_live {sid : String} {now : Time} {row : Session}
    (run : (checkSession site sid row now).Runs trace (.ok (some s))) : row = s ∧
      now ≤ s.createdAt + seconds SESSION_ABSOLUTE_SECONDS ∧ now ≤ s.lastSeen + seconds SESSION_IDLE_SECONDS ∧
      (s.lastCheck + seconds site.cfg.sessionRecheckSeconds < now →
        (∃ policies, done (.readUser s.username) (some policies) ∈ trace ∧ ADMIN_POLICY_NAME ∈ policies) ∧
        ∃ own, done (.lookupSelf s.vaultToken) own ∈ trace ∧ own ≠ []) := by
  have last {p : Portal Unit} {x : Option Session} {t : Exchanges}
      (ran : (p.bind fun _ => .ret x).Runs t (.ok (some s))) : x = some s := by
    rcases Prog.Runs.of_bind ran with ⟨exn, -, same⟩ | ⟨_, before, after, -, -, passed⟩
    · cases same
    · exact (Except.ok.inj (Prog.Runs.of_ret passed).2).symm
  unfold checkSession at run
  by_cases old : row.createdAt + seconds SESSION_ABSOLUTE_SECONDS < now ∨ row.lastSeen + seconds SESSION_IDLE_SECONDS < now
  · rw [if_pos old] at run
    cases last run
  rw [if_neg old] at run
  push Not at old
  by_cases due : row.lastCheck + seconds site.cfg.sessionRecheckSeconds < now
  · rw [if_pos due] at run
    rcases Prog.Runs.of_bind run with ⟨exn, -, same⟩ | ⟨rights, first, rest, rfl, asked, decided⟩
    · cases same
    cases rights with
    | true =>
      cases last decided
      obtain ⟨⟨policies, user, admin⟩, own, self, some_⟩ := recheck_found asked
      exact ⟨rfl, old.1, old.2, fun _ => ⟨⟨policies, List.mem_append_left _ user, admin⟩, own, List.mem_append_left _ self, some_⟩⟩
    | false =>
      have ended : (((endSession sid row).bind fun _ => audit none none row.username "session" "ended" "admin rights removed").bind
          fun _ => (.ret none : Portal (Option Session))).Runs rest (.ok (some s)) := by
        rw [Prog.bind_assoc]
        exact decided
      cases last ended
  · rw [if_neg due] at run
    cases last run
    exact ⟨rfl, old.1, old.2, fun late => absurd late due⟩

/-- A session that the lookup returns is live. -/
theorem currentSession_live (run : (currentSession site req).Runs trace (.ok (some s))) : Live site req trace s := by
  unfold currentSession at run
  cases given : truthy req.sid with
  | none =>
    rw [given] at run
    cases (Prog.Runs.of_ret run).2
  | some sid =>
    rw [given] at run
    rcases Prog.Runs.of_bind run with ⟨exn, -, same⟩ | ⟨row, first, rest, rfl, asked, rows⟩
    · cases same
    cases row with
    | none => cases (Prog.Runs.of_ret rows).2
    | some row =>
      rcases Prog.Runs.of_bind rows with ⟨exn, -, same⟩ | ⟨now, clock, rest, rfl, read, checked⟩
      · cases same
      rw [Prog.Runs.of_perform asked, Prog.Runs.of_perform read]
      obtain ⟨rfl, young, busy, rights⟩ := checkSession_live checked
      refine ⟨⟨sid, given, List.mem_cons_self⟩, now, List.mem_cons_of_mem _ List.mem_cons_self, young, busy,
        fun due => ?_⟩
      obtain ⟨⟨policies, user, admin⟩, own, self, some_⟩ := rights due
      exact ⟨⟨policies, by simp [user], admin⟩, own, by simp [self], some_⟩

end lookups

section gates
variable {site : Site} {req : Request} {session : Option Session}

/-- The origin check ends in a 403 or lets pass, unless `urlsplit` fails. -/
theorem checkOrigin_splits (splits : site.Splits) :
    OriginSplits site req ∧ (checkOrigin site req = .ok () ∨ ∃ detail, checkOrigin site req = .error (httpException 403 detail)) ∨
    ¬OriginSplits site req ∧ ∃ exn, checkOrigin site req = .error exn ∧ exn.cls = .valueError := by
  unfold OriginSplits
  by_cases here : FetchedHere req
  · rw [checkOrigin_here here]
    cases given : truthy req.origin with
    | none => cases fetched : truthy req.secFetchSite <;> simp
    | some origin =>
      simp only [here, true_implies, Option.some.injEq, forall_eq']
      rcases allowedHosts_cases site req with ⟨o, member, exn, at_o, failed⟩ | ⟨hosts, allowed, split, -⟩
      · refine Or.inr ⟨fun both => ?_, exn, by simp [originOutcome, failed, bind, Except.bind], splits o exn at_o⟩
        obtain ⟨host, found⟩ := both.1 o member
        rw [at_o] at found
        cases found
      · by_cases null : origin = "null"
        · exact Or.inl ⟨⟨split, fun other => absurd null other⟩,
            Or.inr ⟨"origin not allowed", by simp [originOutcome, allowed, null, bind, Except.bind]⟩⟩
        · cases at_origin : site.netloc origin with
          | error exn =>
            refine Or.inr ⟨fun both => ?_, exn, by simp [originOutcome, allowed, null, at_origin, bind, Except.bind],
              splits origin exn at_origin⟩
            obtain ⟨host, same⟩ := both.2 null
            cases same
          | ok host =>
            refine Or.inl ⟨⟨split, fun _ => ⟨host, rfl⟩⟩, ?_⟩
            by_cases member : host ∈ hosts <;>
              simp [originOutcome, allowed, null, at_origin, member, bind, Except.bind]
  · exact Or.inl ⟨fun fetched => absurd fetched here, Or.inr ⟨_, checkOrigin_foreign here⟩⟩

theorem compareDigest_eq (a b : String) : compareDigest a b = if isAscii a = true ∧ isAscii b = true then .ok (a = b)
    else .error ⟨.other "TypeError", "comparing strings with non-ASCII characters is not supported"⟩ := by
  unfold compareDigest isAscii
  simp only [Bool.and_eq_true]

theorem gate_given (given : req.route.isLogin = true ∨ session ≠ none) : gate site req session = (do
    checkOrigin site req
    match tokens req session with
    | none => .error (httpException 403 "missing or invalid CSRF token")
    | some (submitted, token) =>
      let same ← compareDigest submitted token
      if same then .ok () else .error (httpException 403 "missing or invalid CSRF token")) := by
  unfold gate
  rw [if_neg]
  rintro ⟨other, none_⟩
  rcases given with login | some_
  · rw [other] at login
    cases login
  · exact some_ none_

/-- Without a proof the gate closes with one of its own answers, where it can split and compare. -/
theorem gate_closes (splits : site.Splits) (comparable : Comparable site req session)
    (unproven : ¬(checkOrigin site req = .ok () ∧ ∃ token, tokens req session = some (token, token))) :
    gate site req session = .error notAuthenticated ∨ ∃ detail, gate site req session = .error (httpException 403 detail) := by
  by_cases given : req.route.isLogin = true ∨ session ≠ none
  · obtain ⟨split, compared⟩ := comparable given
    rw [gate_given given]
    rcases @checkOrigin_splits site req splits with ⟨-, origin | ⟨detail, origin⟩⟩ | ⟨unsplit, -⟩
    · rw [origin]
      cases pair : tokens req session with
      | none => exact Or.inr ⟨_, rfl⟩
      | some pair' =>
        obtain ⟨submitted, token⟩ := pair'
        have differ : submitted ≠ token := by
          rintro rfl
          exact unproven ⟨origin, _, pair⟩
        have ascii := (compared origin submitted token pair).resolve_right differ
        exact Or.inr ⟨"missing or invalid CSRF token", by simp [compareDigest_eq, ascii, differ, bind, Except.bind]⟩
    · exact Or.inr ⟨detail, by rw [origin]; rfl⟩
    · exact absurd split unsplit
  · push Not at given
    exact Or.inl (by simp [gate, given.1, given.2])

/-- Where the gate cannot split or compare, its exception is none that it raises itself. -/
theorem gate_breaks (splits : site.Splits) (uncomparable : ¬Comparable site req session) :
    (checkOrigin site req = .ok () → ¬∃ token, tokens req session = some (token, token)) ∧
      ∃ exn, gate site req session = .error exn ∧ (exn.cls = .valueError ∨ exn.cls = .other "TypeError") := by
  unfold Comparable at uncomparable
  push Not at uncomparable
  obtain ⟨given, wrong⟩ := uncomparable
  rw [gate_given given]
  rcases @checkOrigin_splits site req splits with ⟨split, origin | ⟨detail, origin⟩⟩ | ⟨unsplit, exn, origin, value⟩
  · obtain ⟨-, submitted, token, pair, ascii, differ⟩ := wrong split
    have unlike : ¬(isAscii submitted = true ∧ isAscii token = true) := fun both => ascii both.1 both.2
    refine ⟨fun _ ⟨other, same⟩ => ?_, ⟨.other "TypeError", "comparing strings with non-ASCII characters is not supported"⟩,
      ?_, Or.inr rfl⟩
    · rw [pair] at same
      cases same
      exact differ rfl
    · simp [origin, pair, compareDigest_eq, unlike, bind, Except.bind]
  · obtain ⟨passed, -⟩ := wrong split
    rw [origin] at passed
    cases passed
  · refine ⟨fun passed => ?_, exn, by rw [origin]; rfl, Or.inl value⟩
    rw [origin] at passed
    cases passed

end gates

section complete
variable {site : Site} {req : Request} {trace : Exchanges} {session : Option Session}

theorem answer_forbidden (req : Request) (detail : String) : (answer req (httpException 403 detail)).status = 403 := by
  have other : httpException 403 detail ≠ notAuthenticated := fun same => by cases congrArg Exc.cls same
  rw [answer, if_neg other]
  rfl

theorem answer_unhandled {exn : Exc} (broken : exn.cls = .valueError ∨ exn.cls = .other "TypeError") :
    (answer req exn).status = 500 := by
  obtain ⟨cls, text⟩ := exn
  have other : (⟨cls, text⟩ : Exc) ≠ notAuthenticated := by
    rintro same
    cases congrArg Exc.cls same
    rcases broken with wrong | wrong
    · cases wrong
    · have names : "NotAuthenticated" = "TypeError" := ExcClass.other.inj wrong
      exact absurd names (by decide)
  rw [answer, if_neg other]
  rcases broken with rfl | rfl <;> rfl

theorem answer_notAuthenticated (req : Request) : (answer req notAuthenticated).status ≠ 500 := by
  rw [answer, if_pos rfl]
  cases wantsJson req <;> simp

theorem proven_of (looked : (lookup site req).Runs trace (.ok session)) (origin : checkOrigin site req = .ok ())
    (same : ∃ token, tokens req session = some (token, token)) : Proven site req trace session where
  live other := by
    obtain ⟨token, pair⟩ := same
    unfold tokens at pair
    unfold lookup at looked
    rw [other] at pair looked
    cases session with
    | none => cases pair
    | some s => exact ⟨s, rfl, currentSession_live looked⟩
  origin := origin
  token := same

theorem closed_of_comparable (splits : site.Splits) (unsafe_ : req.route.safe = false)
    (readable : req.route.wellFormed = true) (looked : (lookup site req).Runs trace (.ok session))
    (comparable : Comparable site req session) : Closed site req trace session := by
  intro rest outcome run unproven
  have unproven : ¬(checkOrigin site req = .ok () ∧ ∃ token, tokens req session = some (token, token)) :=
    fun ⟨origin, same⟩ => unproven (proven_of looked origin same)
  rcases gate_closes splits comparable unproven with closed | ⟨detail, closed⟩
  · exact ⟨_, _, handle_refused unsafe_ readable looked closed run, Or.inl rfl⟩
  · exact ⟨_, _, handle_refused unsafe_ readable looked closed run, Or.inr (answer_forbidden req detail)⟩

theorem not_closed (splits : site.Splits) (unsafe_ : req.route.safe = false)
    (readable : req.route.wellFormed = true) (looked : (lookup site req).Runs trace (.ok session))
    (uncomparable : ¬Comparable site req session) : ¬Closed site req trace session := by
  intro all
  obtain ⟨unproven, exn, broken, cls⟩ := gate_breaks splits uncomparable
  obtain ⟨response, result, same, refused⟩ := all _ _ (handle_answers unsafe_ readable looked broken)
    fun proven => unproven proven.origin proven.token
  obtain rfl : answer req exn = response := by
    have head := (List.cons.inj same).1
    have ops : Op.respond (answer req exn) = .respond response := congrArg Sigma.fst head
    exact Op.respond.inj ops
  have status : (answer req exn).status = 500 := answer_unhandled cls
  rcases refused with other | forbidden
  · exact answer_notAuthenticated req (by rw [← other, status])
  · rw [status] at forbidden
    cases forbidden

/-- A route that changes something works for proven requests only and answers the others, unless its gate meets a URL
that cannot be split or different tokens that cannot be compared. -/
theorem gate_complete (splits : site.Splits) (unsafe_ : req.route.safe = false)
    (readable : req.route.wellFormed = true) (looked : (lookup site req).Runs trace (.ok session)) :
    Closed site req trace session ↔ Comparable site req session := by
  refine ⟨fun closed => ?_, closed_of_comparable splits unsafe_ readable looked⟩
  by_contra uncomparable
  exact not_closed splits unsafe_ readable looked uncomparable closed

end complete

theorem currentSession_path {site : Site} {req : Request} {sid : String} (given : truthy req.sid = some sid)
    (row : Session)
    (now : Time) {trace : Exchanges} {q : Portal (Option Session)} (checked : (checkSession site sid row now).Path trace q) :
    (currentSession site req).Path (done (.getSession ⟨sid⟩) (some row) :: done .now now :: trace) q := by
  unfold currentSession
  rw [given]
  exact .perform_bind (.perform_bind checked)

/-- A session of the portal. -/
def someSession : Session := ⟨⟨"sid"⟩, "alice", "tok", ⟨"hvs"⟩, 0, 0, 0⟩

/-- A logout with this token. -/
def logoutWith (token : String) : Request where
  id := "1"
  route := .logout
  sid := some "sid"
  origin := some "http://portal"
  host := some "portal"
  csrfToken := some token

def logoutLookup : Exchanges :=
  [done (.getSession ⟨"sid"⟩) (some someSession), done .now (0 : Nat), done .now (0 : Nat),
    done (.touchSession 0 ⟨"sid"⟩ false) ()]

theorem logoutLookup_runs (token : String) :
    (lookup urlSite (logoutWith token)).Runs logoutLookup (.ok (some someSession)) := by
  have given : truthy (logoutWith token).sid = some "sid" := rfl
  have checked : (checkSession urlSite "sid" someSession 0).Path
      [done .now (0 : Nat), done (.touchSession 0 ⟨"sid"⟩ false) ()] (.ret (some someSession)) := by
    rw [checkSession, if_neg (by simp [someSession]), if_neg (by simp [someSession])]
    exact .call (.call .here)
  exact currentSession_path given someSession 0 checked

theorem logout_origin (token : String) : checkOrigin urlSite (logoutWith token) = .ok () := by
  have split : urlNetloc "http://portal" = .ok "portal" := by decide
  have allowed : allowedHosts urlSite (logoutWith token) = .ok ["portal"] := rfl
  have here : FetchedHere (logoutWith token) := fun value given => by cases given
  have given : truthy (logoutWith token).origin = some "http://portal" := rfl
  have host : urlSite.netloc "http://portal" = .ok "portal" := split
  rw [checkOrigin_here here, given]
  simp [originOutcome, allowed, host, bind, Except.bind]

theorem wrongToken_closed : Closed urlSite (logoutWith "nope") logoutLookup (some someSession) := by
  refine (gate_complete urlSite_splits rfl rfl (logoutLookup_runs "nope")).mpr fun _ => And.intro (fun _ origin given => ?_) ?_
  · obtain rfl : "http://portal" = origin := Option.some.inj given
    exact ⟨fun o member => (List.not_mem_nil member).elim, fun _ => ⟨"portal", by decide +kernel⟩⟩
  · intro _ submitted token pair
    obtain ⟨rfl, rfl⟩ : "nope" = submitted ∧ "tok" = token := Prod.mk.inj (Option.some.inj pair)
    exact Or.inl (by decide +kernel)

theorem accent_not_closed : ¬Closed urlSite (logoutWith "é") logoutLookup (some someSession) := by
  refine not_closed urlSite_splits rfl rfl (logoutLookup_runs "é") fun comparable => ?_
  obtain ⟨-, compared⟩ := comparable (Or.inr (by simp))
  have pair : tokens (logoutWith "é") (some someSession) = some ("é", "tok") := rfl
  rcases compared (logout_origin "é") "é" "tok" pair with ⟨ascii, -⟩ | same
  · exact absurd ascii (by decide +kernel)
  · exact absurd same (by decide)

end Vdba
