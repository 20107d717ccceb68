import Vdba.Admission
import Vdba.Interaction.Record

namespace Vdba
open Interaction (Protocol Pool Machine)
open Interaction.Prog (All Follows)

/-- What a run does with the admins' tokens: the tokens that `userpass_login` has returned and the threads it returned
them to, those passed to `revoke_token_quietly`, those whose session rows are gone with the thread that deleted them,
the ids of sessions that were made or looked up, and the tokens that threads have got but not put away. -/
structure Custody where
  returned : List (Nat × Secret)
  passed : List Secret
  dropped : List (Nat × Secret)
  named : List Digest
  hand : Nat → Option Secret

namespace Custody

def empty : Custody := ⟨[], [], [], [], fun _ => none⟩

/-- The thread has put the token away, if it is the one it has in its hand. -/
def puts (g : Custody) (t : Nat) (token : Secret) : Custody :=
  { g with hand := Function.update g.hand t ((g.hand t).filter (· ≠ token)) }

/-- What one call of a thread shows. -/
def learns (g : Custody) (t : Nat) : (op : Op) → Except Exc (Ans op) → Custody
  | .userpassLogin .., answer =>
    let answer : Except Exc (Secret × List String) := answer
    match answer with
    | .ok (token, _) =>
      { g with returned := (t, token) :: g.returned, hand := Function.update g.hand t (some token) }
    | .error _ => g
  | .revokeSelf token, _ => { g.puts t token with passed := token :: g.passed }
  | .getSession sid, .ok _ => { g with named := sid :: g.named }
  | .createSession session, _ => { g.puts t session.vaultToken with named := session.sid :: g.named }
  | _, _ => g

end Custody

/-- The ids of the session rows with their tokens. -/
def World.held (w : World) : List (Digest × Secret) := w.store.sessions.map fun row => (row.sid, row.vaultToken)

/-- The tokens of the rows of `v` that `w` does not have. -/
def World.gone (v w : World) : List Secret := (v.held.filter fun x => x.1 ∉ w.held.map (·.1)).map (·.2)

/-- The custody after a call. -/
def Custody.note (t : Nat) (op : Op) (v : World) (answer : Except Exc (Ans op)) (w : World) (g : Custody) : Custody :=
  { g.learns t op answer with dropped := (v.gone w).map (fun token => (t, token)) ++ g.dropped }

abbrev recorded : Machine calls Exc (World × Custody) Nat Choice Event := machine.recording Custody.note

/-- The whole system with its custody. -/
abbrev Kept := Pool calls Exc (World × Custody) Nat

abbrev Turn := Interaction.Label Nat Choice Event Unit

/-- A call that finds what `secrets` and Vault promise: a session id is new when its row is made, neither used nor named
before, and a token is returned once. -/
def Genuine (g : Custody) (c : Choice) : Op → Prop
  | .createSession session => session.sid ∉ g.named
  | .userpassLogin .. => ∀ u, (u, c.secret) ∉ g.returned
  | _ => True

/-- A call of the store that does what the log-in of a thread needs: with a token in its hand nothing fails, and what
raises has deleted nothing. -/
def Steady (g : Custody) (t : Nat) (c : Choice) : Op → Prop
  | .getSession _ => (g.hand t).isSome = true → c.fate = .ok
  | .createSession _ => (g.hand t).isSome = true → ∀ exn, c.fate ≠ .fail exn
  | .deleteSession _ => ((g.hand t).isSome = true → c.fate = .ok) ∧ ∀ exn, c.fate ≠ .lost exn
  | .purgeSessions _ => ∀ exn, c.fate ≠ .lost exn
  | _ => True

/-- The process is not killed, and its calls are genuine and, where asked for, steady. -/
def Kept.Allows (steady : Bool) (s : Kept) : Turn → Prop
  | .run t c => ∀ op next, s.threads t = some (.call op next) →
      Genuine s.world.2 c op ∧ (steady = true → Steady s.world.2 t c op)
  | .kill => False
  | .env _ | .spawn .. => True

/-- The states of the runs of logins, requests, logouts and passes. -/
abbrev Kept.Run (site : Site) (duties : Nat → Duty) (steady : Bool) : Kept → Prop :=
  Pool.Reach recorded (fun t _ => (duties t).code site) (Kept.Allows steady)
    ⟨(World.initial, Custody.empty), fun _ => none⟩

/-- The thread's program has returned or raised. -/
def Kept.Over (s : Kept) (t : Nat) : Prop := ∀ p, s.threads t = some p → p = .ret () ∨ ∃ exn, p = .raise exn

/-- Once a request is over, the token it got is held by one row, or was passed on, unless a request that is not over has
just deleted the row; and the tokens of the rows it has deleted were passed on. -/
structure Kept.Accounted (s : Kept) (t : Nat) : Prop where
  returned : ∀ token, (t, token) ∈ s.world.2.returned →
    (s.world.1.store.sessions.filter (·.vaultToken = token)).length = 1 ∨ token ∈ s.world.2.passed ∨
      ∃ u, ¬s.Over u ∧ (u, token) ∈ s.world.2.dropped
  dropped : ∀ token, (t, token) ∈ s.world.2.dropped → token ∈ s.world.2.passed

/-- What a thread knows of the admins' tokens: the row it has last read, the token it has got, and those whose rows it
has deleted. -/
structure Hand where
  row : Option (Digest × Option Secret)
  login : Option Secret
  dropped : List Secret

namespace Hand

/-- Nothing is to be put away. -/
def bare (row : Option (Digest × Option Secret)) : Hand := ⟨row, none, []⟩

/-- The token of the row with this id, as far as it was read. -/
def tokenOf (h : Hand) (sid : Digest) : List Secret :=
  match h.row with
  | some (d, some token) => if d = sid then [token] else []
  | _ => []

def puts (h : Hand) (token : Secret) : Hand := { h with login := h.login.filter (· ≠ token) }

/-- A call has failed: with a token in the hand this is not to happen. -/
def fails (h : Hand) : Option Hand := if h.login.isSome then none else some h

/-- What a call makes of it. -/
def after (h : Hand) : (op : Op) → Except Exc (Ans op) → Option Hand
  | .userpassLogin .., answer =>
    let answer : Except Exc (Secret × List String) := answer
    match answer with
    | .ok (token, _) => some { h with login := some token }
    | .error _ => some h
  | .revokeSelf token, _ => some { h.puts token with dropped := h.dropped.filter (· ≠ token) }
  | .getSession sid, answer =>
    let answer : Except Exc (Option Session) := answer
    match answer with
    | .ok row =>
      if h.login.isSome ∧ h.login = row.map (·.vaultToken) then none
      else some { h with row := some (sid, row.map (·.vaultToken)) }
    | .error _ => h.fails
  | .createSession session, _ => some (h.puts session.vaultToken)
  | .deleteSession sid, .ok _ => some { h with dropped := h.tokenOf sid ++ h.dropped }
  | .deleteSession _, .error _ | .tokenUrlsafe, .error _ | .now, .error _ => h.fails
  | .purgeSessions _, answer =>
    let answer : Except Exc (List Session) := answer
    match answer with
    | .ok rows => some { h with dropped := rows.map (·.vaultToken) ++ h.dropped }
    | .error _ => some h
  | _, _ => some h

end Hand

/-- A thread deletes the row it has read, makes a row for the token it has got, and gets a token with empty hands. Once
something has happened that is not to, a call that fails or a new token that was in a row, anything may. -/
def custody : Protocol calls Exc (Option Hand) where
  allows q op := ∀ h, q = some h →
    match op with
    | .deleteSession sid => ∃ r, h.row = some (sid, r)
    | .createSession session => h.login = some session.vaultToken
    | .userpassLogin .. => h.login = none
    | _ => True
  after q op answer := q.bind fun h => h.after op answer

/-- Nothing is left to put away. -/
def PutAway (q : Option Hand) : Prop := q = none ∨ ∃ r, q = some (.bare r)

/-- Code that starts and ends with nothing to put away. -/
def Tidy {α : Type} (p : Portal α) : Prop := ∀ r, p.Follows custody (fun _ => PutAway) (some (.bare r))

/-- A call that has nothing to do with the tokens. -/
def Op.tokenless : Op → Prop
  | .getSession _ | .createSession _ | .deleteSession _ | .purgeSessions _ | .userpassLogin .. | .revokeSelf _ => False
  | _ => True

section tidy
variable {α β : Type} {site : Site} {req : Request} {s : Session} {Q : Except Exc α → Option Hand → Prop}

theorem lost_follows (p : Portal α) : p.Follows custody (fun _ q => q = none) none := by
  refine Follows.of_all (all_calls p) fun op _ => ⟨fun h same => ?_, fun _ => rfl⟩
  cases same

theorem tokenless_follows {p : Portal α} (all : p.All Op.tokenless) (row : Option (Digest × Option Secret)) :
    p.Follows custody (fun _ q => q = some (.bare row)) (some (.bare row)) := by
  refine Follows.of_all all fun op tokenless => ?_
  cases op
  case getSession | createSession | deleteSession | purgeSessions | userpassLogin | revokeSelf => exact tokenless.elim
  case now | tokenUrlsafe => exact ⟨fun _ _ => trivial, fun answer => by cases answer <;> rfl⟩
  all_goals exact ⟨fun _ _ => trivial, fun _ => rfl⟩

/-- What follows where something was lost, follows. -/
theorem follows_lost {p : Portal α} (lost : ∀ outcome, Q outcome none) : p.Follows custody Q none :=
  (lost_follows p).mono fun outcome q same => by rw [same]; exact lost outcome

namespace Tidy

theorem of_all {p : Portal α} (all : p.All Op.tokenless) : Tidy p := by
  intro r
  refine (tokenless_follows all r).mono fun _ q same => ?_
  exact Or.inr ⟨r, same⟩

theorem ret (value : α) : Tidy (.ret value : Portal α) := fun r => Or.inr ⟨r, rfl⟩

theorem raise (exn : Exc) : Tidy (.raise exn : Portal α) := fun r => Or.inr ⟨r, rfl⟩

theorem ask (op : Op) (tokenless : op.tokenless) : Tidy (ask op) := of_all (All.perform tokenless)

theorem lift (outcome : Except Exc α) : Tidy (lift outcome) := of_all (All.ofExcept outcome)

/-- What is put away stays so in the rest. -/
theorem rest {p : Portal α} (tidy : Tidy p) {q : Option Hand} (away : PutAway q) :
    p.Follows custody (fun _ => PutAway) q := by
  rcases away with rfl | ⟨r, rfl⟩
  · exact follows_lost fun _ => Or.inl rfl
  · exact tidy r

theorem bind {p : Portal α} {f : α → Portal β} (first : Tidy p) (next : ∀ value, Tidy (f value)) : Tidy (p.bind f) := by
  intro r
  refine Follows.bind ((first r).mono fun outcome q away => ?_)
  cases outcome with
  | error exn => exact away
  | ok value => exact (next value).rest away

theorem attempt {p : Portal α} (tidy : Tidy p) : Tidy p.attempt := fun r => Follows.attempt (tidy r)

theorem onError {p : Portal α} {handler : Exc → Portal α} (tidy : Tidy p) (handled : ∀ exn, Tidy (handler exn)) :
    Tidy (p.onError handler) := by
  refine tidy.attempt.bind fun outcome => ?_
  cases outcome with
  | ok value => exact ret value
  | error exn => exact handled exn

theorem finally_ {p : Portal α} {last : Portal Unit} (tidy : Tidy p) (ended : Tidy last) : Tidy (p.finally_ last) :=
  tidy.attempt.bind fun outcome => ended.bind fun _ => lift outcome

theorem admit_ {kind : Kind} {p : Portal α} (tidy : Tidy p) : Tidy (admit_ kind p) := by
  refine (ask (.slotAcquire kind) trivial).bind fun (granted : Bool) => ?_
  cases granted with
  | false => exact raise _
  | true => exact tidy.finally_ (ask (.slotRelease kind) trivial)

theorem unlessBusy {p : Portal α} (tidy : Tidy p) :
    Tidy (p.onError fun exn => if exn.cls = .busy then .raise (httpException 503 exn.text) else .raise exn) := by
  refine tidy.onError fun exn => ?_
  split <;> exact raise _

theorem audit (requestId : Option String) (id : Option GrantId) (actor action result detail : String) :
    Tidy (audit requestId id actor action result detail) :=
  (ask .now trivial).bind fun now => ask (.addAudit ⟨now, requestId, id, actor, action, result, detail⟩) trivial

theorem loginPage (msg : String) (status : Nat) (username : String) : Tidy (loginPage req msg status username) :=
  (audit _ _ _ _ _ _).bind fun _ => (ask .tokenUrlsafe trivial).bind fun _ => ret _

end Tidy

/-- The hand once a token was passed on. -/
def Hand.passes (h : Hand) (token : Secret) : Hand := { h.puts token with dropped := h.dropped.filter (· ≠ token) }

theorem revokeToken_follows (h : Hand) (token : Secret) :
    (revokeTokenQuietly token).Follows custody (fun outcome q => outcome = .ok () ∧ q = some (h.passes token))
      (some h) := by
  refine Follows.onError (Follows.perform (fun _ _ => trivial) fun answer => ?_)
  cases answer with
  | ok _ => exact ⟨rfl, rfl⟩
  | error exn => exact ⟨rfl, rfl⟩

theorem bare_passes (row : Option (Digest × Option Secret)) (token : Secret) :
    (Hand.passes ⟨row, none, [token]⟩ token) = .bare row := by
  simp [Hand.passes, Hand.puts, Hand.bare]

theorem delete_follows {h : Hand} {sid : Digest} {r : Option Secret} {f : Unit → Portal α} (row : h.row = some (sid, r))
    (failed : ∀ exn, Q (.error exn) h.fails)
    (rest : (f ()).Follows custody Q (some { h with dropped := h.tokenOf sid ++ h.dropped })) :
    ((ask (.deleteSession sid)).bind f).Follows custody Q (some h) := by
  refine Follows.bind (Follows.perform (fun h' same => ?_) fun answer => ?_)
  · cases same
    exact ⟨r, row⟩
  · cases answer with
    | error exn => exact failed exn
    | ok _ => exact rest

theorem get_follows {h : Hand} {sid : Digest} {f : Option Session → Portal α} (failed : ∀ exn, Q (.error exn) h.fails)
    (lost : ∀ outcome, Q outcome none)
    (rest : ∀ row : Option Session, ¬(h.login.isSome = true ∧ h.login = row.map (·.vaultToken)) →
      (f row).Follows custody Q (some { h with row := some (sid, row.map (·.vaultToken)) })) :
    ((ask (.getSession sid)).bind f).Follows custody Q (some h) := by
  refine Follows.bind (Follows.perform (fun _ _ => trivial) fun answer => ?_)
  cases answer with
  | error exn => exact failed exn
  | ok row =>
    change Option Session at row
    by_cases clash : h.login.isSome = true ∧ h.login = row.map (·.vaultToken)
    · have nothing : custody.after (some h) (.getSession sid) (.ok row) = none := if_pos clash
      rw [nothing]
      exact follows_lost lost
    · have found : custody.after (some h) (.getSession sid) (.ok row) =
          some { h with row := some (sid, row.map (·.vaultToken)) } := if_neg clash
      rw [found]
      exact rest row clash

/-- What ends a session whose row was read. -/
theorem ending_follows {sid : Digest} {token : Secret} {f : Unit → Portal α}
    (failed : ∀ exn r, Q (.error exn) (some (.bare r))) (rest : ∀ r, (f ()).Follows custody Q (some (.bare r))) :
    ((ask (.deleteSession sid)).bind fun _ => (revokeTokenQuietly token).bind f).Follows custody Q
      (some (.bare (some (sid, some token)))) := by
  refine delete_follows rfl (fun exn => failed exn _) ?_
  refine Follows.bind ((revokeToken_follows _ token).mono fun outcome q ⟨passed, same⟩ => ?_)
  subst passed same
  have dropped : Hand.tokenOf (.bare (some (sid, some token))) sid = [token] := by simp [Hand.tokenOf, Hand.bare]
  have bare := bare_passes (some (sid, some token)) token
  rw [dropped]
  have ended := rest (some (sid, some token))
  rw [← bare] at ended
  exact ended

theorem tokenless_ask (op : Op) (tokenless : op.tokenless) : (ask op).All Op.tokenless := All.perform tokenless

theorem tokenless_rights (s : Session) :
    (do let current ← userPolicies s.username
        let alive ← tokenPolicies s.vaultToken
        return (current, alive) : Portal (Option (List String) × Option (List String))).All Op.tokenless := by
  refine All.bind ?_ fun current => All.bind (All.onError (All.bind (tokenless_ask _ trivial) fun _ => trivial)
    fun exn => ?_) fun alive => trivial
  · refine All.cond (All.onError (call_all trivial trivial (tokenless_ask _ trivial)) fun exn => ?_) trivial
    exact All.cond trivial trivial
  · exact All.cond trivial (All.cond trivial trivial)

theorem tokenless_admitted {kind : Kind} {p : Portal α} (all : p.All Op.tokenless) :
    (admit_ kind p).All Op.tokenless := by
  refine All.bind (tokenless_ask _ trivial) fun (granted : Bool) => ?_
  cases granted with
  | false => trivial
  | true => exact All.finally_ all (tokenless_ask _ trivial)

theorem tokenless_recheck (s : Session) : (recheck s).All Op.tokenless := by
  refine All.bind (All.onError (tokenless_admitted (tokenless_rights s)) fun exn => ?_) fun _ => trivial
  exact All.cond trivial trivial

/-- A session that was found is the row that was read. -/
def Reads (sid : Digest) : Except Exc (Option Session) → Option Hand → Prop
  | .ok (some s), q => q = none ∨ q = some (.bare (some (sid, some s.vaultToken)))
  | _, q => PutAway q

theorem Reads.of_none {sid : Digest} (outcome : Except Exc (Option Session)) : Reads sid outcome none := by
  rcases outcome with _ | _ | s
  · exact Or.inl rfl
  · exact Or.inl rfl
  · exact Or.inl rfl

theorem touch_follows (sid : String) (s : Session) (checked : Bool) :
    ((touchSession sid checked).bind fun _ => (.ret (some s) : Portal (Option Session))).Follows custody (Reads ⟨sid⟩)
      (some (.bare (some (⟨sid⟩, some s.vaultToken)))) := by
  have touched : (touchSession sid checked).All Op.tokenless :=
    All.bind (tokenless_ask _ trivial) fun _ => tokenless_ask _ trivial
  refine Follows.bind ((tokenless_follows touched _).mono fun outcome q same => ?_)
  subst same
  cases outcome with
  | error exn => exact Or.inr ⟨_, rfl⟩
  | ok _ => exact Or.inr rfl

theorem endSession_follows {sid : String} {f : Unit → Portal α} (failed : ∀ exn r, Q (.error exn) (some (.bare r)))
    (rest : ∀ r, (f ()).Follows custody Q (some (.bare r))) :
    ((endSession sid s).bind f).Follows custody Q (some (.bare (some (⟨sid⟩, some s.vaultToken)))) := by
  have split : (endSession sid s).bind f =
      (ask (.deleteSession ⟨sid⟩)).bind fun _ => (revokeTokenQuietly s.vaultToken).bind f :=
    Interaction.Prog.bind_assoc _ _ _
  rw [split]
  exact ending_follows failed rest

theorem checkSession_follows (sid : String) (s : Session) (now : Time) :
    (checkSession site sid s now).Follows custody (Reads ⟨sid⟩) (some (.bare (some (⟨sid⟩, some s.vaultToken)))) := by
  have failed (exn : Exc) (r : Option (Digest × Option Secret)) : Reads ⟨sid⟩ (.error exn) (some (.bare r)) :=
    Or.inr ⟨r, rfl⟩
  unfold checkSession
  split
  · exact endSession_follows failed fun r => Or.inr ⟨r, rfl⟩
  · split
    · refine Follows.bind ((tokenless_follows (tokenless_recheck s) _).mono fun outcome q same => ?_)
      subst same
      cases outcome with
      | error exn => exact failed exn _
      | ok rights =>
        cases rights with
        | true => exact touch_follows sid s true
        | false =>
          refine endSession_follows failed fun r => ?_
          refine Follows.bind ((Tidy.audit _ _ _ _ _ _ r).mono fun outcome q away => ?_)
          cases outcome with
          | error exn => exact away
          | ok _ => exact away
    · exact touch_follows sid s false

theorem currentSession_follows (r : Option (Digest × Option Secret)) :
    (currentSession site req).Follows custody (Reads ⟨req.sid.getD ""⟩) (some (.bare r)) := by
  unfold currentSession
  cases given : truthy req.sid with
  | none => exact Or.inr ⟨r, rfl⟩
  | some sid =>
    have same : req.sid.getD "" = sid := by
      obtain ⟨read, -⟩ := Option.filter_eq_some_iff.mp given
      rw [read]
      rfl
    rw [same]
    refine get_follows (fun exn => Or.inr ⟨r, rfl⟩) Reads.of_none fun row _ => ?_
    cases row with
    | none => exact Or.inr ⟨_, rfl⟩
    | some s =>
      refine Follows.bind (Follows.perform (fun _ _ => trivial) fun answer => ?_)
      cases answer with
      | error exn => exact Or.inr ⟨_, rfl⟩
      | ok now => exact checkSession_follows sid s now

/-- The session that a request is given is the row it has read. -/
theorem requireAdmin_follows (r : Option (Digest × Option Secret)) :
    (requireAdmin site req).Follows custody (fun outcome => Reads ⟨req.sid.getD ""⟩ (outcome.map some))
      (some (.bare r)) := by
  refine Follows.bind ((currentSession_follows r).mono fun outcome q reads => ?_)
  rcases outcome with exn | _ | s
  · exact reads
  · exact reads
  · have away : PutAway q := reads.imp_right fun same => ⟨_, same⟩
    have lifted {α : Type} (outcome : Except Exc α) {f : α → Portal Session}
        (rest : ∀ value, (f value).Follows custody (fun outcome => Reads ⟨req.sid.getD ""⟩ (outcome.map some)) q) :
        ((lift outcome).bind f).Follows custody (fun outcome => Reads ⟨req.sid.getD ""⟩ (outcome.map some)) q := by
      cases outcome with
      | error exn => exact away
      | ok value => exact rest value
    change (if req.route.safe then (.ret s : Portal Session) else _).Follows _ _ _
    split
    · exact reads
    · refine lifted _ fun _ => lifted _ fun same => ?_
      cases same with
      | true => exact reads
      | false => exact away

/-- A login in progress: the thread has the token in its hand, if nothing was lost. -/
def LoggedIn (token : Secret) (q : Option Hand) : Prop := q = none ∨ ∃ r, q = some ⟨r, some token, []⟩

theorem replaceSession_follows (old : String) (token : Secret) (r : Option (Digest × Option Secret)) :
    (replaceSession old).Follows custody
      (fun outcome q => LoggedIn token q ∧ ∀ exn, outcome = .error exn → q = none) (some ⟨r, some token, []⟩) := by
  refine get_follows (fun exn => ⟨Or.inl rfl, fun _ _ => rfl⟩) (fun _ => ⟨Or.inl rfl, fun _ _ => rfl⟩)
    fun row other => delete_follows rfl (fun exn => ⟨Or.inl rfl, fun _ _ => rfl⟩) ?_
  cases row with
  | none => exact ⟨Or.inr ⟨_, rfl⟩, nofun⟩
  | some s =>
    refine (revokeToken_follows _ s.vaultToken).mono fun outcome q ⟨passed, same⟩ => ?_
    subst passed same
    have kept : token ≠ s.vaultToken := fun same => other ⟨rfl, congrArg some same⟩
    refine ⟨Or.inr ⟨some (⟨old⟩, some s.vaultToken), ?_⟩, nofun⟩
    simp [Hand.passes, Hand.puts, Hand.tokenOf, Option.filter, kept]

theorem createSession_follows (username : String) (token : Secret) (r : Option (Digest × Option Secret)) :
    (createSession username token).Follows custody (fun _ => PutAway) (some ⟨r, some token, []⟩) := by
  have asked {β : Type} {op : Op} {f : Ans op → Portal β} (allowed : op = .tokenUrlsafe ∨ op = .now)
      (rest : ∀ value, (f value).Follows custody (fun _ => PutAway) (some ⟨r, some token, []⟩)) :
      ((ask op).bind f).Follows custody (fun _ => PutAway) (some ⟨r, some token, []⟩) := by
    refine Follows.bind (Follows.perform (fun _ _ => ?_) fun answer => ?_)
    · rcases allowed with rfl | rfl <;> trivial
    · cases answer with
      | error exn => rcases allowed with rfl | rfl <;> exact Or.inl rfl
      | ok value => rcases allowed with rfl | rfl <;> exact rest value
  refine asked (Or.inl rfl) fun sid => asked (Or.inl rfl) fun csrf => asked (Or.inr rfl) fun now => ?_
  refine Follows.bind (Follows.perform (fun h same => ?_) fun answer => ?_)
  · cases same
    rfl
  · have put : (Hand.puts ⟨r, some token, []⟩ token) = .bare r := by simp [Hand.puts, Hand.bare, Option.filter]
    cases answer with
    | error exn => exact Or.inr ⟨r, congrArg some put⟩
    | ok _ => exact Or.inr ⟨r, congrArg some put⟩

theorem admitAdmin_follows (username : String) (token : Secret) (policies : List String)
    (r : Option (Digest × Option Secret)) :
    (admitAdmin req username token policies).Follows custody (fun _ => PutAway) (some ⟨r, some token, []⟩) := by
  unfold admitAdmin
  split
  · refine Follows.bind ((revokeToken_follows _ token).mono fun outcome q ⟨passed, same⟩ => ?_)
    subst passed same
    have bare : (Hand.passes ⟨r, some token, []⟩ token) = .bare r := by
      simp [Hand.passes, Hand.puts, Hand.bare, Option.filter]
    exact ((Tidy.loginPage _ _ _).bind fun _ => Tidy.ret _).rest (Or.inr ⟨r, congrArg some bare⟩)
  · have replaced : (forGiven req.sid replaceSession).Follows custody
        (fun outcome q => LoggedIn token q ∧ ∀ exn, outcome = .error exn → q = none) (some ⟨r, some token, []⟩) := by
      unfold forGiven
      split
      · exact replaceSession_follows _ token r
      · exact ⟨Or.inr ⟨r, rfl⟩, nofun⟩
    refine Follows.bind (replaced.mono fun outcome q ⟨loggedIn, lost⟩ => ?_)
    cases outcome with
    | error exn => exact Or.inl (lost exn rfl)
    | ok _ =>
      rcases loggedIn with rfl | ⟨r, rfl⟩
      · exact follows_lost fun _ => Or.inl rfl
      · refine Follows.bind ((createSession_follows username token r).mono fun outcome q away => ?_)
        cases outcome with
        | error exn => exact away
        | ok sid => exact ((Tidy.audit _ _ _ _ _ _).bind fun _ => Tidy.ret _).rest away

theorem tokenless_of_grants {p : Portal α} (all : p.All Op.ofGrants) : p.All Op.tokenless := by
  refine all.mono fun op ofGrants => ?_
  cases op
  case getSession | createSession | deleteSession | purgeSessions | userpassLogin | revokeSelf => exact ofGrants.elim
  all_goals trivial

namespace Tidy

theorem loginAdmitted (username password : String) : Tidy (loginAdmitted req username password) := by
  unfold Vdba.loginAdmitted
  split
  · exact (loginPage _ _ _).bind fun _ => ret _
  · intro r
    have asked : (userpassLogin username password).Follows custody (fun outcome q =>
        match outcome with
        | .ok (token, _) => q = some ⟨r, some token, []⟩
        | .error _ => q = some (.bare r)) (some (.bare r)) := by
      refine Follows.onError (Follows.perform (fun h same => by cases same; rfl) fun answer => ?_)
      cases answer with
      | ok answer => rfl
      | error exn =>
        dsimp only
        split
        · rfl
        · split <;> rfl
    have logged : ((some <$> userpassLogin username password).onError fun exn =>
        if exn.cls = .permissionError then .ret none else .raise exn).Follows custody (fun outcome q =>
        match outcome with
        | .ok (some (token, _)) => q = some ⟨r, some token, []⟩
        | .ok none | .error _ => q = some (.bare r)) (some (.bare r)) := by
      refine Follows.onError (Follows.bind (asked.mono fun outcome q same => ?_))
      cases outcome with
      | ok answer => exact same
      | error exn =>
        dsimp only [Follows.Then]
        split
        · exact same
        · exact same
    refine Follows.bind (logged.mono fun outcome q same => ?_)
    rcases outcome with exn | _ | ⟨token, policies⟩
    · exact Or.inr ⟨r, same⟩
    · subst same
      exact ((loginPage _ _ _).bind fun _ => ret _) r
    · subst same
      exact admitAdmin_follows username token policies r

theorem doLogin (username password : String) : Tidy (doLogin req username password) := by
  refine (loginAdmitted username password).admit_.unlessBusy.bind fun outcome => ?_
  cases outcome <;> exact ret _

theorem loginSubmit : Tidy (loginSubmit site req) := by
  refine (lift _).bind fun _ => ?_
  dsimp only
  split
  · exact raise _
  · refine (lift _).bind fun same => ?_
    split
    · exact doLogin _ _
    · exact raise _

theorem requireAdmin : Tidy (requireAdmin site req) := fun r => (requireAdmin_follows r).mono fun outcome q reads => by
  cases outcome with
  | error exn => exact reads
  | ok s => exact reads.imp_right fun same => ⟨_, same⟩

theorem logout : Tidy ((Vdba.requireAdmin site req).bind fun s => doLogout req s) := by
  intro r
  refine Follows.bind ((requireAdmin_follows r).mono fun outcome q reads => ?_)
  cases outcome with
  | error exn => exact reads
  | ok s =>
    rcases reads with rfl | rfl
    · exact follows_lost fun _ => Or.inl rfl
    · exact ending_follows (fun _ r => Or.inr ⟨r, rfl⟩) fun r => ((audit _ _ _ _ _ _).bind fun _ => ret _) r

theorem of_grants {p : Portal α} (all : p.All Op.ofGrants) : Tidy p := of_all (tokenless_of_grants all)

theorem catalog (db : DbType) : Tidy (catalog db) := of_grants (grants_of_basic (basic_catalog db))

theorem indexPage (result : Option Issued) (error : Option String) (status : Nat) :
    Tidy (indexPage site s result error status) := by
  have tables (db : DbType) (error : Option String) : Tidy (indexTables db error) := by
    refine ((catalog db).admit_.bind fun _ => ret _).onError fun exn => ?_
    split <;> exact ret _
  exact (tables _ _).bind fun _ => (tables _ _).bind fun _ => (ask (.listGrants 100) trivial).bind fun _ => ret _

theorem issueGrant (body : GrantRequest) : Tidy (issueGrant site req s body) := by
  refine (of_grants (grants_issue _ _ _ _)).admit_.onError fun exn => ?_
  cases exn.cls <;> exact raise _

theorem createGrantForm : Tidy (createGrantForm site req s) := by
  unfold Vdba.createGrantForm
  split
  · exact indexPage _ _ _
  · refine (issueGrant _).attempt.bind fun outcome => ?_
    cases outcome with
    | ok issued => exact indexPage _ _ _
    | error exn =>
      dsimp only
      split
      · exact indexPage _ _ _
      · exact indexPage _ _ _
      · exact raise _

theorem revokeGrant (id : GrantId) : Tidy (revokeGrant req s id) := by
  refine Tidy.bind ((of_grants (grants_revoke _ _ _)).admit_.onError fun exn => ?_) fun g => ?_
  · cases exn.cls <;> exact raise _
  · split <;> exact ret _

theorem rotateAdmitted (db : DbType) : Tidy (rotateAdmitted req s db) := by
  have rotated : Tidy (rotateRoot db) := of_all (call_all trivial trivial (tokenless_ask _ trivial))
  refine (rotated.onError fun exn => ?_).bind fun _ => audit _ _ _ _ _ _
  split
  · exact raise _
  · exact (audit _ _ _ _ _ _).bind fun _ => raise _

theorem matched (param : Except String α) : Tidy (matched param) := by
  cases param with
  | ok value => exact ret value
  | error message => exact raise _

theorem dispatch (req : Request) : Tidy (dispatch site req) := by
  unfold Vdba.dispatch
  cases route : req.route with
  | healthz => exact ret _
  | loginForm error => exact (ask .tokenUrlsafe trivial).bind fun _ => ret _
  | login => exact loginSubmit
  | logout => exact logout
  | index => exact requireAdmin.bind fun s => indexPage _ _ _
  | createGrantForm => exact requireAdmin.bind fun s => createGrantForm
  | revokeGrant api id => exact requireAdmin.bind fun s => (matched id).bind fun id => revokeGrant id
  | apiSession => exact requireAdmin.bind fun s => ret _
  | apiCreateGrant body =>
    cases body with
    | malformed message => exact raise _
    | invalid message => exact requireAdmin.bind fun s => raise _
    | accepted body =>
      refine requireAdmin.bind fun s => ?_
      unfold apiCreateGrant
      split
      · exact (issueGrant body).bind fun _ => ret _
      · exact raise _
  | apiListGrants => exact requireAdmin.bind fun s => (ask (.listGrants 500) trivial).bind fun _ => ret _
  | apiListTables db =>
    exact requireAdmin.bind fun s => (matched db).bind fun db => (catalog db).admit_.unlessBusy.bind fun _ => ret _
  | settingsPage message => exact requireAdmin.bind fun s => ret _
  | rotateConnection db =>
    refine requireAdmin.bind fun s => (matched db).bind fun db => (rotateAdmitted db).admit_.unlessBusy.bind fun _ => ?_
    split <;> exact ret _

theorem handle (req : Request) : Tidy (handle site req) := by
  refine (dispatch req).attempt.bind fun outcome => ?_
  cases outcome with
  | ok response => exact ask (.respond response) trivial
  | error exn => exact ask (.respond (answer req exn)) trivial

theorem of_pass {p : Portal α} (all : p.All Op.ofPass) : Tidy p := by
  refine of_all (all.mono fun op ofPass => ?_)
  cases op
  case getSession | createSession | deleteSession | purgeSessions | userpassLogin | revokeSelf => exact ofPass.elim
  all_goals trivial

theorem forEach {xs : List β} {f : β → Portal Unit} (each : ∀ x, Tidy (f x)) :
    Tidy (Interaction.Prog.forEach xs f) := by
  induction xs with
  | nil => exact ret ()
  | cons x xs ih => exact (each x).bind fun _ => ih

/-- The tokens of sessions that were purged are passed on one by one. -/
theorem purged (rows : List Session) (r : Option (Digest × Option Secret)) (dropped : List Secret)
    (left : dropped ⊆ rows.map (·.vaultToken)) :
    (Interaction.Prog.forEach rows fun session => revokeTokenQuietly session.vaultToken).Follows custody
      (fun _ => PutAway) (some ⟨r, none, dropped⟩) := by
  induction rows generalizing dropped with
  | nil =>
    have none_left : dropped = [] := List.subset_nil.mp left
    subst none_left
    exact Or.inr ⟨r, rfl⟩
  | cons row rows ih =>
    refine Follows.bind ((revokeToken_follows _ row.vaultToken).mono fun outcome q ⟨passed, same⟩ => ?_)
    subst passed same
    refine ih _ fun token member => ?_
    obtain ⟨among, other⟩ := List.mem_filter.mp member
    have either := left among
    simp only [decide_eq_true_eq] at other
    simpa [other] using either

theorem reconcileOnce : Tidy reconcileOnce := by
  refine (ask .now trivial).bind fun now => (ask (.listByStatus _) trivial).bind fun rows => ?_
  refine (forEach fun g => of_pass (ofPass_reconcileRow now g)).bind fun _ => ?_
  intro r
  have clock := tokenless_follows (tokenless_ask .now trivial) r
  refine Follows.bind (Follows.bind (clock.mono fun outcome q same => ?_))
  subst same
  cases outcome with
  | error exn => exact Or.inr ⟨r, rfl⟩
  | ok now =>
    change (Vdba.ask (.purgeSessions now)).Follows _ _ _
    refine Follows.perform (fun _ _ => trivial) fun answer => ?_
    cases answer with
    | error exn => exact Or.inr ⟨r, rfl⟩
    | ok rows =>
      change List Session at rows
      have listed : rows.map (·.vaultToken) ++ [] ⊆ rows.map (·.vaultToken) := by
        rw [List.append_nil]
        exact List.Subset.refl _
      refine Follows.bind ((purged rows r _ listed).mono fun outcome q away => ?_)
      cases outcome with
      | error exn => exact away
      | ok _ => exact (of_pass ofPass_reportOrphans).rest away

end Tidy

end tidy

/-- What the threads know of the tokens is right, and each token is somewhere. -/
structure Books (hands : Nat → Hand) (held : List (Digest × Secret)) (g : Custody) : Prop where
  ids : (held.map (·.1)).Nodup
  tokens : (held.map (·.2)).Nodup
  named : ∀ d token, (d, token) ∈ held → d ∈ g.named
  mine : ∀ d token, (d, token) ∈ held → ∃ t, (t, token) ∈ g.returned
  once : ∀ t u token, (t, token) ∈ g.returned → (u, token) ∈ g.returned → t = u
  hand : ∀ t, (hands t).login = g.hand t
  row : ∀ t d r, (hands t).row = some (d, r) → d ∈ g.named ∧ ∀ token, (d, token) ∈ held → r = some token
  login : ∀ t token, g.hand t = some token → (t, token) ∈ g.returned ∧ ∀ d, (d, token) ∉ held
  settled : ∀ t token, (t, token) ∈ g.returned →
    g.hand t = some token ∨ (∃ d, (d, token) ∈ held) ∨ token ∈ g.passed ∨ ∃ u, (u, token) ∈ g.dropped
  dropped : ∀ t token, (t, token) ∈ g.dropped → token ∈ g.passed ∨ token ∈ (hands t).dropped

section books
variable {hands : Nat → Hand} {held held' : List (Digest × Secret)} {g : Custody} {t u : Nat} {token : Secret}
  {sid : Digest} {v w : World} {op : Op} {c : Choice}

theorem snd_of_ids (ids : (held.map (·.1)).Nodup) {d : Digest} {a b : Secret} (first : (d, a) ∈ held)
    (second : (d, b) ∈ held) : a = b := by
  have same := List.inj_on_of_nodup_map ids first second rfl
  exact congrArg Prod.snd same

theorem Custody.puts_hand (u : Nat) :
    (g.puts t token).hand u = if u = t then (g.hand t).filter (· ≠ token) else g.hand u := by
  by_cases same : u = t
  · subst same
    simp [Custody.puts]
  · simp [Custody.puts, same]

namespace Books

theorem start : Books (fun _ => .bare none) World.initial.held Custody.empty := by
  refine ⟨List.nodup_nil, List.nodup_nil, ?_, ?_, ?_, fun _ => rfl, ?_, ?_, ?_, ?_⟩
  · intro d token member
    cases member
  · intro d token member
    cases member
  · intro t u token member
    cases member
  · intro t d r row
    cases row
  · intro t token hand
    cases hand
  · intro t token member
    cases member
  · intro t token member
    cases member

/-- A lookup of a session. -/
theorem reads (books : Books hands held g) {r : Option Secret} (right : ∀ token, (sid, token) ∈ held → r = some token) :
    Books (Function.update hands t { hands t with row := some (sid, r) }) held { g with named := sid :: g.named } := by
  refine ⟨books.ids, books.tokens, fun d token member => List.mem_cons_of_mem _ (books.named d token member),
    books.mine, books.once, fun u => ?_, fun u d r' row => ?_, books.login, books.settled, fun u token member => ?_⟩
  · by_cases same : u = t
    · subst same
      simpa using books.hand u
    · simpa [same] using books.hand u
  · by_cases same : u = t
    · subst same
      simp only [Function.update_self, Option.some.injEq, Prod.mk.injEq] at row
      obtain ⟨rfl, rfl⟩ := row
      exact ⟨List.mem_cons_self, right⟩
    · simp only [Function.update_of_ne same] at row
      obtain ⟨named, right'⟩ := books.row u d r' row
      exact ⟨List.mem_cons_of_mem _ named, right'⟩
  · by_cases same : u = t
    · subst same
      simpa using books.dropped u token member
    · simpa [same] using books.dropped u token member

/-- A new session for the token that the thread has in its hand. -/
theorem creates (books : Books hands held g) (mine : g.hand t = some token) (fresh : sid ∉ g.named) :
    Books (Function.update hands t ((hands t).puts token)) (held ++ [(sid, token)])
      { g.puts t token with named := sid :: g.named } := by
  obtain ⟨got, unheld⟩ := books.login t token mine
  have put : (g.puts t token).hand t = none := by
    rw [Custody.puts_hand, if_pos rfl, mine]
    simp [Option.filter]
  have others (u : Nat) (other : u ≠ t) : (g.puts t token).hand u = g.hand u := by
    rw [Custody.puts_hand, if_neg other]
  refine ⟨?_, ?_, fun d token' member => ?_, fun d token' member => ?_, books.once, fun u => ?_, fun u d r row => ?_,
    fun u token' hand => ?_, fun u token' member => ?_, fun u token' member => ?_⟩
  · have absent : sid ∉ held.map (·.1) := fun member => by
      obtain ⟨⟨d, token'⟩, there, rfl⟩ := List.mem_map.mp member
      exact fresh (books.named _ _ there)
    simpa [List.nodup_append] using ⟨books.ids, fun d token' member same =>
      absent (List.mem_map.mpr ⟨(d, token'), member, same⟩)⟩
  · simpa [List.nodup_append] using ⟨books.tokens, fun token' d member same => unheld d (same ▸ member)⟩
  · rcases List.mem_append.mp member with member | member
    · exact List.mem_cons_of_mem _ (books.named d token' member)
    · cases List.mem_singleton.mp member
      exact List.mem_cons_self
  · rcases List.mem_append.mp member with member | member
    · exact books.mine d token' member
    · cases List.mem_singleton.mp member
      exact ⟨t, got⟩
  · by_cases same : u = t
    · subst same
      rw [Function.update_self, put, Hand.puts, books.hand u, mine]
      simp [Option.filter]
    · rw [Function.update_of_ne same, others u same]
      exact books.hand u
  · have before : (hands u).row = some (d, r) := by
      by_cases same : u = t
      · subst same
        simpa [Hand.puts] using row
      · simpa [same] using row
    obtain ⟨named, right⟩ := books.row u d r before
    refine ⟨List.mem_cons_of_mem _ named, fun token' member => ?_⟩
    rcases List.mem_append.mp member with member | member
    · exact right token' member
    · cases List.mem_singleton.mp member
      exact absurd named fresh
  · have other : u ≠ t := by
      rintro rfl
      rw [put] at hand
      cases hand
    rw [others u other] at hand
    obtain ⟨got', unheld'⟩ := books.login u token' hand
    refine ⟨got', fun d member => ?_⟩
    rcases List.mem_append.mp member with member | member
    · exact unheld' d member
    · cases List.mem_singleton.mp member
      exact other (books.once u t token got' got)
  · by_cases this : token' = token
    · subst this
      exact Or.inr (Or.inl ⟨sid, by simp⟩)
    · rcases books.settled u token' member with hand | ⟨d, there⟩ | rest
      · refine Or.inl ?_
        have other : u ≠ t := by
          rintro rfl
          rw [mine] at hand
          exact this (Option.some.inj hand).symm
        exact (others u other).trans hand
      · exact Or.inr (Or.inl ⟨d, List.mem_append_left _ there⟩)
      · exact Or.inr (Or.inr rest)
  · by_cases same : u = t
    · subst same
      simpa [Hand.puts, Custody.puts] using books.dropped u token' member
    · simpa [Custody.puts, same] using books.dropped u token' member

/-- Sessions are deleted; the thread knows the tokens of those that were there. -/
theorem drops (books : Books hands held g) {known gone : List Secret} (fewer : held'.Sublist held)
    (gone_iff : ∀ token, token ∈ gone ↔ ∃ d, (d, token) ∈ held ∧ d ∉ held'.map (·.1)) (known_gone : gone ⊆ known) :
    Books (Function.update hands t { hands t with dropped := known ++ (hands t).dropped }) held'
      { g with dropped := gone.map (fun token => (t, token)) ++ g.dropped } := by
  have hand (u : Nat) : ((Function.update hands t { hands t with dropped := known ++ (hands t).dropped }) u).login =
      (hands u).login ∧ ((Function.update hands t { hands t with dropped := known ++ (hands t).dropped }) u).row =
      (hands u).row := by
    by_cases same : u = t
    · subst same
      simp
    · simp [same]
  refine ⟨books.ids.sublist (fewer.map _), books.tokens.sublist (fewer.map _),
    fun d token member => books.named d token (fewer.subset member),
    fun d token member => books.mine d token (fewer.subset member), books.once, fun u => ?_, fun u d r row => ?_,
    fun u token mine => ?_, fun u token member => ?_, fun u token member => ?_⟩
  · rw [(hand u).1]
    exact books.hand u
  · rw [(hand u).2] at row
    obtain ⟨named, right⟩ := books.row u d r row
    exact ⟨named, fun token member => right token (fewer.subset member)⟩
  · obtain ⟨got, unheld⟩ := books.login u token mine
    exact ⟨got, fun d member => unheld d (fewer.subset member)⟩
  · rcases books.settled u token member with mine | ⟨d, there⟩ | passed | ⟨u, dropped⟩
    · exact Or.inl mine
    · by_cases still : d ∈ held'.map (·.1)
      · obtain ⟨⟨d', token'⟩, there', rfl⟩ := List.mem_map.mp still
        have same := snd_of_ids books.ids (fewer.subset there') there
        subst same
        exact Or.inr (Or.inl ⟨d', there'⟩)
      · have lost := (gone_iff token).mpr ⟨d, there, still⟩
        exact Or.inr (Or.inr (Or.inr ⟨t, List.mem_append_left _ (List.mem_map.mpr ⟨token, lost, rfl⟩)⟩))
    · exact Or.inr (Or.inr (Or.inl passed))
    · exact Or.inr (Or.inr (Or.inr ⟨u, List.mem_append_right _ dropped⟩))
  · rcases List.mem_append.mp member with member | member
    · obtain ⟨token', lost, same⟩ := List.mem_map.mp member
      cases same
      refine Or.inr ?_
      rw [Function.update_self]
      exact List.mem_append_left _ (known_gone lost)
    · refine (books.dropped u token member).imp_right fun there => ?_
      by_cases same : u = t
      · subst same
        rw [Function.update_self]
        exact List.mem_append_right _ there
      · rwa [Function.update_of_ne same]

/-- A log-in is answered with a token that was never returned before. -/
theorem logs (books : Books hands held g) (free : g.hand t = none) (fresh : ∀ u, (u, token) ∉ g.returned) :
    Books (Function.update hands t { hands t with login := some token }) held
      { g with returned := (t, token) :: g.returned, hand := Function.update g.hand t (some token) } := by
  have unheld (d : Digest) : (d, token) ∉ held := fun member => by
    obtain ⟨u, got⟩ := books.mine d token member
    exact fresh u got
  refine ⟨books.ids, books.tokens, books.named, fun d token' member => ?_, fun u u' token' first second => ?_,
    fun u => ?_, fun u d r row => ?_, fun u token' mine => ?_, fun u token' member => ?_, fun u token' member => ?_⟩
  · obtain ⟨u, got⟩ := books.mine d token' member
    exact ⟨u, List.mem_cons_of_mem _ got⟩
  · rcases List.mem_cons.mp first with same | first
    · cases same
      rcases List.mem_cons.mp second with same | second
      · cases same
        rfl
      · exact absurd second (fresh u')
    · rcases List.mem_cons.mp second with same | second
      · cases same
        exact absurd first (fresh u)
      · exact books.once u u' token' first second
  · by_cases same : u = t
    · subst same
      simp
    · simpa [same] using books.hand u
  · by_cases same : u = t
    · subst same
      rw [Function.update_self] at row
      exact books.row u d r row
    · rw [Function.update_of_ne same] at row
      exact books.row u d r row
  · change Function.update g.hand t (some token) u = some token' at mine
    by_cases same : u = t
    · subst same
      rw [Function.update_self] at mine
      cases mine
      exact ⟨List.mem_cons_self, unheld⟩
    · rw [Function.update_of_ne same] at mine
      obtain ⟨got, unheld'⟩ := books.login u token' mine
      exact ⟨List.mem_cons_of_mem _ got, unheld'⟩
  · rcases List.mem_cons.mp member with same | member
    · cases same
      exact Or.inl (Function.update_self ..)
    · refine (books.settled u token' member).imp_left fun mine => ?_
      have other : u ≠ t := by
        rintro rfl
        rw [free] at mine
        cases mine
      exact (Function.update_of_ne other _ _).trans mine
  · by_cases same : u = t
    · subst same
      rw [Function.update_self]
      exact books.dropped u token' member
    · rw [Function.update_of_ne same]
      exact books.dropped u token' member

/-- A token is passed on. -/
theorem passes (books : Books hands held g) (token : Secret) :
    Books (Function.update hands t ((hands t).passes token)) held
      { g.puts t token with passed := token :: g.passed } := by
  refine ⟨books.ids, books.tokens, books.named, books.mine, books.once, fun u => ?_, fun u d r row => ?_,
    fun u token' mine => ?_, fun u token' member => ?_, fun u token' member => ?_⟩
  · by_cases same : u = t
    · subst same
      simp [Custody.puts, Hand.passes, Hand.puts, books.hand u]
    · simpa [Custody.puts, same] using books.hand u
  · refine books.row u d r ?_
    by_cases same : u = t
    · subst same
      simpa [Hand.passes, Hand.puts] using row
    · simpa [same] using row
  · refine books.login u token' ?_
    by_cases same : u = t
    · subst same
      rw [Custody.puts_hand, if_pos rfl] at mine
      exact (Option.filter_eq_some_iff.mp mine).1
    · rwa [Custody.puts_hand, if_neg same] at mine
  · by_cases this : token' = token
    · exact Or.inr (Or.inr (Or.inl (this ▸ List.mem_cons_self)))
    · rcases books.settled u token' member with mine | there | passed | dropped
      · refine Or.inl ?_
        change (g.puts t token).hand u = some token'
        rw [Custody.puts_hand]
        split
        · rename_i same
          subst same
          rw [mine]
          simp [Option.filter, this]
        · exact mine
      · exact Or.inr (Or.inl there)
      · exact Or.inr (Or.inr (Or.inl (List.mem_cons_of_mem _ passed)))
      · exact Or.inr (Or.inr (Or.inr dropped))
  · by_cases this : token' = token
    · exact Or.inl (this ▸ List.mem_cons_self)
    · refine (books.dropped u token' member).imp (List.mem_cons_of_mem _) fun there => ?_
      by_cases same : u = t
      · subst same
        rw [Function.update_self]
        simpa [Hand.passes, Hand.puts, this] using there
      · rwa [Function.update_of_ne same]

end Books

theorem gone_iff (v w : World) (token : Secret) :
    token ∈ v.gone w ↔ ∃ d, (d, token) ∈ v.held ∧ d ∉ w.held.map (·.1) := by
  simp [World.gone]

theorem gone_nil (kept : v.held ⊆ w.held) : v.gone w = [] := by
  refine List.eq_nil_iff_forall_not_mem.mpr fun token member => ?_
  obtain ⟨d, there, lost⟩ := (gone_iff v w token).mp member
  exact lost (List.mem_map.mpr ⟨(d, token), kept there, rfl⟩)

theorem note_kept (answer : Except Exc (Ans op)) (kept : v.held ⊆ w.held) :
    Custody.note t op v answer w g = g.learns t op answer := by
  rw [Custody.note, gone_nil kept]
  cases op <;> first | rfl | (cases answer <;> rfl)

theorem note_same (answer : Except Exc (Ans op)) (same : w.held = v.held) :
    Custody.note t op v answer w g = g.learns t op answer := note_kept answer fun x member => by rw [same]; exact member

/-- A call that makes and deletes no session. -/
def Op.sessionless : Op → Prop
  | .createSession _ | .deleteSession _ | .purgeSessions _ => False
  | _ => True

theorem effect_held (sessionless : op.sessionless) (w : World) (t : Nat) (c : Choice) :
    (w.effect t c op).held = w.held := by
  cases op
  case createSession | deleteSession | purgeSessions => exact sessionless.elim
  case touchSession now sid checked =>
    simp only [World.held, World.effect, Store.touchSession, List.map_map]
    refine List.map_congr_left fun session _ => ?_
    by_cases same : session.sid = sid <;> simp [same]
  case mark m => cases m <;> rfl
  case updateGrant now id fields =>
    simp only [World.held, World.effect, World.updated, World.noteWrite]
    split <;> rfl
  case runStatement db text account =>
    rw [World.effect]
    cases ran : w.statement db text account c.count with
    | none => rfl
    | some w' =>
      rcases World.statement_cases ran with ⟨-, rfl⟩ | ⟨_, _, -, -, rfl⟩
      · rfl
      · rfl
  all_goals rfl

theorem exec_held {answer : Except Exc (Ans op)} (sessionless : op.sessionless)
    (executed : exec t op c v = some (answer, w)) : w.held = v.held := by
  rcases exec_effect executed with rfl | ⟨rfl, -⟩
  · rfl
  · exact effect_held sessionless v t c

theorem settle_steady {α : Type} {honest : World → Exc → Bool} {u : World} {value : α} {answer : Except Exc α}
    (done : settle c honest v u value = some (answer, w)) (steady : ∀ exn, c.fate ≠ .lost exn) :
    answer = .ok value ∧ w = u ∨ ∃ exn, answer = .error exn ∧ w = v ∧ c.fate = .fail exn := by
  unfold settle at done
  split at done
  · cases done
    exact Or.inl ⟨rfl, rfl⟩
  · rename_i exn fate
    simp only [Option.ite_none_right_eq_some, Option.some.injEq, Prod.mk.injEq] at done
    obtain ⟨-, rfl, rfl⟩ := done
    exact Or.inr ⟨exn, rfl, rfl, fate⟩
  · rename_i exn fate
    exact absurd fate (steady exn)

theorem held_getSession (row : Session) (found : v.store.getSession sid = some row) :
    (sid, row.vaultToken) ∈ v.held := by
  have there := List.mem_of_find?_eq_some found
  have same : row.sid = sid := by simpa using List.find?_some found
  exact List.mem_map.mpr ⟨row, there, by rw [same]⟩

theorem held_of_none (found : v.store.getSession sid = none) (token : Secret) : (sid, token) ∉ v.held := by
  intro member
  obtain ⟨row, there, same⟩ := List.mem_map.mp member
  have other := List.find?_eq_none.mp found row there
  cases same
  simp at other

theorem held_filter (p : Session → Bool) :
    (World.held { v with store := { v.store with sessions := v.store.sessions.filter p } }).Sublist v.held :=
  List.filter_sublist.map _

namespace Books

/-- A call of a thread leaves the books right. -/
theorem own {answer : Except Exc (Ans op)} (books : Books hands v.held g) (allowed : custody.allows (some (hands t)) op)
    (executed : exec t op c v = some (answer, w)) (genuine : Genuine g c op) (steady : Steady g t c op) :
    ∃ h, (hands t).after op answer = some h ∧
      Books (Function.update hands t h) w.held (Custody.note t op v answer w g) := by
  have known := allowed (hands t) rfl
  have still (same : w.held = v.held) (after : (hands t).after op answer = some (hands t))
      (learns : g.learns t op answer = g) :
      ∃ h, (hands t).after op answer = some h ∧
        Books (Function.update hands t h) w.held (Custody.note t op v answer w g) := by
    refine ⟨hands t, after, ?_⟩
    rw [Function.update_eq_self, note_same answer same, learns, same]
    exact books
  have same (sessionless : op.sessionless) : w.held = v.held := exec_held sessionless executed
  have noted (sessionless : op.sessionless) : Custody.note t op v answer w g = g.learns t op answer :=
    note_same answer (same sessionless)
  have fails (free : ¬(g.hand t).isSome = true) : (hands t).fails = some (hands t) := by
    rw [Hand.fails, books.hand t, if_neg free]
  cases op
  case getSession sid =>
    rcases settle_cases executed with ⟨rfl, rfl, -⟩ | ⟨exn, rfl, failed, -, -⟩
    · have right (token : Secret) (member : (sid, token) ∈ w.held) :
          (w.store.getSession sid).map (·.vaultToken) = some token := by
        cases found : w.store.getSession sid with
        | none => exact absurd member (held_of_none found token)
        | some row => exact congrArg some (snd_of_ids books.ids (held_getSession row found) member)
      have other : ¬((hands t).login.isSome = true ∧
          (hands t).login = (w.store.getSession sid).map (·.vaultToken)) := by
        rintro ⟨mine, clash⟩
        obtain ⟨token, login⟩ := Option.isSome_iff_exists.mp mine
        rw [login] at clash
        cases found : w.store.getSession sid with
        | none => rw [found] at clash; cases clash
        | some row =>
          rw [found] at clash
          cases clash
          exact (books.login t _ ((books.hand t).symm.trans login)).2 sid (held_getSession row found)
      refine ⟨{ hands t with row := some (sid, (w.store.getSession sid).map (·.vaultToken)) }, if_neg other, ?_⟩
      rw [noted trivial]
      exact books.reads right
    · exact still (same trivial) (fails fun mine => failed (steady mine)) rfl
  case createSession session =>
    have mine : g.hand t = some session.vaultToken := by
      rw [← books.hand t]
      exact known
    have made : w.held = v.held ++ [(session.sid, session.vaultToken)] := by
      rcases settle_cases executed with ⟨-, rfl, -⟩ | ⟨exn, -, -, ⟨-, failed⟩ | rfl, -⟩
      · simp [World.held, Store.createSession]
      · exact absurd failed (steady (by rw [mine]; rfl) exn)
      · simp [World.held, Store.createSession]
    refine ⟨(hands t).puts session.vaultToken, rfl, ?_⟩
    rw [note_kept answer (by rw [made]; exact List.subset_append_left _ _), made]
    exact books.creates mine genuine
  case deleteSession sid =>
    obtain ⟨r, read⟩ := known
    rcases settle_steady executed steady.2 with ⟨rfl, rfl⟩ | ⟨exn, rfl, rfl, failed⟩
    · refine ⟨_, rfl, books.drops (held_filter _) (gone_iff v _) fun token lost => ?_⟩
      obtain ⟨d, there, absent⟩ := (gone_iff v _ token).mp lost
      have this : d = sid := by
        by_contra other
        obtain ⟨row, member, same⟩ := List.mem_map.mp there
        cases same
        refine absent (List.mem_map.mpr ⟨(row.sid, row.vaultToken), List.mem_map.mpr ⟨row, ?_, rfl⟩, rfl⟩)
        exact List.mem_filter.mpr ⟨member, by simpa using other⟩
      subst this
      rw [Hand.tokenOf, read, (books.row t d r read).2 token there]
      simp
    · exact still rfl (fails fun mine => by rw [steady.1 mine] at failed; cases failed) rfl
  case purgeSessions now =>
    rcases settle_steady executed steady with ⟨rfl, rfl⟩ | ⟨exn, rfl, rfl, -⟩
    · refine ⟨_, rfl, books.drops (held_filter _) (gone_iff v _) fun token lost => ?_⟩
      obtain ⟨d, there, absent⟩ := (gone_iff v _ token).mp lost
      obtain ⟨row, member, same⟩ := List.mem_map.mp there
      cases same
      refine List.mem_map.mpr ⟨row, List.mem_filter.mpr ⟨member, ?_⟩, rfl⟩
      by_contra fresh
      refine absent (List.mem_map.mpr ⟨(row.sid, row.vaultToken), List.mem_map.mpr ⟨row, ?_, rfl⟩, rfl⟩)
      exact List.mem_filter.mpr ⟨member, by simpa using fresh⟩
    · exact still rfl rfl rfl
  case userpassLogin username password =>
    rcases settle_cases executed with ⟨rfl, rfl, -⟩ | ⟨exn, rfl, -, -, -⟩
    · refine ⟨{ hands t with login := some c.secret }, rfl, ?_⟩
      rw [noted trivial, same trivial]
      exact books.logs ((books.hand t).symm.trans known) genuine
    · exact still (same trivial) rfl rfl
  case revokeSelf token =>
    refine ⟨(hands t).passes token, rfl, ?_⟩
    rw [noted trivial, same trivial]
    exact books.passes token
  case now | tokenUrlsafe =>
    cases executed
    exact still rfl rfl rfl
  all_goals exact still (same trivial) rfl rfl

end Books

end books

section runs
variable {site : Site} {duties : Nat → Duty} {s : Kept}

/-- The threads know what the books say. -/
def Kept.Right (q : Nat → Option Hand) (x : World × Custody) : Prop :=
  ∃ hands : Nat → Hand, q = (fun t => some (hands t)) ∧ Books hands x.1.held x.2

theorem Duty.tidy (duty : Duty) : Tidy (duty.code site) := by
  cases duty with
  | serves req => exact Tidy.handle req
  | reconciles => exact Tidy.reconcileOnce

theorem Kept.guides : Protocol.Guides (fun _ => custody) recorded (fun t _ => (duties t).code site) (Kept.Allows true)
    Kept.Right (some (.bare none)) PutAway where
  own := by
    intro s t choice op next answer w q allowed at_t right follows executed
    obtain ⟨hands, rfl, books⟩ := right
    obtain ⟨executed, noted⟩ := Interaction.Machine.recording_exec executed
    obtain ⟨genuine, steady⟩ := allowed _ _ at_t
    obtain ⟨h, after, books'⟩ := books.own follows executed genuine (steady rfl)
    have moved : custody.after (some (hands t)) op answer = some h := after
    refine ⟨Function.update hands t h, ?_, noted ▸ books'⟩
    funext u
    rw [moved]
    by_cases same : u = t
    · subst same
      simp
    · simp [same]
  env := by
    intro s event x q allowed moved right
    obtain ⟨hands, rfl, books⟩ := right
    obtain ⟨w, happened, rfl⟩ := Option.map_eq_some_iff.mp moved
    have same : w.held = s.world.1.held := by rw [World.held, World.held, Event.happen_store happened]
    exact ⟨hands, rfl, by rw [same]; exact books⟩
  reset allowed := allowed.elim
  entry t _ := (duties t).tidy none

/-- In the runs without these failures, no token is lost. -/
theorem Kept.Run.accounted (run : Kept.Run site duties true s) (t : Nat) (past : s.Over t) : s.Accounted t := by
  obtain ⟨q, guided⟩ := Kept.guides.guided ⟨⟨_, rfl, Books.start⟩, fun _ _ => rfl, fun t p at_t => by cases at_t⟩ run
  obtain ⟨hands, rfl, books⟩ := guided.inv
  have bare (u : Nat) (past : s.Over u) : ∃ r, hands u = .bare r := by
    cases at_u : s.threads u with
    | none => exact ⟨none, Option.some.inj (guided.idle u at_u)⟩
    | some p =>
      have away : PutAway (some (hands u)) := by
        have follows := guided.threads u p at_u
        rcases past p at_u with rfl | ⟨exn, rfl⟩
        · exact follows
        · exact follows
      rcases away with lost | ⟨r, same⟩
      · cases lost
      · exact ⟨r, Option.some.inj same⟩
  have dropped (u : Nat) (past : s.Over u) (token : Secret) (lost : (u, token) ∈ s.world.2.dropped) :
      token ∈ s.world.2.passed := by
    obtain ⟨r, same⟩ := bare u past
    rcases books.dropped u token lost with passed | left
    · exact passed
    · rw [same] at left
      cases left
  refine ⟨fun token got => ?_, dropped t past⟩
  rcases books.settled t token got with mine | ⟨d, there⟩ | passed | ⟨u, lost⟩
  · obtain ⟨r, same⟩ := bare t past
    rw [← books.hand t, same] at mine
    cases mine
  · have tokens := books.tokens
    rw [World.held, List.map_map] at tokens
    obtain ⟨row, member, same⟩ := List.mem_map.mp there
    cases same
    have one := List.count_eq_one_of_mem tokens (List.mem_map.mpr ⟨row, member, rfl⟩)
    rw [List.count_eq_countP, List.countP_map, List.countP_eq_length_filter] at one
    refine Or.inl ((congrArg List.length (List.filter_congr fun row' _ => ?_)).trans one)
    exact (beq_eq_decide _ _).symm
  · exact Or.inr (Or.inl passed)
  · by_cases ended : s.Over u
    · exact Or.inr (Or.inl (dropped u ended token lost))
    · exact Or.inr (Or.inr ⟨u, ended, lost⟩)

/-- The test of `Kept.Allows`, step by step; a steady call succeeds. -/
def Kept.admits (steady : Bool) (s : Kept) : Turn → Bool
  | .run t c =>
    match s.threads t with
    | some (.call op _) =>
      (match op with
        | .createSession session => decide (session.sid ∉ s.world.2.named)
        | .userpassLogin .. => s.world.2.returned.all fun x => x.2 ≠ c.secret
        | _ => true) &&
      (!steady || match c.fate with | .ok => true | _ => false)
    | _ => true
  | .kill => false
  | .env _ | .spawn .. => true

theorem Kept.admits_ok (steady : Bool) (s : Kept) (label : Turn) (tested : s.admits steady label = true) :
    s.Allows steady label := by
  cases label with
  | env => trivial
  | spawn => trivial
  | kill => cases tested
  | run t c =>
    intro op next at_t
    simp only [admits, at_t, Bool.and_eq_true, Bool.or_eq_true] at tested
    obtain ⟨genuine, calm⟩ := tested
    refine ⟨?_, fun asked => ?_⟩
    · cases op
      case createSession session =>
        have new : session.sid ∉ s.world.2.named := of_decide_eq_true genuine
        exact new
      case userpassLogin =>
        intro u got
        have other := List.all_eq_true.mp genuine _ got
        simp at other
      all_goals trivial
    · have fate : c.fate = .ok := by
        rcases calm with unasked | calm
        · rw [asked] at unasked
          cases unasked
        · cases fate : c.fate with
          | ok => rfl
          | fail exn => rw [fate] at calm; cases calm
          | lost exn => rw [fate] at calm; cases calm
      cases op
      case getSession => exact fun _ => fate
      case createSession => exact fun _ exn failed => by rw [fate] at failed; cases failed
      case deleteSession => exact ⟨fun _ => fate, fun exn lost => by rw [fate] at lost; cases lost⟩
      case purgeSessions => exact fun exn lost => by rw [fate] at lost; cases lost
      all_goals trivial

/-- The thread has ended, as a test. -/
def Kept.ended (s : Kept) (t : Nat) : Bool :=
  match s.threads t with
  | some (.ret _) | some (.raise _) => true
  | _ => false

theorem Kept.over_of_ended {t : Nat} (ended : s.ended t = true) : s.Over t := by
  intro p at_t
  rw [Kept.ended, at_t] at ended
  cases p with
  | ret value => exact Or.inl rfl
  | raise exn => exact Or.inr ⟨exn, rfl⟩
  | call op next => cases ended
  | iter body next => cases ended

/-- A log-in, as far as the calls go that are given. -/
def Kept.loggingIn (steady : Bool) (turns : List (Kept → Turn)) : Kept :=
  Pool.play recorded (fun t _ => (loginThenLogout t).code someSite) (Kept.admits steady)
    ((fun _ => .spawn 0 ()) :: turns) ⟨(World.initial, Custody.empty), fun _ => none⟩

def Kept.turn (t : Nat) (s : Kept) : Turn := System.turn t s.plain

theorem Kept.loggingIn_run (steady : Bool) (turns : List (Kept → Turn)) :
    Kept.Run someSite loginThenLogout steady (Kept.loggingIn steady turns) :=
  Pool.Reach.play (Kept.admits_ok steady) _ .start

def loggedInState : Kept := Kept.loggingIn true (List.replicate 12 (Kept.turn 0))

theorem loggedInState_ended :
    loggedInState.ended 0 = true ∧ (0, Secret.mk "secret") ∈ loggedInState.world.2.returned := by decide

theorem loggedInState_accounted : loggedInState.Accounted 0 :=
  Kept.Run.accounted (Kept.loggingIn_run true _) 0 (Kept.over_of_ended loggedInState_ended.1)

/-- A turn in which the row of a new session cannot be written. -/
def Kept.failingTurn (s : Kept) : Turn :=
  match s.threads 0 with
  | some (.call (.createSession _) _) => .run 0 { fate := .fail ⟨.other "OperationalError", "database is locked"⟩ }
  | _ => Kept.turn 0 s

def lostTokenState : Kept := Kept.loggingIn false (List.replicate 12 Kept.failingTurn)

theorem lostTokenState_lost : lostTokenState.ended 0 = true ∧
    (0, Secret.mk "secret") ∈ lostTokenState.world.2.returned ∧ lostTokenState.world.1.store.sessions = [] ∧
    lostTokenState.world.2.passed = [] ∧ lostTokenState.world.2.dropped = [] := by decide

theorem failed_login_not_accounted :
    ¬∀ s, Kept.Run someSite loginThenLogout false s → ∀ t, s.Over t → s.Accounted t := by
  intro always
  obtain ⟨ended, got, rows, passed, dropped⟩ := lostTokenState_lost
  have accounted : lostTokenState.Accounted 0 := always _ (Kept.loggingIn_run false _) 0 (Kept.over_of_ended ended)
  rcases accounted.returned _ got with one | there | ⟨u, -, lost⟩
  · rw [rows] at one
    cases one
  · rw [passed] at there
    cases there
  · rw [dropped] at lost
    cases lost

end runs
end Vdba
