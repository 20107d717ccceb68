import Vdba.Main

namespace Vdba

/-- The origins that the configuration allows besides the host of the request. -/
def Site.origins (site : Site) : List String :=
  site.cfg.extraOrigins ++ if site.cfg.publicOrigin ≠ "" then [site.cfg.publicOrigin] else []

/-- `urlsplit` fails with a `ValueError` only. -/
def Site.Splits (site : Site) : Prop := ∀ url exn, site.netloc url = .error exn → exn.cls = .valueError

/-- The fetch metadata speak of no other site. -/
def FetchedHere (req : Request) : Prop :=
  ∀ value, truthy req.secFetchSite = some value → value = "same-origin" ∨ value = "none"

/-- The origin names a host, which is that of the request or that of a configured origin. -/
def NamesHost (site : Site) (req : Request) (origin : String) : Prop :=
  origin ≠ "null" ∧ ∃ host, site.netloc origin = .ok host ∧ host ≠ "" ∧
    (req.host = some host ∨ ∃ o ∈ site.origins, site.netloc o = .ok host)

/-- A request from the portal's own pages, as its headers tell. -/
def SameOrigin (site : Site) (req : Request) : Prop :=
  FetchedHere req ∧
    match truthy req.origin with
    | none => (truthy req.secFetchSite).isSome = true
    | some origin => NamesHost site req origin

/-- The check lets exactly the same-origin requests pass, and answers the others with a 403. -/
def OriginRight (site : Site) (req : Request) : Prop :=
  (checkOrigin site req = .ok () ↔ SameOrigin site req) ∧
    (¬SameOrigin site req → ∃ detail, checkOrigin site req = .error (httpException 403 detail))

/-- Where the check gets to the origin, `urlsplit` takes the configured origins and the one of the request, and an
origin without a host meets no empty host. -/
def OriginsPlain (site : Site) (req : Request) : Prop :=
  FetchedHere req → ∀ origin, truthy req.origin = some origin →
    (∀ o ∈ site.origins, ∃ host, site.netloc o = .ok host) ∧
      (origin ≠ "null" → ∃ host, site.netloc origin = .ok host ∧
        (host = "" → req.host.getD "" ≠ "" ∧ ∀ o ∈ site.origins, site.netloc o ≠ .ok ""))

section hosts
variable {site : Site} {req : Request}

theorem mapM_ok {f : String → Except Exc String} {urls hosts : List String} (mapped : urls.mapM f = .ok hosts) :
    (∀ url ∈ urls, ∃ host, f url = .ok host) ∧ ∀ host, host ∈ hosts ↔ ∃ url ∈ urls, f url = .ok host := by
  induction urls generalizing hosts with
  | nil =>
    cases mapped
    simp
  | cons url urls ih =>
    rw [List.mapM_cons] at mapped
    cases first : f url with
    | error exn => rw [first] at mapped; cases mapped
    | ok head =>
      cases rest : urls.mapM f with
      | error exn => rw [first, rest] at mapped; cases mapped
      | ok tail =>
        rw [first, rest] at mapped
        cases mapped
        obtain ⟨split, members⟩ := ih rest
        have heads (host : String) : host = head ↔ f url = .ok host := by simp [first, eq_comm]
        refine ⟨?_, fun host => ?_⟩
        · simp only [List.mem_cons, forall_eq_or_imp]
          exact ⟨⟨head, first⟩, split⟩
        · simp only [List.mem_cons, exists_eq_or_imp, members, heads]

theorem mapM_error {f : String → Except Exc String} {urls : List String} {exn : Exc}
    (failed : urls.mapM f = .error exn) : ∃ url ∈ urls, f url = .error exn := by
  induction urls with
  | nil => cases failed
  | cons url urls ih =>
    rw [List.mapM_cons] at failed
    cases first : f url with
    | error other =>
      rw [first] at failed
      cases failed
      exact ⟨url, List.mem_cons_self, first⟩
    | ok head =>
      cases rest : urls.mapM f with
      | ok tail => rw [first, rest] at failed; cases failed
      | error other =>
        rw [first, rest] at failed
        cases failed
        obtain ⟨url', member, at_url⟩ := ih rest
        exact ⟨url', List.mem_cons_of_mem url member, at_url⟩

theorem allowedHosts_eq (site : Site) (req : Request) :
    allowedHosts site req = (site.origins.mapM site.netloc).map (req.host.getD "" :: ·) := by
  unfold allowedHosts Site.origins
  rw [List.mapM_append]
  cases site.cfg.extraOrigins.mapM site.netloc with
  | error exn => rfl
  | ok extra =>
    by_cases given : site.cfg.publicOrigin ≠ ""
    · rw [if_pos given, List.mapM_cons]
      cases at_public : site.netloc site.cfg.publicOrigin with
      | error exn => simp [given, bind, Except.bind, Except.map]
      | ok host => simp [given, bind, Except.bind, Except.map, pure, Except.pure]
    · rw [if_neg given]
      simp [given, bind, Except.bind, Except.map, pure, Except.pure]

/-- The allowed hosts are those of the request and of the configured origins, if these can all be split. -/
theorem allowedHosts_cases (site : Site) (req : Request) :
    (∃ o ∈ site.origins, ∃ exn, site.netloc o = .error exn ∧ allowedHosts site req = .error exn) ∨
    ∃ hosts, allowedHosts site req = .ok hosts ∧ (∀ o ∈ site.origins, ∃ host, site.netloc o = .ok host) ∧
      ∀ host, host ∈ hosts ↔ host = req.host.getD "" ∨ ∃ o ∈ site.origins, site.netloc o = .ok host := by
  rw [allowedHosts_eq]
  cases split : site.origins.mapM site.netloc with
  | error exn =>
    obtain ⟨o, member, at_o⟩ := mapM_error split
    exact Or.inl ⟨o, member, exn, at_o, rfl⟩
  | ok hosts =>
    obtain ⟨all, members⟩ := mapM_ok split
    exact Or.inr ⟨_, rfl, all, fun host => by rw [List.mem_cons, members]⟩

end hosts

section check
variable {site : Site} {req : Request}

/-- What the check does with an origin. -/
def originOutcome (site : Site) (req : Request) (origin : String) : Except Exc Unit := do
  let allowed ← allowedHosts site req
  if origin = "null" then .error (httpException 403 "origin not allowed")
  else
    let host ← site.netloc origin
    if host ∈ allowed then .ok () else .error (httpException 403 "origin not allowed")

theorem checkOrigin_foreign (foreign : ¬FetchedHere req) :
    checkOrigin site req = .error (httpException 403 "cross-site request rejected") := by
  unfold FetchedHere at foreign
  push Not at foreign
  obtain ⟨value, fetched, other⟩ := foreign
  simp [checkOrigin, fetched, other]

theorem checkOrigin_here (here : FetchedHere req) :
    checkOrigin site req =
      match truthy req.origin with
      | none =>
        if (truthy req.secFetchSite).isNone then .error (httpException 403 "Origin header required") else .ok ()
      | some origin => originOutcome site req origin := by
  have quiet : ((truthy req.secFetchSite).any fun value => value ≠ "same-origin" ∧ value ≠ "none") = false := by
    cases fetched : truthy req.secFetchSite with
    | none => rfl
    | some value =>
      rcases here value fetched with rfl | rfl <;> rfl
  unfold checkOrigin
  simp only [quiet]
  rfl

theorem forbidden_inj {exn : Exc} (value : exn.cls = .valueError) (detail : String) :
    exn ≠ httpException 403 detail := by
  rintro rfl
  cases value

theorem value_wrong {outcome : Except Exc Unit} {exn : Exc} {right : Prop} (failed : outcome = .error exn)
    (value : exn.cls = .valueError) :
    ¬((outcome = .ok () ↔ right) ∧ (¬right → ∃ detail, outcome = .error (httpException 403 detail))) := by
  rintro ⟨passes, refuses⟩
  subst failed
  by_cases holds : right
  · cases passes.mpr holds
  · obtain ⟨detail, same⟩ := refuses holds
    exact forbidden_inj value detail (Except.error.inj same)

/-- The host of the request, when the name to compare is not empty. -/
theorem host_given {host : String} (given : host ≠ "") : host = req.host.getD "" ↔ req.host = some host := by
  cases req.host with
  | none => simp [given]
  | some name => simp [eq_comm]

theorem originOutcome_right (splits : site.Splits) (origin : String) :
    ((originOutcome site req origin = .ok () ↔ NamesHost site req origin) ∧
      (¬NamesHost site req origin → ∃ detail, originOutcome site req origin = .error (httpException 403 detail))) ↔
    (∀ o ∈ site.origins, ∃ host, site.netloc o = .ok host) ∧
      (origin ≠ "null" → ∃ host, site.netloc origin = .ok host ∧
        (host = "" → req.host.getD "" ≠ "" ∧ ∀ o ∈ site.origins, site.netloc o ≠ .ok "")) := by
  rcases allowedHosts_cases site req with ⟨o, member, exn, at_o, failed⟩ | ⟨hosts, allowed, split, members⟩
  · have outcome : originOutcome site req origin = .error exn := by simp [originOutcome, failed, bind, Except.bind]
    refine iff_of_false (value_wrong outcome (splits o exn at_o)) fun ⟨split, _⟩ => ?_
    obtain ⟨host, found⟩ := split o member
    rw [at_o] at found
    cases found
  · by_cases null : origin = "null"
    · have outcome : originOutcome site req origin = .error (httpException 403 "origin not allowed") := by
        simp [originOutcome, allowed, null, bind, Except.bind]
      have unnamed : ¬NamesHost site req origin := fun names => names.1 null
      exact iff_of_true ⟨iff_of_false (by simp [outcome]) unnamed, fun _ => ⟨_, outcome⟩⟩ ⟨split,
        fun other => absurd null other⟩
    · cases at_origin : site.netloc origin with
      | error exn =>
        have outcome : originOutcome site req origin = .error exn := by
          simp [originOutcome, allowed, null, at_origin, bind, Except.bind]
        refine iff_of_false (value_wrong outcome (splits origin exn at_origin)) fun ⟨_, found⟩ => ?_
        obtain ⟨host, same, -⟩ := found null
        cases same
      | ok host =>
        have outcome : originOutcome site req origin =
            if host ∈ hosts then .ok () else .error (httpException 403 "origin not allowed") := by
          simp [originOutcome, allowed, null, at_origin, bind, Except.bind]
        have named : NamesHost site req origin ↔
            host ≠ "" ∧ (req.host = some host ∨ ∃ o ∈ site.origins, site.netloc o = .ok host) := by
          simp [NamesHost, null, at_origin]
        have plain : (origin ≠ "null" → ∃ other, Except.ok (ε := Exc) host = .ok other ∧
            (other = "" → req.host.getD "" ≠ "" ∧ ∀ o ∈ site.origins, site.netloc o ≠ .ok "")) ↔
            (host = "" → host ∉ hosts) := by
          simp only [ne_eq, null, not_false_eq_true, true_implies, Except.ok.injEq, exists_eq_left']
          refine forall_congr' fun empty => ?_
          subst empty
          rw [members]
          push Not
          rw [ne_comm]
        rw [plain, outcome, named]
        by_cases empty : host = ""
        · subst empty
          by_cases member : "" ∈ hosts
          · simp [member]
          · simpa [member] using split
        · have same : host ∈ hosts ↔ req.host = some host ∨ ∃ o ∈ site.origins, site.netloc o = .ok host := by
            rw [members, host_given empty]
          rw [← same]
          by_cases member : host ∈ hosts
          · simpa [empty, member] using split
          · simpa [empty, member] using split

/-- The origin check is right exactly where the origins that it gets to are plain. -/
theorem checkOrigin_right (site : Site) (req : Request) (splits : site.Splits) :
    OriginRight site req ↔ OriginsPlain site req := by
  unfold OriginRight OriginsPlain SameOrigin
  by_cases here : FetchedHere req
  · rw [checkOrigin_here here]
    cases given : truthy req.origin with
    | none => cases fetched : truthy req.secFetchSite <;> simp [here]
    | some origin =>
      simp only [here, true_and, true_implies, Option.some.injEq, forall_eq']
      exact originOutcome_right splits origin
  · have refused : checkOrigin site req = .error (httpException 403 "cross-site request rejected") :=
      checkOrigin_foreign here
    have unlike : ¬checkOrigin site req = .ok () := by simp [refused]
    refine iff_of_true ⟨iff_of_false unlike fun same => here same.1, fun _ => ⟨_, refused⟩⟩ fun fetched => ?_
    exact absurd fetched here

end check

/-- The scheme in front of a colon. -/
def isScheme (chars : List Char) : Bool :=
  match chars with
  | [] => false
  | first :: _ => first.isAlpha && chars.all fun c => c.isAlphanum || c ∈ ['+', '-', '.']

/-- What stands between `//` and the path, if there is such a part behind the scheme. -/
def authority (url : String) : Option (List Char) :=
  let chars := (url.toList.dropWhile (·.toNat ≤ 32)).filter (· ∉ ['\t', '\r', '\n'])
  let scheme := chars.takeWhile (· ≠ ':')
  let rest := if scheme.length < chars.length ∧ isScheme scheme then chars.drop (scheme.length + 1) else chars
  if rest.take 2 = ['/', '/'] then some ((rest.drop 2).takeWhile (· ∉ ['/', '?', '#'])) else none

/-- `urlsplit(url).netloc`, but for the check of the text between brackets. -/
def urlNetloc (url : String) : Except Exc String :=
  match authority url with
  | none => .ok ""
  | some netloc =>
    if ('[' ∈ netloc) ↔ (']' ∈ netloc) then .ok (String.ofList netloc) else .error (valueError "Invalid IPv6 URL")

def urlSite : Site := ⟨⟨10, 86400, 300, false, "", []⟩, urlNetloc⟩

theorem urlSite_splits : urlSite.Splits := by
  intro url exn failed
  have failed : urlNetloc url = .error exn := failed
  unfold urlNetloc at failed
  split at failed
  · cases failed
  · split at failed
    · cases failed
    · cases failed
      rfl

/-- A request of a browser whose page has the origin, sent to the host. -/
def originRequest (origin : String) (host : Option String) : Request where
  id := "1"
  route := .logout
  secFetchSite := some "same-origin"
  origin := some origin
  host := host

theorem portalOrigin_right : OriginRight urlSite (originRequest "http://portal" (some "portal")) := by
  refine (checkOrigin_right _ _ urlSite_splits).mpr fun _ origin given => ?_
  obtain rfl : origin = "http://portal" := by
    have same : some "http://portal" = some origin := given
    exact (Option.some.inj same).symm
  refine ⟨fun o member => ?_, fun _ => ⟨"portal", by decide +kernel, fun empty => ?_⟩⟩
  · cases member
  · simp at empty

theorem brackets_not_right : ¬OriginRight urlSite (originRequest "http://[" (some "portal")) ∧
    ¬OriginRight urlSite (originRequest "portal" none) := by
  constructor
  · have outcome : checkOrigin urlSite (originRequest "http://[" (some "portal")) =
        .error (valueError "Invalid IPv6 URL") := by decide +kernel
    exact value_wrong outcome rfl
  · intro right
    have outcome : checkOrigin urlSite (originRequest "portal" none) = .ok () := by decide +kernel
    have empty : urlSite.netloc "portal" = .ok "" := by decide +kernel
    have same := right.1.mp outcome
    obtain ⟨-, host, at_host, given, -⟩ : NamesHost urlSite (originRequest "portal" none) "portal" := same.2
    rw [empty] at at_host
    cases at_host
    exact given rfl

end Vdba
