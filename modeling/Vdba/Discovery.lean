import Vdba.Admission
import Vdba.Interaction.Path

namespace Vdba
open Interaction (Exchange Pool)

abbrev Answers := List (Exchange calls Exc)

/-- What the lookups of the first accessors of a listing came to, one after the other. -/
inductive LookedUp : List String → Answers → List (String × Except Exc (Option String)) → Prop
  | none {keys} : LookedUp keys [] []
  | next {acc rest first trace result looked} : (Service.call (ask (.lookupAccessor acc))).Runs first result →
      LookedUp rest trace looked → LookedUp (acc :: rest) (first ++ trace) ((acc, result) :: looked)

/-- The name of a token that was made for the label. -/
def isNameOf (label name : String) : Bool :=
  name = label || name = "token-" ++ label || name = "token-" ++ dashed label

/-- A lookup that has shown a token of the label. -/
def showsToken (label : String) : Except Exc (Option String) → Bool
  | .ok (some name) => isNameOf label name
  | _ => false

/-- A lookup after which the search goes on: there was a token, or it is said to be gone. -/
def passesBy : Except Exc (Option String) → Bool
  | .ok _ => true
  | .error exn => exn.gone

/-- The whole listing was looked up and its tokens of the label are returned, or a lookup has failed and the search
with it. -/
def Reports (label : String) (keys : List String) (looked : List (String × Except Exc (Option String))) :
    Except Exc (List String) → Prop
  | .ok found => looked.map (·.1) = keys ∧ (∀ x ∈ looked, passesBy x.2 = true) ∧
      found = (looked.filter fun x => showsToken label x.2).map (·.1)
  | .error exn => ∃ before acc, looked = before ++ [(acc, .error exn)] ∧ exn.gone = false ∧
      ∀ x ∈ before, passesBy x.2 = true

/-- What a search does with a listing: it is not had, too long, or looked up. -/
def Searches (label : String) (trace : Answers) (outcome : Except Exc (List String)) :
    Except Exc (Option (List String)) → Prop
  | .error exn => trace = [] ∧ outcome = .error exn
  | .ok resp =>
    if MAX_ACCESSOR_SCAN < (resp.getD []).length then trace = [] ∧ ∃ text, outcome = .error ⟨.runtimeError, text⟩
    else ∃ looked, LookedUp (resp.getD []) trace looked ∧ Reports label (resp.getD []) looked outcome

/-- A call as it was answered, and the world of a run of the service in which it was. -/
def Heard (site : Site) (duties : Nat → Duty) (x : World × Exchange calls Exc) : Prop :=
  (∃ s : System, System.Serving site duties (fun _ _ => True) s ∧ s.world = x.1) ∧
    ∃ t c w, exec t x.2.1 c x.1 = some (x.2.2, w)

/-- If the service was answered like this, then none of the accessors was that of a live token of the label when it was
looked up. -/
def NoneLive (label : String) (keys : List String) (trace : Answers) : Prop :=
  ∀ site duties (history : List (World × Exchange calls Exc)), history.map (·.2) = trace →
    (∀ x ∈ history, Heard site duties x) → ∀ acc ∈ keys, ∃ x ∈ history, x.2.1 = .lookupAccessor acc ∧
      ∀ token ∈ x.1.vault.tokens, token.accessor = acc → token.label ≠ label

/-- A run of `find_token_accessors`: a listing, and what it does with it. -/
def Finds (label : String) (trace : Answers) (outcome : Except Exc (List String)) : Prop :=
  ∃ first rest listed, trace = first ++ rest ∧ (Service.call (ask .listAccessors)).Runs first listed ∧
    Searches label rest outcome listed ∧
    ∀ resp : Option (List String), listed = .ok resp → outcome = .ok [] → NoneLive label (resp.getD []) rest

section labels
variable {t : Nat} {op : Op} {c : Choice} {v w : World}

/-- Vault knows the label of every live token by its accessor. -/
def Labelled (w : World) : Prop := ∀ token ∈ w.vault.tokens, w.vault.accessors token.accessor = some token.label

theorem Labelled.same (labelled : Labelled v) (same : w.vault.accessors = v.vault.accessors)
    (fewer : ∀ token ∈ w.vault.tokens, token ∈ v.vault.tokens) : Labelled w := by
  intro token member
  rw [same]
  exact labelled token (fewer token member)

theorem Labelled.addToken {token : Token} (labelled : Labelled w) (new : w.vault.accessors token.accessor = none) :
    Labelled (w.addToken token) := by
  intro other member
  rcases List.mem_cons.mp member with rfl | member
  · exact Function.update_self ..
  · have known := labelled other member
    have distinct : other.accessor ≠ token.accessor := by
      intro same
      rw [same, new] at known
      cases known
    exact (Function.update_of_ne distinct _ _).trans known

theorem Labelled.exec {answer : Except Exc (Ans op)} (labelled : Labelled v)
    (executed : exec t op c v = some (answer, w)) : Labelled w := by
  by_cases creates : ∃ ttl label, op = .createToken ttl label
  · obtain ⟨ttl, label, rfl⟩ := creates
    rcases settleIf_cases executed with ⟨-, rfl, -, can⟩ | ⟨-, -, -, rfl | ⟨rfl, can⟩, -⟩
    · simp only [Bool.and_eq_true, Option.isNone_iff_eq_none] at can
      exact labelled.addToken can.1
    · exact labelled
    · simp only [Bool.and_eq_true, Option.isNone_iff_eq_none] at can
      exact labelled.addToken can.1
  · rcases exec_effect executed with rfl | ⟨rfl, -⟩
    · exact labelled
    · cases op
      case createToken ttl label => exact absurd ⟨ttl, label, rfl⟩ creates
      case revokeAccessor accessor => exact labelled.same rfl fun token member => (List.mem_filter.mp member).1
      case mark m => cases m <;> exact labelled
      case updateGrant now id fields =>
        refine labelled.same ?_ ?_
        all_goals
          simp only [World.effect, World.updated, World.noteWrite]
          split
        all_goals first | rfl | exact fun _ member => member
      case runStatement db text account =>
        rw [World.effect]
        cases ran : v.statement db text account c.count with
        | none => exact labelled
        | some w' => rcases World.statement_cases ran with ⟨-, rfl⟩ | ⟨_, _, -, -, rfl⟩ <;> exact labelled
      all_goals exact labelled

theorem Labelled.happen {event : Event} (labelled : Labelled v) (happened : event.happen v = some w) : Labelled w := by
  have foreign (tokens : List Token) (v : World) (labelled : Labelled v) : Labelled (Event.addForeign tokens v) := by
    induction tokens generalizing v with
    | nil => exact labelled
    | cons token tokens ih =>
      refine ih _ ?_
      split
      · rename_i new
        simp only [Event.foreign, Bool.and_eq_true, Option.isNone_iff_eq_none] at new
        exact labelled.addToken new.1
      · exact labelled
  cases event <;> simp only [Event.happen, Option.some.injEq, Option.ite_none_right_eq_some] at happened
  case login => obtain ⟨-, rfl⟩ := happened; exact labelled
  case startQuery => obtain ⟨-, rfl⟩ := happened; exact labelled
  case foreignTokens tokens => exact happened ▸ foreign tokens v labelled
  case tokenGone accessor =>
    subst happened
    exact labelled.same rfl fun token member => (List.mem_filter.mp member).1
  case leaseText lease text count =>
    cases live : v.liveLease lease with
    | none => rw [live] at happened; cases happened
    | some l =>
      rw [live] at happened
      simp only [Option.ite_none_right_eq_some] at happened
      rcases World.statement_cases happened.2 with ⟨-, rfl⟩ | ⟨_, _, -, -, rfl⟩ <;> exact labelled
  all_goals subst happened; exact labelled

/-- By induction on the run. -/
theorem System.Serving.labelled {site : Site} {duties : Nat → Duty} {s : System}
    {ok : System → Interaction.Label Nat Choice Event Unit → Prop} (run : System.Serving site duties ok s) :
    Labelled s.world := by
  induction run with
  | start => exact fun token member => by cases member
  | next _ _ stepped ih =>
    rcases Pool.step_world stepped with same | ⟨t, c, op, next, answer, -, -, executed⟩ | ⟨event, -, happened⟩ |
      ⟨-, same⟩
    · rw [same]
      exact ih
    · exact ih.exec executed
    · exact ih.happen happened
    · rw [same]
      exact ih

end labels

section search
variable {label : String} {trace : Answers}

theorem isNameOf_iff (name : String) : isNameOf label name = true ↔ name ∈ displayNames label := by
  simp only [isNameOf, displayNames, Bool.or_eq_true, decide_eq_true_eq, List.mem_cons, List.not_mem_nil, or_false]
  constructor
  · rintro ((same | same) | same)
    · exact Or.inr (Or.inr same)
    · exact Or.inr (Or.inl same)
    · exact Or.inl same
  · rintro (same | same | same)
    · exact Or.inr same
    · exact Or.inl (Or.inr same)
    · exact Or.inl (Or.inl same)

theorem lookup_runs {acc : String} {outcome : Except Exc (Option String)}
    (run : ((Service.call (ask (.lookupAccessor acc))).onError fun exn =>
      if exn.gone then .ret none else .raise exn : Portal (Option String)).Runs trace outcome) :
    ∃ result : Except Exc (Option String), (Service.call (ask (.lookupAccessor acc))).Runs trace result ∧
      ((∃ info, outcome = .ok info ∧ passesBy result = true ∧
          (result = .ok info ∨ ∃ exn, result = .error exn ∧ info = none)) ∨
        ∃ exn, result = .error exn ∧ exn.gone = false ∧ outcome = .error exn) := by
  rcases Interaction.Prog.Runs.of_onError run with ⟨value, asked, rfl⟩ | ⟨exn, first, rest, rfl, asked, handled⟩
  · exact ⟨.ok value, asked, Or.inl ⟨value, rfl, rfl, Or.inl rfl⟩⟩
  · have handled : (if exn.gone then .ret none else .raise exn : Portal (Option String)).Runs rest outcome := handled
    by_cases gone : exn.gone = true
    · rw [if_pos gone] at handled
      obtain ⟨rfl, rfl⟩ := Interaction.Prog.Runs.of_ret handled
      rw [List.append_nil]
      exact ⟨.error exn, asked, Or.inl ⟨none, rfl, gone, Or.inr ⟨exn, rfl, rfl⟩⟩⟩
    · rw [if_neg gone] at handled
      obtain ⟨rfl, rfl⟩ := Interaction.Prog.Runs.of_raise handled
      rw [List.append_nil]
      exact ⟨.error exn, asked, Or.inr ⟨exn, rfl, by simpa using gone, rfl⟩⟩

/-- By induction on the listing: a lookup that fails ends the search, and any other is followed by the rest. -/
theorem lookupAll_reports (keys : List String) {outcome : Except Exc (List String)}
    (run : (lookupAll (displayNames label) keys).Runs trace outcome) :
    ∃ looked, LookedUp keys trace looked ∧ Reports label keys looked outcome := by
  induction keys generalizing trace outcome with
  | nil =>
    obtain ⟨rfl, rfl⟩ := Interaction.Prog.Runs.of_ret run
    exact ⟨[], .none, rfl, by simp, rfl⟩
  | cons acc keys ih =>
    have later {first rest : Answers} {result : Except Exc (Option String)} {f : List String → Portal (List String)}
        (asked : (Service.call (ask (.lookupAccessor acc))).Runs first result) (passed : passesBy result = true)
        (after : ((lookupAll (displayNames label) keys).bind f).Runs rest outcome)
        (adds : ∀ found, f found = .ret (if showsToken label result then acc :: found else found)) :
        ∃ looked, LookedUp (acc :: keys) (first ++ rest) looked ∧ Reports label (acc :: keys) looked outcome := by
      rcases Interaction.Prog.Runs.of_bind after with ⟨exn, failed, rfl⟩ | ⟨found, middle, last, rfl, scanned, ended⟩
      · obtain ⟨looked, lookups, before, culprit, rfl, other, skipped⟩ := ih failed
        refine ⟨_, .next asked lookups, (acc, result) :: before, culprit, rfl, other, ?_⟩
        rw [List.forall_mem_cons]
        exact ⟨passed, skipped⟩
      · obtain ⟨looked, lookups, listed, skipped, shown⟩ := ih scanned
        rw [adds] at ended
        obtain ⟨rfl, rfl⟩ := Interaction.Prog.Runs.of_ret ended
        rw [List.append_nil]
        refine ⟨_, .next asked lookups, congrArg (acc :: ·) listed, ?_, ?_⟩
        · rw [List.forall_mem_cons]
          exact ⟨passed, skipped⟩
        · rw [List.filter_cons, shown]
          cases showsToken label result <;> rfl
    rcases Interaction.Prog.Runs.of_bind run with ⟨exn, failed, rfl⟩ | ⟨info, first, rest, rfl, asked, after⟩
    · obtain ⟨result, asked, found⟩ := lookup_runs failed
      rcases found with ⟨info, same, -⟩ | ⟨exn', rfl, other, same⟩
      · cases same
      · cases same
        refine ⟨_, ?_, [], acc, rfl, other, by simp⟩
        rw [← List.append_nil trace]
        exact .next asked .none
    · change Option String at info
      obtain ⟨result, asked, found⟩ := lookup_runs asked
      rcases found with ⟨info', same, passed⟩ | ⟨exn, rfl, other, same⟩
      · cases same
        refine later asked passed.1 after fun found => ?_
        rcases passed.2 with rfl | ⟨exn, rfl, rfl⟩
        · cases info with
          | none => rfl
          | some name =>
            by_cases named : name ∈ displayNames label
            · simp only [named, if_true, showsToken, (isNameOf_iff name).mpr named]
              rfl
            · have other : isNameOf label name = false := by
                rw [← Bool.not_eq_true, isNameOf_iff]
                exact named
              simp only [named, if_false, showsToken, other]
              rfl
        · rfl
      · cases same

/-- A call of the service that comes to an answer of Vault has it last. -/
theorem call_last {op : Op} {result : Except Exc (Ans op)} (run : (Service.call (ask op)).Runs trace result) :
    (⟨op, result⟩ : Exchange calls Exc) ∈ trace ∨ ∃ exn, result = .error exn ∧
      (exn.cls = .vaultUnavailable ∨ (⟨.client, .error exn⟩ : Exchange calls Exc) ∈ trace ∨
        (⟨.relogin, .error exn⟩ : Exchange calls Exc) ∈ trace) := by
  have asked {first : Op} {trace : Answers} {result : Except Exc (Ans op)} {f : Ans first → Portal (Ans op)}
      (same : f = fun _ => ask op) (run : ((ask first).bind f).Runs trace result) :
      (⟨op, result⟩ : Exchange calls Exc) ∈ trace ∨
        ∃ exn, result = .error exn ∧ (⟨first, .error exn⟩ : Exchange calls Exc) ∈ trace := by
    subst same
    rcases Interaction.Prog.Runs.of_bind run with ⟨exn, failed, rfl⟩ | ⟨value, before, rest, rfl, -, after⟩
    · have only := Interaction.Prog.Runs.of_perform failed
      exact Or.inr ⟨exn, rfl, by rw [only]; exact List.mem_cons_self⟩
    · have only := Interaction.Prog.Runs.of_perform after
      exact Or.inl (List.mem_append_right _ (by rw [only]; exact List.mem_cons_self))
  rcases Interaction.Prog.Runs.of_onError run with ⟨value, called, rfl⟩ | ⟨exn, before, rest, rfl, called, handled⟩
  · rcases asked rfl called with there | ⟨exn, same, -⟩
    · exact Or.inl there
    · cases same
  · have raised (again : (.raise exn : Portal (Ans op)).Runs rest result) :
        (⟨op, result⟩ : Exchange calls Exc) ∈ before ++ rest ∨ ∃ exn, result = .error exn ∧
          (exn.cls = .vaultUnavailable ∨ (⟨.client, .error exn⟩ : Exchange calls Exc) ∈ before ++ rest ∨
            (⟨.relogin, .error exn⟩ : Exchange calls Exc) ∈ before ++ rest) := by
      obtain ⟨rfl, rfl⟩ := Interaction.Prog.Runs.of_raise again
      rw [List.append_nil]
      rcases asked rfl called with there | ⟨exn', same, there⟩
      · exact Or.inl there
      · cases same
        exact Or.inr ⟨exn, rfl, Or.inr (Or.inl there)⟩
    have down (same : (.raise (unavailable exn) : Portal (Ans op)).Runs rest result) :
        ∃ exn, result = .error exn ∧ exn.cls = .vaultUnavailable :=
      ⟨unavailable exn, (Interaction.Prog.Runs.of_raise same).2, rfl⟩
    cases cls : exn.cls
    case forbidden =>
      rw [cls] at handled
      rcases asked rfl handled with there | ⟨exn', same, there⟩
      · exact Or.inl (List.mem_append_right _ there)
      · exact Or.inr ⟨exn', same, Or.inr (Or.inr (List.mem_append_right _ there))⟩
    case vaultDown | osError =>
      rw [cls] at handled
      obtain ⟨exn', same, unavailable⟩ := down handled
      exact Or.inr ⟨exn', same, Or.inl unavailable⟩
    all_goals
      rw [cls] at handled
      exact raised handled

/-- What Vault says of an accessor is so in the world in which it says it. -/
theorem lookup_honest {t : Nat} {c : Choice} {v w : World} {acc : String} {result : Except Exc (Option String)}
    (labelled : Labelled v) (executed : exec t (.lookupAccessor acc) c v = some (result, w))
    (passed : passesBy result = true) (other : showsToken label result = false) :
    ∀ token ∈ v.vault.tokens, token.accessor = acc → token.label ≠ label := by
  intro token member same mine
  cases found : v.vault.tokens.find? (·.accessor = acc) with
  | none => simpa [same] using List.find?_eq_none.mp found token member
  | some shown =>
    simp only [exec, found] at executed
    rcases settle_cases executed with ⟨rfl, -, -⟩ | ⟨exn, rfl, -, effect, honest⟩
    · have there := labelled shown (List.mem_of_find?_eq_some found)
      have its : shown.accessor = acc := by simpa using List.find?_some found
      have known := labelled token member
      rw [same, ← its, there] at known
      have named : isNameOf label shown.displayName = true := by
        rw [isNameOf_iff, Token.displayName, Option.some.inj known, mine]
        exact List.mem_cons_self
      have other : showsToken label (.ok (some shown.displayName)) = false := other
      rw [showsToken, named] at other
      cases other
    · have eq : w = v := by rcases effect with ⟨eq, -⟩ | eq <;> exact eq
      subst eq
      have gone : exn.gone = true := passed
      have dead : w.liveAccessor acc = false := by simpa [World.honestLookup, gone] using honest
      rw [World.liveAccessor, List.any_eq_false] at dead
      exact dead token member (by simpa using same)

theorem client_unavailable {t : Nat} {op : Op} {c : Choice} {v w : World} {exn : Exc}
    (client : op = .client ∨ op = .relogin) (executed : exec t op c v = some (.error exn, w)) :
    exn.cls = .vaultUnavailable := by
  have honest (done : settle c World.noClient v v () = some (.error exn, w)) : exn.cls = .vaultUnavailable := by
    rcases settle_cases done with ⟨same, -, -⟩ | ⟨exn', same, -, -, honest⟩
    · cases same
    · cases same
      simpa [World.noClient] using honest
  rcases client with rfl | rfl
  · exact honest executed
  · exact honest executed

/-- By induction on the lookups. -/
theorem LookedUp.noneLive {keys : List String} {looked : List (String × Except Exc (Option String))}
    (lookups : LookedUp keys trace looked) (whole : looked.map (·.1) = keys)
    (passed : ∀ x ∈ looked, passesBy x.2 = true) (others : ∀ x ∈ looked, showsToken label x.2 = false) :
    NoneLive label keys trace := by
  induction lookups with
  | none =>
    subst whole
    exact fun _ _ _ _ _ acc member => by cases member
  | @next acc rest first trace result looked asked _ ih =>
    intro site duties history same heard key member
    rw [List.forall_mem_cons] at passed others
    obtain ⟨early, late, rfl, before, after⟩ := List.map_eq_append_iff.mp same
    have clientless {op : Op} {exn : Exc} (there : (⟨op, .error exn⟩ : Exchange calls Exc) ∈ early.map (·.2))
        (client : op = .client ∨ op = .relogin := by simp) : exn.cls = .vaultUnavailable := by
      obtain ⟨⟨v, x⟩, member, rfl⟩ := List.mem_map.mp there
      obtain ⟨-, t, c, w, executed⟩ := heard _ (List.mem_append_left _ member)
      exact client_unavailable client executed
    rcases List.mem_cons.mp member with rfl | member
    · have spoken : (⟨.lookupAccessor key, result⟩ : Exchange calls Exc) ∈ first := by
        rcases call_last asked with there | ⟨exn, rfl, unavailable⟩
        · exact there
        · have gone : exn.gone = true := passed.1
          have other : exn.cls ≠ .vaultUnavailable := by
            intro same
            simp [Exc.gone, same] at gone
          rw [← before] at unavailable
          rcases unavailable with same | there | there
          · exact absurd same other
          · exact absurd (clientless there) other
          · exact absurd (clientless there) other
      rw [← before] at spoken
      obtain ⟨⟨v, x⟩, there, rfl⟩ := List.mem_map.mp spoken
      refine ⟨(v, _), List.mem_append_left _ there, rfl, ?_⟩
      obtain ⟨⟨s, run, rfl⟩, t, c, w, executed⟩ := heard _ (List.mem_append_left _ there)
      exact lookup_honest run.labelled executed passed.1 others.1
    · have shorter : looked.map (·.1) = rest := (List.cons.inj whole).2
      obtain ⟨x, there, facts⟩ := ih shorter passed.2 others.2 site duties late after
        (fun x member => heard x (List.mem_append_right _ member)) key member
      exact ⟨x, List.mem_append_right _ there, facts⟩

theorem findTokenAccessors_finds {outcome : Except Exc (List String)}
    (run : (findTokenAccessors label).Runs trace outcome) : Finds label trace outcome := by
  rcases Interaction.Prog.Runs.of_bind run with ⟨exn, listed, rfl⟩ | ⟨resp, first, rest, rfl, listed, after⟩
  · exact ⟨trace, [], .error exn, by simp, listed, ⟨rfl, rfl⟩, nofun⟩
  · change Option (List String) at resp
    by_cases many : MAX_ACCESSOR_SCAN < (resp.getD []).length
    · have refused : (raise .runtimeError (toString (resp.getD []).length ++
          " tokens: too many to scan, cannot confirm the grant token is gone") :
            Portal (List String)).Runs rest outcome := by
        simpa only [many, if_true] using after
      obtain ⟨none, rfl⟩ := Interaction.Prog.Runs.of_raise refused
      exact ⟨first, rest, .ok resp, rfl, listed, (if_pos many).mpr ⟨none, _, rfl⟩, nofun⟩
    · have scanned : (lookupAll (displayNames label) (resp.getD [])).Runs rest outcome := by
        simpa only [many, if_false] using after
      obtain ⟨looked, lookups, reports⟩ := lookupAll_reports _ scanned
      refine ⟨first, rest, .ok resp, rfl, listed, (if_neg many).mpr ⟨looked, lookups, reports⟩, ?_⟩
      intro resp' same empty
      cases same
      subst empty
      obtain ⟨whole, passed, none⟩ := reports
      refine lookups.noneLive whole passed fun x member => ?_
      have hidden := List.filter_eq_nil_iff.mp (List.map_eq_nil_iff.mp none.symm) x member
      simpa using hidden

/-- The search finds every token of the label or raises, and a teardown of a grant without a recorded token goes on only
with what was found. -/
theorem discovery_complete :
    (∀ label trace outcome, (findTokenAccessors label).Runs trace outcome → Finds label trace outcome) ∧
      ∀ (g : Grant) (id : GrantId) trace outcome, truthy g.tokenAccessor = none →
        (teardownSteps g id).Runs trace outcome →
          ∃ first rest found, trace = first ++ rest ∧ Finds id.text first found ∧
            ∀ exn, found = .error exn → rest = [] ∧ outcome = .error exn := by
  refine ⟨fun label trace outcome run => findTokenAccessors_finds run, fun g id trace outcome none run => ?_⟩
  have searches : tokensOf g id = findTokenAccessors id.text := by
    rw [tokensOf, none]
  rcases Interaction.Prog.Runs.of_bind run with ⟨exn, failed, rfl⟩ | ⟨found, first, rest, rfl, done, -⟩
  · rw [searches] at failed
    refine ⟨trace, [], .error exn, by simp, findTokenAccessors_finds failed, fun exn' same => ?_⟩
    cases same
    exact ⟨rfl, rfl⟩
  · rw [searches] at done
    exact ⟨first, rest, .ok found, rfl, findTokenAccessors_finds done, nofun⟩

/-- A listing with a token that is gone and one of the grant. -/
def recoveredTrace : Answers :=
  [⟨.client, .ok ()⟩, ⟨.listAccessors, .ok (some ["a", "b"])⟩,
    ⟨.client, .ok ()⟩, ⟨.lookupAccessor "a", .error ⟨.invalidRequest, "invalid accessor"⟩⟩,
    ⟨.client, .ok ()⟩, ⟨.lookupAccessor "b", .ok (some "token-vdba-0123456789")⟩]

theorem recoveredTrace_runs : (findTokenAccessors "vdba_0123456789").Runs recoveredTrace (.ok ["b"]) :=
  .call (.call (.call (.call (.call (.call .here)))))

/-- A listing that cannot be had, and the row of a grant without a recorded token. -/
def refusedTrace : Answers := [⟨.client, .ok ()⟩, ⟨.listAccessors, .error ⟨.other "InternalServerError", "boom"⟩⟩]

def unrecordedRow : Grant where
  id := someId
  dbType := .postgres
  scope := .database
  tables := []
  commands := ["SELECT"]
  requestedFor := "reader"
  issuedBy := "admin"
  ttlSeconds := 3600
  status := .issuing
  createdAt := 0
  expiresAt := none
  username := none
  leaseId := none
  tokenAccessor := none
  lastError := none
  updatedAt := 0

theorem refusedTrace_runs :
    (teardownSteps unrecordedRow someId).Runs refusedTrace (.error ⟨.other "InternalServerError", "boom"⟩) :=
  .call (.call .here)

theorem recoveredTrace_finds : Finds "vdba_0123456789" recoveredTrace (.ok ["b"]) ∧
    ∃ first rest found, refusedTrace = first ++ rest ∧ Finds someId.text first found ∧
      ∀ exn, found = .error exn → rest = [] ∧
        (.error ⟨.other "InternalServerError", "boom"⟩ : Except Exc Unit) = .error exn :=
  ⟨discovery_complete.1 _ _ _ recoveredTrace_runs, discovery_complete.2 unrecordedRow someId _ _ rfl refusedTrace_runs⟩

end search

end Vdba
