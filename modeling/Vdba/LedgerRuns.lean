import Vdba.LedgerIssue

namespace Vdba
open Interaction (Triple Stable Keeping Pool)

section respond
variable {p : Pledge} {n t : Nat} {v w : World}

theorem Drawn.delivered {issued : Issued} {creds : Creds} (drawn : Drawn creds issued.grant.grantId w)
    (password : issued.password = creds.password) : Delivered issued w := by
  obtain ⟨⟨read, member, role, rfl⟩, r, found, username, lease, now, expires⟩ := drawn
  exact ⟨read, member, role, password, r, found, username, lease, now, expires⟩

/-- The response of an issue tells what the row has. -/
theorem respond_work (issued : Issued) :
    Triple (ledger p) t (some n)
      (fun w => ∃ id creds, issued.grant.grantId = id ∧ issued.password = creds.password ∧ Issuer p t id w ∧ Drawn creds id w)
      (ask (.respond ⟨200, .issued issued, none, []⟩)) (fun _ w => ∃ b, Rests p t b w) (fun _ => Unissued p t) := by
  refine Triple.of_forall fun id => Triple.of_forall fun creds => Triple.of_fact fun same =>
    Triple.of_fact fun password => ?_
  subst same
  have rests (b : Option Begun) : Lasts p t (Rests p t b) := Rests.lasts
  have both : Lasts p t fun w => Issuer p t issued.grant.grantId w ∧ Drawn creds issued.grant.grantId w :=
    (rests _).and Drawn.lasts
  refine step_triple both.stable (fun _ => (Lasts.exists rests).stable) (fun _ => Unissued.lasts.stable)
    fun v c answer u held books executed _ base guar => ?_
  cases executed
  refine ⟨⟨base, books.unique, books.rows, books.issued, books.ended, books.helpers, books.smoothly,
    fun response member i body => ?_, ⟨books.issues.present, books.issues.sole, books.issues.past⟩, books.high⟩, ?_, _,
    held.1⟩
  · rcases List.mem_cons.mp member with rfl | member
    · cases body
      exact held.2.delivered password
    · exact books.told response member i body
  · refine ⟨guar, fun id r found => ⟨r, found, Or.inl rfl⟩, fun id absent r found => ?_,
      fun id r r' found found' active => ?_, fun _ _ => rfl, fun _ _ => rfl, Nat.le_refl _, fun _ _ paid => paid,
      fun b _ _ => ⟨rfl, { Untouched.refl b.grant v with }⟩⟩
    · rw [show v.row id = some r from found] at absent
      cases absent
    · rw [show v.row id = some r' from found'] at found
      cases found
      exact Or.inl active

end respond

section runs
variable {cfg : Config} {p : Pledge} {s s' : System} {t : Nat} {label : Move}

/-- What the records know of a thread that is through. -/
def Ended (p : Pledge) (t : Nat) : Except Exc Unit → World → Prop
  | .ok _, w => ∃ b, Rests p t b w
  | .error _, w => Unissued p t w

/-- The moves as the pledge has them, of a system that is sound. -/
def Witnessed (p : Pledge) (s : System) (label : Move) : Prop := Honoured p s label ∧ s.Sound {}

theorem silent (id : GrantId) : ¬({} : Terms).quiet id := fun quiet => quiet

theorem System.Run.witnessed (run : System.Run cfg (Honoured p) s) : System.Run cfg (Witnessed p) s := by
  induction run with
  | start => exact .start
  | next before allowed moved ih => exact .next ih ⟨allowed, (System.Run.any before).sound silent⟩ moved

theorem System.Sound.call (sound : s.Sound {}) {op : Op} {next} {c : Choice} {answer : Except Exc (Ans op)} {w : World}
    (at_t : s.threads t = some (.call op next)) (executed : exec t op c s.world = some (answer, w)) :
    Inv {} w ∧ Guar {} t s.world w := by
  cases sound.threads t _ at_t 0 with
  | call keeps _ =>
    obtain ⟨inv, guar, -⟩ := keeps s.world ((portal {}).rely_refl t s.world) sound.inv answer w
      ⟨c, executed, Allowed.plain Terms.none_loose t op c s.world⟩
    exact ⟨inv, guar⟩

theorem Calm.upholds {v w : World} (calm : Calm v w) (rely : Rely {} t v w) : Upholds t v w where
  base := rely
  rows id r found := ⟨r, by rw [calm.row, found], .refl r⟩
  owed := by rw [calm.owed]
  begun := by rw [calm.begun]
  high := calm.high

theorem reset_ledger {v : World} (books : Ledger p v) (settled : p.recorded → ∀ t, v.book.owed t = none)
    (tidied : p.tidy → ∀ id, Helperless id v) : Ledger p v.reset ∧ ∀ t, Rests p t none v.reset := by
  obtain ⟨base, idle⟩ := World.reset_inv books.base
  have paid (recorded : p.recorded) {d : Debt} (paid : Paid d v) : Paid d v.reset := by
    rcases paid with logged | ⟨t, owes⟩
    · exact Or.inl logged
    · rw [settled recorded t] at owes
      cases owes
  refine ⟨⟨base, books.unique, books.rows, fun recorded id r found named => paid recorded (books.issued recorded id r found named),
    fun recorded id r found past => paid recorded (books.ended recorded id r found past),
    fun tidy id some_left => absurd (tidied tidy id) some_left, books.smoothly, books.told, ⟨?_, ?_, ?_⟩, books.high⟩,
    fun t => ⟨idle t, fun _ => rfl, rfl⟩⟩
  · intro t b begun
    cases begun
  · intro t u b c first
    cases first
  · intro t b status begun
    cases begun

/-- The pool of the portal's calls keeps its records. -/
theorem ledger_adequate (cfg : Config) (p : Pledge) :
    Pool.Adequate (ledger p) machine (fun _ => Entry.code cfg) (Witnessed p) (fun t => Rests p t none) (Ended p) where
  exec witnessed _ at_t executed := ⟨⟨_, executed, witnessed.1 _ _ at_t⟩, witnessed.2.call at_t executed⟩
  others differs books enters := enters.upholds differs books.base
  env _ books happened := by
    have calm := happen_calm happened
    obtain ⟨base, rely⟩ := Event.env books.base (EventOk.any _ _) happened
    exact ⟨calm.ledger books base, fun t => calm.upholds (rely t)⟩
  reset witnessed books := reset_ledger books witnessed.1.1 fun tidy id => witnessed.1.2 tidy id
  idle rests rely := rests.rely rely
  entry := by
    intro s t name _ _ rests n
    have code : Triple (ledger p) t (some n) (Rests p t none) (name.code cfg) (fun _ w => ∃ b, Rests p t b w)
        (fun _ => Unissued p t) := by
      have resting {α : Type} {prog : Portal α} (keeping : Keeping (ledger p) t (some n) (Rests p t none) prog) :
          Triple (ledger p) t (some n) (Rests p t none) prog (fun _ => Rests p t none) (fun _ => Unissued p t) :=
        keeping.mono (fun _ held => held) (fun _ _ _ held => held) fun _ _ _ held => Unissued.of_rest held
      have rests : Lasts p t (Rests p t none) := Rests.lasts
      cases name with
      | issue req actor requestId =>
        exact Triple.bind (issue_work cfg req actor requestId) fun issued => respond_work issued
      | revoke id actor requestId =>
        exact Triple.bind (resting (revoke_work actor requestId)) fun _ =>
          Triple.ret rests.stable fun _ held => ⟨none, held⟩
      | reconcile =>
        exact (resting reconcileOnce_work).mono (fun _ held => held) (fun _ _ _ held => ⟨none, held⟩) fun _ _ _ held => held
    refine (code s.world rests).mono fun outcome w _ post => ?_
    cases outcome with
    | ok _ => exact post
    | error _ => exact post

/-- What the records say at every moment of a run. -/
abbrev System.Recorded (p : Pledge) (s : System) : Prop :=
  Pool.Sound (ledger p) (fun t => Rests p t none) (Ended p) s

theorem start_recorded (p : Pledge) : System.start.Recorded p := by
  have idle (t : Nat) : Rests p t none System.start.world :=
    ⟨fun _ h lock => absurd lock (Option.some_ne_none h).symm, fun _ => rfl, rfl⟩
  have absent (id : GrantId) (r : Grant) : World.initial.row id ≠ some r := (Option.some_ne_none r).symm
  refine ⟨⟨World.initial_inv, List.nodup_nil, fun id r found => absurd found (absent id r),
    fun _ id r found => absurd found (absent id r), fun _ id r found => absurd found (absent id r),
    fun _ id some_left => absurd (fun _ => rfl) some_left, fun id _ r found => absurd found (absent id r),
    fun response member => absurd member List.not_mem_nil, ⟨?_, ?_, ?_⟩, Nat.le_refl _⟩, fun t _ => idle t,
    fun _ q at_t => absurd at_t (Option.some_ne_none q).symm⟩
  · intro t b begun
    cases begun
  · intro t u b c first
    cases first
  · intro t b status begun
    cases begun

theorem System.Run.recorded (run : System.Run cfg (Honoured p) s) : s.Recorded p :=
  (ledger_adequate cfg p).sound (start_recorded p) run.witnessed

/-- The thread was not started since the process was, or it is through. -/
def System.Over (s : System) (t : Nat) : Prop := ∀ q, s.threads t = some q → q = .ret () ∨ ∃ exn, q = .raise exn

theorem System.Run.outcome (run : System.Run cfg (Honoured p) s) {exn : Exc}
    (raised : s.threads t = some (.raise exn)) :
    Unissued p t s.world := by
  have recorded : s.Recorded p := run.recorded
  cases recorded.threads t _ raised 0 with
  | raise post => exact post s.world (.refl s.world) recorded.inv

theorem System.Run.over_rests (run : System.Run cfg (Honoured p) s) (past : s.Over t) : ∃ b, Rests p t b s.world := by
  have recorded : s.Recorded p := run.recorded
  cases at_t : s.threads t with
  | none => exact ⟨none, recorded.idle t at_t⟩
  | some q =>
    rcases past q at_t with rfl | ⟨exn, rfl⟩
    · cases recorded.threads t _ at_t 0 with
      | ret post => exact post s.world (.refl s.world) recorded.inv
    · obtain ⟨b, rests, -⟩ := run.outcome at_t
      exact ⟨b, rests⟩

/-- What one call of a thread enters in the records. -/
theorem System.Run.enters (run : System.Run cfg (Honoured p) s) {choice : Choice}
    (allowed : Honoured p s (.run t choice))
    (moved : s.move cfg (.run t choice) = some s') : s'.world = s.world ∨ Enters p t s.world s'.world :=
  ((ledger_adequate cfg p).sound_run ⟨allowed, run.any.sound silent⟩ run.recorded moved).2

end runs
end Vdba
