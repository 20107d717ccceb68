import Vdba.Interaction.All
import Vdba.Interaction.Pool

namespace Interaction
variable {S : Iface} {ε W T C E N σ : Type} {α β : Type}

/-- A protocol for programs: the operations a program may perform in a state, and the state an answer leads to. -/
structure Protocol (S : Iface) (ε σ : Type) where
  allows : σ → S.Op → Prop
  after : σ → (op : S.Op) → Except ε (S.Ans op) → σ

/-- From a state on, the program keeps to the protocol whatever it is answered, and it ends as `Q` says. A loop has an
invariant of the states in which its rounds begin. -/
def Prog.Follows (P : Protocol S ε σ) {α : Type} : Prog S ε α → (Except ε α → σ → Prop) → σ → Prop
  | .ret value, Q, q => Q (.ok value) q
  | .raise exn, Q, q => Q (.error exn) q
  | .call op next, Q, q => P.allows q op ∧ ∀ answer, (next answer).Follows P Q (P.after q op answer)
  | .iter body next, Q, q => ∃ J : σ → Prop, J q ∧ ∀ r, J r → body.Follows P (fun outcome r =>
      match outcome with
      | .ok (.inl ()) => J r
      | .ok (.inr value) => (next value).Follows P Q r
      | .error exn => Q (.error exn) r) r

namespace Prog.Follows
variable {P : Protocol S ε σ} {Q R : Except ε α → σ → Prop} {q : σ}

theorem mono {p : Prog S ε α} (follows : p.Follows P Q q) (weaker : ∀ outcome r, Q outcome r → R outcome r) :
    p.Follows P R q := by
  induction p generalizing q with
  | ret value => exact weaker _ _ follows
  | raise exn => exact weaker _ _ follows
  | call op next ih => exact ⟨follows.1, fun answer => ih answer (follows.2 answer) weaker⟩
  | iter body next ihBody ih =>
    obtain ⟨J, start, round⟩ := follows
    refine ⟨J, start, fun r at_r => ihBody (round r at_r) fun outcome r' post => ?_⟩
    rcases outcome with exn | ⟨⟨⟩⟩ | value
    · exact weaker _ _ post
    · exact post
    · exact ih value post weaker

/-- What the rest of a program has to do after an outcome of its first part. -/
def Then (P : Protocol S ε σ) (f : α → Prog S ε β) (Q : Except ε β → σ → Prop) : Except ε α → σ → Prop
  | .ok value, r => (f value).Follows P Q r
  | .error exn, r => Q (.error exn) r

theorem bind {Q : Except ε β → σ → Prop} {p : Prog S ε α} {f : α → Prog S ε β} (first : p.Follows P (Then P f Q) q) :
    (p.bind f).Follows P Q q := by
  induction p generalizing q with
  | ret value => exact first
  | raise exn => exact first
  | call op next ih => exact ⟨first.1, fun answer => ih answer (first.2 answer)⟩
  | iter body next _ ih =>
    obtain ⟨J, start, round⟩ := first
    refine ⟨J, start, fun r at_r => (round r at_r).mono fun outcome r' post => ?_⟩
    rcases outcome with exn | ⟨⟨⟩⟩ | value
    · exact post
    · exact post
    · exact ih value post

theorem attempt {Q : Except ε (Except ε α) → σ → Prop} {p : Prog S ε α}
    (follows : p.Follows P (fun outcome => Q (.ok outcome)) q) : p.attempt.Follows P Q q := by
  induction p generalizing q with
  | ret value => exact follows
  | raise exn => exact follows
  | call op next ih => exact ⟨follows.1, fun answer => ih answer (follows.2 answer)⟩
  | iter body next ihBody ih =>
    obtain ⟨J, start, round⟩ := follows
    refine ⟨J, start, fun r at_r => bind (ihBody ((round r at_r).mono fun outcome r' post => ?_))⟩
    rcases outcome with exn | ⟨⟨⟩⟩ | value
    · exact post
    · exact post
    · exact ih value post

theorem onError {p : Prog S ε α} {handler : ε → Prog S ε α} (follows : p.Follows P (fun outcome r =>
    match outcome with
    | .ok value => Q (.ok value) r
    | .error exn => (handler exn).Follows P Q r) q) : (p.onError handler).Follows P Q q := by
  refine bind (attempt (follows.mono fun outcome r post => ?_))
  cases outcome with
  | ok value => exact post
  | error exn => exact post

theorem ofExcept {outcome : Except ε α} (post : Q outcome q) : (Prog.ofExcept outcome : Prog S ε α).Follows P Q q := by
  cases outcome with
  | ok value => exact post
  | error exn => exact post

theorem cond {c : Prop} [Decidable c] {p p' : Prog S ε α} (yes : c → p.Follows P Q q) (no : ¬c → p'.Follows P Q q) :
    (if c then p else p').Follows P Q q := by
  split
  · rename_i holds
    exact yes holds
  · rename_i fails
    exact no fails

/-- The last part runs after every outcome, which it passes on if it does not raise. -/
theorem finally_ {p : Prog S ε α} {last : Prog S ε Unit} (follows : p.Follows P (fun outcome =>
    last.Follows P fun ended r =>
      match ended with
      | .ok () => Q outcome r
      | .error exn => Q (.error exn) r) q) : (p.finally_ last).Follows P Q q := by
  refine bind (attempt (follows.mono fun outcome r ended => bind (ended.mono fun result r' post => ?_)))
  cases result with
  | ok _ => exact ofExcept post
  | error exn => exact post

theorem perform {op : S.Op} {Q : Except ε (S.Ans op) → σ → Prop} (allowed : P.allows q op)
    (post : ∀ answer, Q answer (P.after q op answer)) : (Prog.perform op : Prog S ε (S.Ans op)).Follows P Q q := by
  refine ⟨allowed, fun answer => ?_⟩
  cases answer with
  | ok value => exact post _
  | error exn => exact post _

/-- A program whose operations are all allowed in a state and leave it as it is. -/
theorem of_all {φ : S.Op → Prop} {p : Prog S ε α} (all : p.All φ)
    (still : ∀ op, φ op → P.allows q op ∧ ∀ answer, P.after q op answer = q) :
    p.Follows P (fun _ r => r = q) q := by
  induction p with
  | ret => rfl
  | raise => rfl
  | call op next ih =>
    obtain ⟨allowed, same⟩ := still op all.1
    refine ⟨allowed, fun answer => ?_⟩
    rw [same answer]
    exact ih answer (all.2 answer)
  | iter body next ihBody ih =>
    refine ⟨fun r => r = q, rfl, fun r at_r => ?_⟩
    subst at_r
    refine (ihBody all.1).mono fun outcome r' post => ?_
    subst post
    rcases outcome with exn | ⟨⟨⟩⟩ | value
    · rfl
    · rfl
    · exact ih value (all.2 value)

/-- One more round of a loop. -/
theorem round {body : Prog S ε (Unit ⊕ β)} {next : β → Prog S ε α} (follows : (Prog.iter body next).Follows P Q q) :
    (body.bind (.again body next)).Follows P Q q := by
  obtain ⟨J, start, round⟩ := follows
  refine bind ((round q start).mono fun outcome r post => ?_)
  rcases outcome with exn | ⟨⟨⟩⟩ | value
  · exact post
  · exact ⟨J, post, round⟩
  · exact post

end Prog.Follows

namespace Protocol
variable [DecidableEq T] {P : T → Protocol S ε σ} {M : Machine S ε W T C E} {entry : T → N → Prog S ε Unit}
  {ok : Pool S ε W T → Label T C E N → Prop} {Agrees : T → σ → W → Prop} {first : σ} {Final : σ → Prop}

/-- A world that agrees with the states of the protocols its threads follow. -/
structure Tracks (P : T → Protocol S ε σ) (M : Machine S ε W T C E) (entry : T → N → Prog S ε Unit)
    (ok : Pool S ε W T → Label T C E N → Prop) (Agrees : T → σ → W → Prop) (first : σ) (Final : σ → Prop) : Prop where
  own : ∀ {s : Pool S ε W T} {t choice op next answer w q}, ok s (.run t choice) → s.threads t = some (.call op next) →
    Agrees t q s.world → (P t).allows q op → M.exec t op choice s.world = some (answer, w) →
    Agrees t ((P t).after q op answer) w
  others : ∀ {t u op choice v answer w q}, u ≠ t → M.exec t op choice v = some (answer, w) → Agrees u q v → Agrees u q w
  env : ∀ {event v w t q}, M.env event v = some w → Agrees t q v → Agrees t q w
  reset : ∀ t v, Agrees t first (M.reset v)
  entry : ∀ t name, (entry t name).Follows (P t) (fun _ => Final) first

/-- Every thread is somewhere in its protocol, and the world agrees. -/
structure Kept (P : T → Protocol S ε σ) (Agrees : T → σ → W → Prop) (first : σ) (Final : σ → Prop) (s : Pool S ε W T) :
    Prop where
  idle : ∀ t, s.threads t = none → Agrees t first s.world
  threads : ∀ t p, s.threads t = some p → ∃ q, p.Follows (P t) (fun _ => Final) q ∧ Agrees t q s.world

/-- As `Tracks`, where what the others and the outside do to the agreement of a thread depends on the moment. -/
structure Heeds (P : T → Protocol S ε σ) (M : Machine S ε W T C E) (entry : T → N → Prog S ε Unit)
    (ok : Pool S ε W T → Label T C E N → Prop) (Agrees : T → σ → W → Prop) (first : σ) (Final : σ → Prop) : Prop where
  own : ∀ {s : Pool S ε W T} {t choice op next answer w q}, ok s (.run t choice) → s.threads t = some (.call op next) →
    Agrees t q s.world → (P t).allows q op → M.exec t op choice s.world = some (answer, w) →
    Agrees t ((P t).after q op answer) w
  others : ∀ {s s' : Pool S ε W T} {t u choice q}, u ≠ t → ok s (.run t choice) →
    Pool.step M entry (.run t choice) s = some s' → Agrees u q s.world → Agrees u q s'.world
  env : ∀ {s : Pool S ε W T} {event w t q}, ok s (.env event) → M.env event s.world = some w → Agrees t q s.world →
    Agrees t q w
  reset : ∀ t v, Agrees t first (M.reset v)
  entry : ∀ t name, (entry t name).Follows (P t) (fun _ => Final) first

theorem Heeds.step (heeds : Heeds P M entry ok Agrees first Final) {s s' : Pool S ε W T} {label : Label T C E N}
    (kept : Kept P Agrees first Final s) (allowed : ok s label) (stepped : Pool.step M entry label s = some s') :
    Kept P Agrees first Final s' := by
  cases label with
  | spawn t name =>
    unfold Pool.step at stepped
    cases at_t : s.threads t with
    | some p => simp only [at_t] at stepped; cases stepped
    | none =>
      simp only [at_t, Option.some.injEq] at stepped
      subst stepped
      refine ⟨fun u absent => ?_, fun u p at_u => ?_⟩
      · by_cases same : u = t
        · simp [Pool.setThread, same] at absent
        · exact kept.idle u (by simpa only [Pool.setThread, same, if_false] using absent)
      · by_cases same : u = t
        · subst same
          simp only [Pool.setThread, if_true, Option.some.injEq] at at_u
          subst at_u
          exact ⟨first, heeds.entry u name, kept.idle u at_t⟩
        · exact kept.threads u p (by simpa only [Pool.setThread, same, if_false] using at_u)
  | run t choice =>
    have others (u : T) (q : σ) (other : u ≠ t) (agrees : Agrees u q s.world) : Agrees u q s'.world :=
      heeds.others other allowed stepped agrees
    unfold Pool.step at stepped
    cases at_t : s.threads t with
    | none => simp only [at_t] at stepped; cases stepped
    | some p =>
      simp only [at_t, Option.map_eq_some_iff] at stepped
      obtain ⟨⟨p', w⟩, advanced, rfl⟩ := stepped
      obtain ⟨q, follows, agrees⟩ := kept.threads t p at_t
      have pool (own : ∃ q', p'.Follows (P t) (fun _ => Final) q' ∧ Agrees t q' w) :
          Kept P Agrees first Final ⟨w, s.setThread t p'⟩ := by
        refine ⟨fun u absent => ?_, fun u r at_u => ?_⟩
        · by_cases same : u = t
          · simp [Pool.setThread, same] at absent
          · simp only [Pool.setThread, same, if_false] at absent
            exact others u first same (kept.idle u absent)
        · by_cases same : u = t
          · subst same
            simp only [Pool.setThread, if_true, Option.some.injEq] at at_u
            subst at_u
            exact own
          · simp only [Pool.setThread, same, if_false] at at_u
            obtain ⟨q', follows', agrees'⟩ := kept.threads u r at_u
            exact ⟨q', follows', others u q' same agrees'⟩
      cases p with
      | ret => cases advanced
      | raise => cases advanced
      | call op next =>
        simp only [Prog.advance, Option.map_eq_some_iff] at advanced
        obtain ⟨⟨answer, w'⟩, executed, same⟩ := advanced
        cases same
        exact pool ⟨_, follows.2 answer, heeds.own allowed at_t agrees follows.1 executed⟩
      | iter body next =>
        cases advanced
        exact pool ⟨q, follows.round, agrees⟩
  | env event =>
    obtain ⟨w, moved, rfl⟩ := Option.map_eq_some_iff.mp stepped
    refine ⟨fun t absent => heeds.env allowed moved (kept.idle t absent), fun t p at_t => ?_⟩
    obtain ⟨q, follows, agrees⟩ := kept.threads t p at_t
    exact ⟨q, follows, heeds.env allowed moved agrees⟩
  | kill =>
    cases stepped
    refine ⟨fun t _ => heeds.reset t s.world, fun t p at_t => ?_⟩
    cases at_t

/-- Every pool that can be reached keeps to the protocols. -/
theorem Heeds.kept (heeds : Heeds P M entry ok Agrees first Final) {start s : Pool S ε W T}
    (kept : Kept P Agrees first Final start) (reach : Pool.Reach M entry ok start s) : Kept P Agrees first Final s := by
  induction reach with
  | start => exact kept
  | next _ allowed stepped ih => exact heeds.step ih allowed stepped

theorem Tracks.heeds (tracks : Tracks P M entry ok Agrees first Final) : Heeds P M entry ok Agrees first Final where
  own := tracks.own
  others {s s' t u choice q} other _ stepped agrees := by
    rcases Pool.step_world stepped with same | ⟨t', choice', op, next, answer, run, -, executed⟩ |
      ⟨event, happened, -⟩ | ⟨killed, -⟩
    · rw [same]
      exact agrees
    · cases run
      exact tracks.others other executed agrees
    · cases happened
    · cases killed
  env _ happened agrees := tracks.env happened agrees
  reset := tracks.reset
  entry := tracks.entry

theorem Tracks.kept (tracks : Tracks P M entry ok Agrees first Final) {start s : Pool S ε W T}
    (kept : Kept P Agrees first Final start) (reach : Pool.Reach M entry ok start s) : Kept P Agrees first Final s :=
  tracks.heeds.kept kept reach

end Protocol
end Interaction
