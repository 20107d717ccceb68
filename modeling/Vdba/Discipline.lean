import Vdba.Interaction.Triple
import Vdba.Rows

namespace Vdba
open Interaction (Triple Stable)

/-- A revocation that gets the lock has to do with a row that is not finished. -/
def Decided (op : Op) (v : World) : Prop :=
  ∀ db id actor read, op = .lockAcquire db id (.revoke actor read) → v.locks db = none →
    ∀ r, v.row id = some r → r.status.terminal = false

/-- The call is made for the grant. -/
def Concerns (t : Nat) (id : GrantId) (op : Op) (v : World) : Prop :=
  (∃ db caller, v.locks db = some ⟨t, id, caller⟩) ∨ op = .getGrant id

/-- What the call is about is gone already, and the answer says so. -/
def GoneCase (op : Op) (exn : Exc) (v : World) : Prop :=
  match op with
  | .lookupAccessor accessor => exn.gone = true ∧ v.liveAccessor accessor = false
  | .revokeAccessor accessor => exn.accessorGone = true ∧ v.liveAccessor accessor = false
  | .leaseFind lease | .leaseRemove lease => exn.leaseGone = true ∧ v.liveLease lease = none
  | _ => False

/-- The call goes well: it succeeds with an answer, sessions that are terminated end, the clock is read in
time, and the listing of the tokens is not too long to scan. -/
structure Smooth (t : Nat) (op : Op) (c : Choice) (v : World) : Prop where
  fate : c.fate = .ok ∨ ∃ exn, c.fate = .fail exn ∧ GoneCase op exn v
  answered : ∀ o, op = .credsClose o → c.flag = false
  ended : ∀ db text account, op = .runStatement db text account → c.count = 0
  inTime : op = .now → ∀ deadline, v.deadline t = some deadline → v.clock ≤ deadline
  scannable : op = .listAccessors → v.vault.tokens.length ≤ MAX_ACCESSOR_SCAN

structure Allowed (terms : Terms) (t : Nat) (op : Op) (c : Choice) (v : World) : Prop where
  decided : terms.fresh → Decided op v
  solo : ∀ u, terms.solo = some u → t = u
  smooth : ∀ id, terms.smooth id → Concerns t id op v → Smooth t op c v

/-- The discipline of the portal's threads; a thread that runs alone also relies on the rows. -/
def portal (terms : Terms) : Interaction.Discipline calls Exc World Nat where
  Step t op v answer u := ∃ c, exec t op c v = some (answer, u) ∧ Allowed terms t op c v
  Inv := Inv terms
  Rely t v w := Rely terms t v w ∧ (terms.solo = some t → w.store.grants = v.store.grants)
  Guar t v w := Guar terms t v w ∧ ∀ u, terms.solo = some u → t = u
  rely_refl _ w := ⟨Rely.refl w, fun _ => rfl⟩
  rely_trans _ _ _ _ first second :=
    ⟨first.1.trans second.1, fun solo => (second.2 solo).trans (first.2 solo)⟩

/-- The event takes something of the grant away. -/
def Event.Touches (id : GrantId) (w : World) : Event → Prop
  | leaseText lease _ _ | leaseGone lease => ∃ l ∈ w.vault.leases, l.id = lease ∧ id.Owns l.role
  | tokenGone accessor => ∃ token ∈ w.vault.tokens, token.accessor = accessor ∧ id.Owns token.label
  | _ => False

structure EventOk (terms : Terms) (event : Event) (w : World) : Prop where
  monotone : terms.monotone → ∀ time, event = .setClock time → w.clock ≤ time
  kept : ∀ lease text count l, event = .leaseText lease text count → w.liveLease lease = some l → terms.kept l.account →
    ∀ t k, w.watch t = some k → (k.grant, l.account) ∈ w.listed → ¬Event.canLogin w .postgres l.account
  quiet : ∀ id, terms.quiet id → ¬event.Touches id w

/-- Terms that are only about the clock and the leases. -/
structure Terms.Loose (terms : Terms) : Prop where
  stale : ¬terms.fresh
  many : terms.solo = none
  rough : ∀ id, ¬terms.smooth id
  loud : ∀ id, ¬terms.quiet id

theorem Terms.none_loose : Terms.Loose {} := ⟨id, rfl, fun _ => id, fun _ => id⟩

theorem Allowed.plain {terms : Terms} (loose : terms.Loose) (t : Nat) (op : Op) (c : Choice) (v : World) :
    Allowed terms t op c v where
  decided fresh := absurd fresh loose.stale
  solo u only := by
    rw [loose.many] at only
    cases only
  smooth id smooth := absurd smooth (loose.rough id)

theorem EventOk.plain {terms : Terms} (loose : terms.Loose) {event : Event} {w : World}
    (monotone : terms.monotone → ∀ time, event = .setClock time → w.clock ≤ time)
    (spared : ∀ account, terms.kept account → ∀ lease text count, event ≠ .leaseText lease text count) :
    EventOk terms event w :=
  ⟨monotone, fun lease text count l same _ kept => absurd same (spared l.account kept lease text count),
    fun id quiet => absurd quiet (loose.loud id)⟩

theorem EventOk.any (event : Event) (w : World) : EventOk {} event w :=
  .plain Terms.none_loose False.elim fun _ kept => kept.elim

section environment
variable {terms : Terms} {v w : World}

theorem Frame.rely (frame : Frame terms v w) (t : Nat) (objects : ∀ id, v.Holds t id → Shrunk terms t id v w)
    (quiet : ∀ id, terms.quiet id → Standing id v w) : Rely terms t v w where
  locks _ _ _ := by rw [frame.locks]
  watch := by rw [frame.watch]
  deadline := by rw [frame.deadline]
  inflight _ member := by rwa [frame.inflight] at member
  row id r found := ⟨r, by rw [frame.row, found], rfl, fun _ => rfl⟩
  objects := objects
  accessors := frame.accessors
  reads := frame.reads
  clock := frame.clock
  quiet id quiet' := ⟨frame.row id, quiet id quiet'⟩

theorem Frame.trans {u : World} (first : Frame terms u v) (second : Frame terms v w) : Frame terms u w where
  row id := (second.row id).trans (first.row id)
  locks := second.locks.trans first.locks
  watch := second.watch.trans first.watch
  deadline := second.deadline.trans first.deadline
  inflight := second.inflight.trans first.inflight
  listed entry member := second.listed entry (first.listed entry member)
  lockedOut := second.lockedOut.trans first.lockedOut
  accessors a label known := second.accessors a label (first.accessors a label known)
  reads read member := second.reads read (first.reads read member)
  clock monotone := (first.clock monotone).trans (second.clock monotone)

theorem World.liveLease_mem {l : String} {lease : Lease} (live : w.liveLease l = some lease) :
    lease ∈ w.vault.leases ∧ lease.id = l :=
  ⟨List.mem_of_find?_eq_some live, by simpa using List.find?_some live⟩

/-- The revocation statements of a proper lease are about its own account, and create nothing. -/
theorem ProperLease.statement {lease : Lease} (proper : ProperLease lease) {text : String}
    (member : text ∈ lease.revocation) : Mild lease.db text ∧ ∀ a, act text = some a → a.name = nameHole := by
  obtain ⟨-, -, ⟨-, -, helper⟩ | ⟨-, revocation⟩⟩ := proper
  · rw [helper, List.mem_singleton] at member
    subst member
    have none (a : Act) : act "SELECT 1" ≠ some a := by
      rw [act_selectOne]
      exact nofun
    exact ⟨fun a acts => absurd acts (none a), fun a acts => absurd acts (none a)⟩
  · rw [revocation] at member
    cases db : lease.db <;> rw [db] at member <;>
      simp only [revocationOf, List.mem_cons, List.not_mem_nil, or_false] at member
    · subst member
      rw [Mild, act_cleanupText]
      exact ⟨fun a acts => by cases acts; exact ⟨nofun, nofun⟩, fun a acts => by cases acts; rfl⟩
    · rcases member with rfl | rfl
      · rw [Mild, act_killText]
        exact ⟨fun a acts => by cases acts; exact ⟨nofun, nofun⟩, fun a acts => by cases acts; rfl⟩
      · rw [Mild, act_dropUserText]
        exact ⟨fun a acts => by cases acts; exact ⟨nofun, fun _ => rfl⟩, fun a acts => by cases acts; rfl⟩

theorem fill_hole (account : String) : fill account nameHole = account := if_pos rfl

theorem Event.leaseText_env {lease : Lease} {text : String} {count : Nat} (inv : Inv terms v)
    (live : lease ∈ v.vault.leases) (member : text ∈ lease.revocation)
    (ran : v.statement lease.db text lease.account count = some w)
    (kept : terms.kept lease.account → ∀ t k, v.watch t = some k → (k.grant, lease.account) ∈ v.listed →
      ¬Event.canLogin v .postgres lease.account)
    (quiet : ∀ id, terms.quiet id → ¬id.Owns lease.role) : Inv terms w ∧ ∀ t, Rely terms t v w := by
  have proper := inv.leases lease live
  obtain ⟨mild, hole⟩ := proper.statement member
  have target (a : Act) (acts : act text = some a) : fill lease.account a.name = lease.account := by
    rw [hole a acts, fill_hole]
  have frame : Frame terms v w := World.statement_frame ran
  refine ⟨(World.statement_legal ran mild).inv inv, fun t => frame.rely t (fun id held => ?_) (fun id quiet' => ?_)⟩
  · refine ⟨World.statement_lessened ran mild id, fun name kept' k watch grant owns sought => ?_, ?_, ?_, ?_, ?_⟩
    · refine ⟨frame.listed _ sought.1, ?_⟩
      have ready := sought.2
      by_cases same : name = lease.account
      · subst same
        rcases ready with can | closing
        · exact absurd can (kept kept' t k watch (by rw [grant]; exact sought.1))
        · exact Or.inr ((World.statement_lessened ran mild id).closing _ owns closing)
      · rcases World.statement_cases ran with ⟨-, rfl⟩ | ⟨a, d', acts, applied, rfl⟩
        · exact ready
        · rw [target a acts] at applied
          obtain ⟨accounts, login, sessions, -⟩ := Database.apply_other applied same
          unfold World.Ready World.Closing Event.canLogin at ready ⊢
          by_cases here : DbType.postgres = lease.db
          · rw [here] at ready ⊢
            rw [World.setDb_self, login, sessions, decide_eq_decide.mpr accounts, accounts]
            exact ready
          · rw [World.setDb_other v d' here]
            exact ready
    · rw [World.statement_vault ran]
      exact fun _ _ member => member
    · rw [World.statement_vault ran]
      exact fun _ _ member => member
    · rw [World.statement_vault ran]
      exact fun _ _ => rfl
    · rw [frame.lockedOut]
      exact fun _ member => member
  · obtain ⟨owner, role, account⟩ := proper.owns
    refine (World.statement_untouched ran fun a acts owns => quiet id quiet' ?_).toStanding
    rw [target a acts] at owns
    rwa [owns.unique account]

theorem Event.sessions_env {db : DbType} {d : Database} (inv : Inv terms v)
    (accounts : d.accounts = (v.dbs db).accounts) (login : d.login = (v.dbs db).login)
    (sessions : ∀ name, ¬Event.canLogin v db name → d.sessions name ≤ (v.dbs db).sessions name) :
    Inv terms (v.setDb db d) ∧ ∀ t, Rely terms t v (v.setDb db d) := by
  have frame : Frame terms v (v.setDb db d) := World.setDb_frame v db d
  have at_db (db' : DbType) : ((v.setDb db d).dbs db').accounts = (v.dbs db').accounts ∧
      ((v.setDb db d).dbs db').login = (v.dbs db').login := by
    by_cases here : db' = db
    · subst here
      rw [World.setDb_self]
      exact ⟨accounts, login⟩
    · rw [World.setDb_other v d here]
      exact ⟨rfl, rfl⟩
  have can (db' : DbType) (name : String) : Event.canLogin (v.setDb db d) db' name = Event.canLogin v db' name := by
    unfold Event.canLogin
    rw [(at_db db').1, (at_db db').2]
  have fewer (name : String) (out : ¬Event.canLogin v .postgres name) :
      ((v.setDb db d).dbs .postgres).sessions name ≤ (v.dbs .postgres).sessions name := by
    by_cases here : DbType.postgres = db
    · subst here
      rw [World.setDb_self]
      exact sessions name out
    · rw [World.setDb_other v d here]
  have shut (name : String) (closed : v.Shut name) : (v.setDb db d).Shut name := by
    have := fewer name closed.2
    have := closed.1
    exact ⟨by omega, by rw [can]; exact closed.2⟩
  have closing (name : String) (locked : v.Closing name) : (v.setDb db d).Closing name := by
    have out : ¬Event.canLogin v .postgres name := by
      simp [Event.canLogin, locked.1]
    refine ⟨by rw [(at_db _).2]; exact locked.1, ?_⟩
    rcases locked.2 with present | none
    · exact Or.inl (by rw [(at_db _).1]; exact present)
    · have := fewer name out
      exact Or.inr (by omega)
  have lessened (id : GrantId) : Lessened id v (v.setDb db d) :=
    ⟨fun db' name _ member => by rwa [(at_db db').1] at member, fun db' name _ can => by rwa [(at_db db').2] at can,
      fun name _ => closing name, fun name _ => shut name, fun _ _ member => member, fun _ _ member => member,
      fun none => none, fun _ _ known => known⟩
  refine ⟨Legal.inv ⟨frame, fun _ member => Or.inl member, fun _ member => Or.inl member,
    fun db' name member => Or.inl (by rwa [(at_db db').1] at member), fun _ none => Or.inl none,
    fun _ name _ _ => shut name⟩ inv, fun t => frame.rely t (fun id _ => ?_) (fun id _ => ?_)⟩
  · refine ⟨lessened id, fun name _ k _ _ owns sought => ⟨sought.1, ?_⟩, fun _ _ member => member,
      fun _ _ member => member, fun _ _ => rfl, fun _ member => member⟩
    rcases sought.2 with live | locked
    · exact Or.inl (by rw [can]; exact live)
    · exact Or.inr (closing name locked)
  · exact ⟨fun db' name _ => by rw [(at_db db').1], fun db' name _ => by rw [(at_db db').2], fun _ _ => Iff.rfl,
      fun _ _ => Iff.rfl, fun _ _ => rfl⟩

theorem Event.foreign_env (inv : Inv terms v) (tokens : List Token) :
    Inv terms (addForeign tokens v) ∧ ∀ t, Rely terms t v (addForeign tokens v) := by
  induction tokens generalizing v with
  | nil => exact ⟨inv, fun t => Rely.refl v⟩
  | cons token tokens ih =>
    rw [addForeign]
    by_cases foreign : foreign v token = true
    · rw [if_pos foreign]
      simp only [Event.foreign, Bool.and_eq_true, Option.isNone_iff_eq_none, decide_eq_true_eq] at foreign
      obtain ⟨fresh, other⟩ := foreign
      have unowned (id : GrantId) : ¬id.Owns token.label := by
        intro owns
        refine other (List.IsPrefix.trans ?_ owns)
        rw [GrantId.text_toList]
        exact List.prefix_append _ _
      have legal : Legal terms v (v.addToken token) :=
        World.addToken_legal fresh fun id same => absurd (by rw [same]; exact id.owns_self) (unowned id)
      obtain ⟨inv', rely⟩ := ih (legal.inv inv)
      refine ⟨inv', fun t => Rely.trans (legal.toFrame.rely t (fun id _ => ?_) (fun id _ => ?_)) (rely t)⟩
      · exact (World.addToken_untouched (unowned id)).shrunk legal.accessors (fun _ member => member)
          fun _ member => member
      · exact (World.addToken_untouched (unowned id)).toStanding
    · rw [if_neg foreign]
      exact ih inv

/-- What happens on its own keeps the invariant, and what any thread relies on. -/
theorem Event.env {event : Event} (inv : Inv terms v) (ok : EventOk terms event v)
    (happened : event.happen v = some w) : Inv terms w ∧ ∀ t, Rely terms t v w := by
  have same (clock : terms.monotone → v.clock ≤ w.clock) (eq : ∃ time, w = v.at_ time) :
      Inv terms w ∧ ∀ t, Rely terms t v w := by
    obtain ⟨time, rfl⟩ := eq
    have same : Same terms v (v.at_ time) := { (Same.refl v : Same terms v v) with clock := clock }
    exact ⟨same.legal.inv inv, same.rely⟩
  cases event <;> simp only [happen, Option.some.injEq, Option.ite_none_right_eq_some] at happened
  case tick span =>
    subst happened
    exact same (fun _ => Nat.le_add_right _ _) ⟨_, rfl⟩
  case setClock time =>
    subst happened
    exact same (fun monotone => ok.monotone monotone time rfl) ⟨_, rfl⟩
  case login db account =>
    obtain ⟨can, rfl⟩ := happened
    refine sessions_env inv rfl rfl fun name out => ?_
    have differs : name ≠ account := by
      rintro rfl
      exact out can
    simp [differs]
  case logout db account =>
    subst happened
    refine sessions_env inv rfl rfl fun name _ => ?_
    by_cases here : name = account <;> simp [here]
  case startQuery account =>
    obtain ⟨-, rfl⟩ := happened
    exact sessions_env inv rfl rfl fun _ _ => Nat.le_refl _
  case endQuery account =>
    subst happened
    exact sessions_env inv rfl rfl fun _ _ => Nat.le_refl _
  case leaseText lease text count =>
    cases live : v.liveLease lease with
    | none => rw [live] at happened; cases happened
    | some l =>
      rw [live] at happened
      simp only [Option.ite_none_right_eq_some] at happened
      obtain ⟨member, ran⟩ := happened
      obtain ⟨found, same⟩ := World.liveLease_mem live
      exact leaseText_env inv found member ran (ok.kept lease text count l rfl live)
        fun id quiet owns => ok.quiet id quiet ⟨l, found, same, owns⟩
  case leaseGone lease =>
    subst happened
    have legal : Legal terms v (v.dropLease lease) := World.dropLease_legal lease
    refine ⟨legal.inv inv, fun t => legal.toFrame.rely t (fun id _ => World.dropLease_shrunk t lease) fun id quiet => ?_⟩
    exact (World.dropLease_untouched fun l member same owns =>
      ok.quiet id quiet ⟨l, member, same, owns⟩).toStanding
  case tokenGone accessor =>
    subst happened
    have legal : Legal terms v (v.dropToken accessor) := World.dropToken_legal accessor
    refine ⟨legal.inv inv, fun t => legal.toFrame.rely t (fun id _ => World.dropToken_shrunk t accessor) fun id quiet => ?_⟩
    exact (World.dropToken_untouched fun token member same owns =>
      ok.quiet id quiet ⟨token, member, same, owns⟩).toStanding
  case foreignTokens tokens =>
    subst happened
    exact foreign_env inv tokens

/-- After the death of the process nobody holds a lock. -/
theorem World.reset_inv (inv : Inv terms v) : Inv terms v.reset ∧ ∀ t, v.reset.Idle t := by
  refine ⟨?_, fun t db h lock => by cases lock⟩
  exact World.inv_of_locks inv rfl rfl rfl rfl rfl (fun _ _ lock => by cases lock) (fun _ _ _ _ lock => by cases lock)
    (fun _ _ watch => by cases watch) (fun _ _ member => Or.inl member) (fun _ _ lock => by cases lock)
    (fun _ _ _ _ lock => by cases lock)

theorem World.initial_inv : Inv terms World.initial := by
  have clean (id : GrantId) : World.initial.Clean id :=
    ⟨fun _ _ member => (List.not_mem_nil member).elim, fun _ member => (List.not_mem_nil member).elim,
      fun _ member => (List.not_mem_nil member).elim, rfl⟩
  have absent (id : GrantId) (r : Grant) : World.initial.row id ≠ some r := (Option.some_ne_none r).symm
  have free (db : DbType) (h : Holder) : World.initial.locks db ≠ some h := (Option.some_ne_none h).symm
  have unwatched (t : Nat) (k : Watch) : World.initial.watch t ≠ some k := (Option.some_ne_none k).symm
  refine ⟨fun id _ => ⟨clean id, fun _ => List.not_mem_nil⟩, fun id r found => absurd found (absent id r),
    fun id r _ found => absurd found (absent id r), fun id r _ found => absurd found (absent id r),
    fun id r _ found => absurd found (absent id r), fun _ member => (List.not_mem_nil member).elim,
    fun _ member => (List.not_mem_nil member).elim, fun _ _ member => (List.not_mem_nil member).elim,
    fun db h lock => absurd lock (free db h), fun db _ h _ lock => absurd lock (free db h),
    fun t k watch => absurd watch (unwatched t k), fun _ _ id r found => absurd found (absent id r),
    fun _ _ member => (List.not_mem_nil member).elim, fun db h lock => absurd lock (free db h),
    fun _ _ db h lock => absurd lock (free db h)⟩

end environment
end Vdba
