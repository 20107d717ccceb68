import Vdba.Effects

namespace Vdba

/-- Fewer accounts, fewer of them with a login, fewer sessions. -/
structure Database.Less (d d' : Database) : Prop where
  accounts : ∀ name ∈ d'.accounts, name ∈ d.accounts
  login : ∀ name, d'.login name = true → d.login name = true
  sessions : ∀ name, d'.sessions name ≤ d.sessions name

namespace Database
variable {d d' : Database} {name other : String} {count : Nat} {deed : Deed}

theorem apply_other (applied : d.apply name count deed = some d') (differs : other ≠ name) :
    (other ∈ d'.accounts ↔ other ∈ d.accounts) ∧ d'.login other = d.login other ∧
      d'.sessions other = d.sessions other ∧ d'.queries other = d.queries other := by
  cases deed <;> simp only [apply, Option.ite_none_left_eq_some, Option.ite_none_right_eq_some,
    Option.some.injEq] at applied
  case create =>
    obtain ⟨-, rfl⟩ := applied
    simp [differs]
  case lockout =>
    obtain ⟨-, rfl⟩ := applied
    refine ⟨Iff.rfl, ?_, rfl, rfl⟩
    by_cases present : name ∈ d.accounts <;> simp [present, differs]
  case cleanup =>
    obtain ⟨-, applied⟩ := applied
    by_cases present : name ∈ d.accounts
    · rw [if_pos present] at applied
      cases applied
      simp [differs]
    · rw [if_neg present] at applied
      cases applied
      exact ⟨Iff.rfl, rfl, rfl, rfl⟩
  case terminate => subst applied; simp [differs]
  case kill => subst applied; simp [differs]
  case drop => subst applied; simp [differs]

theorem apply_less (applied : d.apply name count deed = some d') (mild : deed ≠ .create) : d.Less d' := by
  have others (other : String) (differs : other ≠ name) := apply_other applied differs
  suffices own : (name ∈ d'.accounts → name ∈ d.accounts) ∧ (d'.login name = true → d.login name = true) ∧
      d'.sessions name ≤ d.sessions name by
    refine ⟨fun other => ?_, fun other => ?_, fun other => ?_⟩ <;> by_cases same : other = name
    · rw [same]; exact own.1
    · exact (others other same).1.mp
    · rw [same]; exact own.2.1
    · rw [(others other same).2.1]; exact id
    · rw [same]; exact own.2.2
    · rw [(others other same).2.2.1]
  cases deed <;> simp only [apply, Option.ite_none_right_eq_some, Option.some.injEq] at applied
  case create => exact absurd rfl mild
  case lockout =>
    obtain ⟨-, rfl⟩ := applied
    refine ⟨id, fun can => ?_, Nat.le_refl _⟩
    by_cases present : name ∈ d.accounts
    · simp [present] at can
    · simpa [present] using can
  case cleanup =>
    obtain ⟨-, applied⟩ := applied
    by_cases present : name ∈ d.accounts
    · rw [if_pos present] at applied
      cases applied
      refine ⟨fun _ => present, by simp, ?_⟩
      simp only [Function.update_self]
      split <;> omega
    · rw [if_neg present] at applied
      cases applied
      exact ⟨id, id, Nat.le_refl _⟩
  case terminate =>
    subst applied
    exact ⟨id, id, by simp⟩
  case kill => subst applied; exact ⟨id, id, Nat.le_refl _⟩
  case drop =>
    subst applied
    exact ⟨fun member => List.mem_of_mem_filter member, id, Nat.le_refl _⟩

/-- A locked-out account stays locked out, and its sessions are counted until the last is gone. -/
theorem apply_closing (applied : d.apply name count deed = some d') (mild : deed ≠ .create) (keeps : deed ≠ .drop)
    (locked : d.login other = false) (counted : other ∈ d.accounts ∨ d.sessions other = 0) :
    d'.login other = false ∧ (other ∈ d'.accounts ∨ d'.sessions other = 0) := by
  have less := apply_less applied mild
  have locked' : d'.login other = false := by
    by_contra can
    rw [Bool.not_eq_false] at can
    rw [less.login other can] at locked
    cases locked
  refine ⟨locked', ?_⟩
  rcases counted with present | none
  · by_cases same : other = name
    · subst same
      cases deed <;> simp only [apply, Option.ite_none_right_eq_some, Option.some.injEq] at applied
      case create => exact absurd rfl mild
      case drop => exact absurd rfl keeps
      case lockout => obtain ⟨-, rfl⟩ := applied; exact Or.inl present
      case cleanup =>
        obtain ⟨-, applied⟩ := applied
        rw [if_pos present] at applied
        cases applied
        right
        simp [locked]
      case terminate => subst applied; exact Or.inl present
      case kill => subst applied; exact Or.inl present
    · exact Or.inl ((apply_other applied same).1.mpr present)
  · have fewer := less.sessions other
    exact Or.inr (by omega)

theorem apply_gone (applied : d.apply name count deed = some d') (ends : deed = .cleanup ∨ deed = .drop) :
    name ∉ d'.accounts := by
  rcases ends with rfl | rfl <;> simp only [apply, Option.ite_none_right_eq_some, Option.some.injEq] at applied
  · obtain ⟨-, applied⟩ := applied
    by_cases present : name ∈ d.accounts
    · rw [if_pos present] at applied
      cases applied
      simp
    · rw [if_neg present] at applied
      cases applied
      exact present
  · subst applied
    simp

theorem apply_lockout (applied : d.apply name count .lockout = some d') :
    d'.accounts = d.accounts ∧ (name ∈ d.accounts → d'.login name = false) := by
  simp only [apply, Option.ite_none_right_eq_some, Option.some.injEq] at applied
  obtain ⟨-, rfl⟩ := applied
  exact ⟨rfl, fun present => by simp [present]⟩

end Database

/-- A statement that creates nothing, and drops without cleaning up only where nobody logs in to a role. -/
def Mild (db : DbType) (text : String) : Prop :=
  ∀ a, act text = some a → a.deed ≠ .create ∧ (a.deed = .drop → db = .clickhouse)

/-- A statement about accounts of the grant. -/
def About (id : GrantId) (text account : String) : Prop := ∀ a, act text = some a → id.Owns (fill account a.name)

namespace World

@[simp] theorem setDb_self (w : World) (db : DbType) (d : Database) : (w.setDb db d).dbs db = d := by
  simp [setDb]

theorem setDb_other (w : World) {db db' : DbType} (d : Database) (differs : db' ≠ db) :
    (w.setDb db d).dbs db' = w.dbs db' := by
  simp [setDb, differs]

@[simp] theorem setDb_vault (w : World) (db : DbType) (d : Database) : (w.setDb db d).vault = w.vault := rfl

@[simp] theorem setDb_row (w : World) (db : DbType) (d : Database) (id : GrantId) :
    (w.setDb db d).row id = w.row id := rfl

theorem setDb_frame {terms : Terms} (w : World) (db : DbType) (d : Database) : Frame terms w (w.setDb db d) :=
  { Frame.refl w with }

/-- A statement has no effect, or does its deed to its account. -/
theorem statement_cases {w w' : World} {db : DbType} {text account : String} {count : Nat}
    (ran : w.statement db text account count = some w') :
    (act text = none ∧ w' = w) ∨ ∃ a d', act text = some a ∧
      (w.dbs db).apply (fill account a.name) count a.deed = some d' ∧ w' = w.setDb db d' := by
  unfold statement at ran
  cases acts : act text with
  | none => rw [acts] at ran; cases ran; exact Or.inl ⟨rfl, rfl⟩
  | some a =>
    rw [acts] at ran
    obtain ⟨d', applied, rfl⟩ := Option.map_eq_some_iff.mp ran
    exact Or.inr ⟨a, d', rfl, applied, rfl⟩

theorem less_shut {w : World} {d : Database} {name : String} (less : (w.dbs .postgres).Less d) (shut : w.Shut name) :
    (w.setDb .postgres d).Shut name := by
  obtain ⟨none, out⟩ := shut
  have fewer := less.sessions name
  refine ⟨by rw [setDb_self]; omega, fun can => out ?_⟩
  simp only [Event.canLogin, setDb_self, Bool.and_eq_true, decide_eq_true_eq] at can ⊢
  exact ⟨less.accounts name can.1, less.login name can.2⟩

variable {w w' : World} {db : DbType} {text account : String} {count : Nat}

theorem statement_frame {terms : Terms} (ran : w.statement db text account count = some w') : Frame terms w w' := by
  rcases statement_cases ran with ⟨-, rfl⟩ | ⟨a, d', -, -, rfl⟩
  · exact (Same.refl w').toFrame
  · exact setDb_frame w db d'

theorem statement_vault (ran : w.statement db text account count = some w') : w'.vault = w.vault := by
  rcases statement_cases ran with ⟨-, rfl⟩ | ⟨a, d', -, -, rfl⟩ <;> rfl

/-- A change of one database that leaves some names alone leaves them alone in both. -/
theorem setDb_names {names : String → Prop} {d : Database}
    (same : ∀ name, names name → (name ∈ d.accounts ↔ name ∈ (w.dbs db).accounts) ∧
      d.login name = (w.dbs db).login name ∧ d.sessions name = (w.dbs db).sessions name ∧
      d.queries name = (w.dbs db).queries name) (db' : DbType) (name : String) (named : names name) :
    (name ∈ ((w.setDb db d).dbs db').accounts ↔ name ∈ (w.dbs db').accounts) ∧
      ((w.setDb db d).dbs db').login name = (w.dbs db').login name ∧
      ((w.setDb db d).dbs db').sessions name = (w.dbs db').sessions name ∧
      ((w.setDb db d).dbs db').queries name = (w.dbs db').queries name := by
  by_cases here : db' = db
  · subst here
    rw [setDb_self]
    exact same name named
  · rw [setDb_other w d here]
    exact ⟨Iff.rfl, rfl, rfl, rfl⟩

/-- A statement leaves alone the grants it is not about. -/
theorem statement_untouched {id : GrantId} (ran : w.statement db text account count = some w')
    (elsewhere : ∀ a, act text = some a → ¬id.Owns (fill account a.name)) : Untouched id w w' := by
  rcases statement_cases ran with ⟨-, rfl⟩ | ⟨a, d', acts, applied, rfl⟩
  · exact Untouched.refl id w'
  · have about (name : String) (owns : id.Owns name) : name ≠ fill account a.name := by
      rintro rfl
      exact elsewhere a acts owns
    have left := setDb_names fun name owns => Database.apply_other applied (about name owns)
    exact ⟨⟨fun db' name owns => (left db' name owns).1, fun db' name owns => (left db' name owns).2.1,
      fun _ _ => Iff.rfl, fun _ _ => Iff.rfl, fun _ _ => rfl⟩, fun db' name owns => (left db' name owns).2.2.1,
      fun db' name owns => (left db' name owns).2.2.2⟩

/-- A statement changes nothing but what it is about. -/
theorem statement_confined {id : GrantId} (ran : w.statement db text account count = some w')
    (about : About id text account) : Confined id w w' := by
  rcases statement_cases ran with ⟨-, rfl⟩ | ⟨a, d', acts, applied, rfl⟩
  · exact Confined.refl id w'
  · have apart (name : String) (other : ¬id.Owns name) : name ≠ fill account a.name := by
      rintro rfl
      exact other (about a acts)
    have left := setDb_names fun name other => Database.apply_other applied (apart name other)
    exact ⟨fun db' name other => (left db' name other).1, fun db' name other => (left db' name other).2.1,
      fun db' name other => (left db' name other).2.2.1, fun db' name other => (left db' name other).2.2.2,
      fun _ _ => Iff.rfl, fun _ _ => Iff.rfl, fun _ _ => rfl⟩

theorem statement_lessened (ran : w.statement db text account count = some w') (mild : Mild db text) (id : GrantId) :
    Lessened id w w' := by
  rcases statement_cases ran with ⟨-, rfl⟩ | ⟨a, d', acts, applied, rfl⟩
  · exact Lessened.refl id w'
  · obtain ⟨creates, drops⟩ := mild a acts
    have less := Database.apply_less applied creates
    refine ⟨fun db' name _ member => ?_, fun db' name _ can => ?_, fun name _ closing => ?_, fun name _ shut => ?_,
      fun _ _ member => member, fun _ _ member => member, fun none => none, fun _ _ known => known⟩
    · by_cases here : db' = db
      · subst here
        rw [setDb_self] at member
        exact less.accounts name member
      · rwa [setDb_other w d' here] at member
    · by_cases here : db' = db
      · subst here
        rw [setDb_self] at can
        exact less.login name can
      · rwa [setDb_other w d' here] at can
    · unfold Closing at closing ⊢
      by_cases here : DbType.postgres = db
      · subst here
        rw [setDb_self]
        exact Database.apply_closing applied creates (fun drop => nomatch drops drop) closing.1 closing.2
      · rwa [setDb_other w d' here]
    · by_cases here : DbType.postgres = db
      · subst here
        exact less_shut less shut
      · unfold Shut Event.canLogin at shut ⊢
        rwa [setDb_other w d' here]

/-- Statements keep the accounts that were found, unless they clean one up. -/
theorem statement_aside {terms : Terms} (ran : w.statement db text account count = some w') (mild : Mild db text)
    (keeps : ∀ a, act text = some a → a.deed = .cleanup → terms.kept (fill account a.name) → db = .postgres →
      ¬Event.canLogin w .postgres (fill account a.name)) (id : GrantId) : Aside terms id w w' := by
  refine ⟨statement_lessened ran mild id, fun name kept owns sought => ⟨?_, ?_⟩, (statement_frame ran).clock⟩
  · exact (@statement_frame _ _ _ _ _ _ terms ran).listed _ sought.1
  rcases sought.2 with can | closing
  · rcases statement_cases ran with ⟨-, rfl⟩ | ⟨a, d', acts, applied, rfl⟩
    · exact Or.inl can
    · by_cases here : DbType.postgres = db
      · subst here
        have keeps := fun deed kept => keeps a acts deed kept rfl
        simp only [Event.canLogin, Bool.and_eq_true, decide_eq_true_eq] at can keeps
        unfold Ready Closing Event.canLogin
        rw [setDb_self]
        by_cases same : name = fill account a.name
        · obtain ⟨creates, drops⟩ := mild a acts
          have keeps := fun deed => keeps deed (by rwa [← same])
          rw [← same] at applied keeps
          cases deed : a.deed <;> rw [deed] at applied creates drops keeps
          case create => exact absurd rfl creates
          case drop => exact nomatch drops rfl
          case cleanup => exact absurd can (keeps rfl)
          case lockout =>
            obtain ⟨accounts, locked⟩ := Database.apply_lockout applied
            exact Or.inr ⟨locked can.1, Or.inl (by rw [accounts]; exact can.1)⟩
          case terminate => cases applied; exact Or.inl (by simp [can])
          case kill => cases applied; exact Or.inl (by simp [can])
        · obtain ⟨accounts, login, -, -⟩ := Database.apply_other applied same
          exact Or.inl (by simp [accounts, login, can])
      · unfold Ready Closing Event.canLogin
        rw [setDb_other w d' here]
        exact Or.inl (by simpa [Event.canLogin] using can)
  · exact Or.inr ((statement_lessened ran mild id).closing name owns closing)

theorem statement_legal {terms : Terms} (ran : w.statement db text account count = some w') (mild : Mild db text) :
    Legal terms w w' := by
  refine ⟨statement_frame ran, fun _ member => Or.inl ?_, fun _ member => Or.inl ?_, fun db' name member => Or.inl ?_,
    fun _ none => Or.inl ?_, fun id name _ _ shut => ?_⟩
  · rwa [statement_vault ran] at member
  · rwa [statement_vault ran] at member
  · rcases statement_cases ran with ⟨-, rfl⟩ | ⟨a, d', acts, applied, rfl⟩
    · exact member
    · by_cases here : db' = db
      · subst here
        rw [setDb_self] at member
        exact (Database.apply_less applied (mild a acts).1).accounts name member
      · rwa [setDb_other w d' here] at member
  · rw [statement_vault ran, none]
  · rcases statement_cases ran with ⟨-, rfl⟩ | ⟨a, d', acts, applied, rfl⟩
    · exact shut
    · by_cases here : DbType.postgres = db
      · subst here
        exact less_shut (Database.apply_less applied (mild a acts).1) shut
      · unfold Shut Event.canLogin at shut ⊢
        rwa [setDb_other w d' here]

end World
end Vdba
