import Vdba.LedgerSteps

namespace Vdba
open Interaction (Triple Stable Keeping)

theorem Logbook.owes_none (b : Logbook) (t : Nat) : b.owes t none = b := by
  simp [Logbook.owes]

theorem Logbook.owes_self (b : Logbook) (t : Nat) (debt : Option Debt) :
    (b.owes t debt).owed t = debt.or (b.owed t) := Function.update_self ..

theorem Logbook.owes_other (b : Logbook) {t u : Nat} (other : u ≠ t) (debt : Option Debt) :
    (b.owes t debt).owed u = b.owed u := Function.update_of_ne other _ _

theorem World.updated_book {w : World} {t : Nat} {id : GrantId} {r : Grant} {caller : Caller}
    (held : w.Held t id r caller)
    (now : Time) (fields : GrantFields) :
    (w.updated t now id fields).book = w.book.owes t (debtOf id r.issuedBy (some caller) fields) := by
  unfold World.updated World.noteWrite
  split
  · have row : (({ w with store := w.store.updateGrant now id fields } : World).row id) = some (r.set now fields) := by
      have found : w.store.getGrant id = some r := held.1
      unfold World.row
      rw [Store.getGrant_updateGrant, if_pos rfl, found]
      rfl
    have lock : w.locks (r.set now fields).dbType = some ⟨t, id, caller⟩ := held.2
    have debt : ({ w with store := w.store.updateGrant now id fields } : World).debt id fields =
        debtOf id r.issuedBy (some caller) fields := by
      unfold World.debt
      rw [row, Option.bind_some, lock]
      rfl
    rw [debt]
  · rename_i unnamed
    have none : fields.status = none := by simpa using unnamed
    have nothing : debtOf id r.issuedBy (some caller) fields = Option.none := by
      unfold debtOf
      rw [none]
    rw [nothing, Logbook.owes_none]

/-- The errand after a write of its row. -/
def Errand.written (k : Errand) (now : Time) (fields : GrantFields) : Errand :=
  { k with row := k.row.set now fields, debt := debtOf k.id k.row.issuedBy (some k.caller) fields }

/-- The errand after its row of the audit log. -/
def Errand.paid (k : Errand) : Errand := { k with debt := none }

/-- A write of the row that the records allow. -/
structure Fits (p : Pledge) (k : Errand) (fields : GrantFields) (high : Time) : Prop where
  row : ∀ now, RowOk k.row → RowOk (k.row.set now fields)
  moves : fields.status.getD k.row.status = k.row.status ∨
    Moves k.caller k.row.id k.row.status (fields.status.getD k.row.status)
  fresh : k.row.username.isSome = true → fields.username = none ∧ fields.leaseId = none ∧ fields.expiresAt = none
  named : fields.username.isSome = true → fields.status = some .active
  ended : (fields.status.getD k.row.status).terminal = true → fields.status.isSome = true
  active : fields.status = some .active → k.begun = some ⟨k.id, true, none⟩
  smoothly : p.untroubled k.id → ∀ now, Smoothly (k.row.set now fields) high

section writes
variable {p : Pledge} {n : Nat} {k : Errand} {v w : World} {now : Time} {fields : GrantFields}

theorem paid_updated (owed : v.book.owed k.thread = none) (held : v.Held k.thread k.id k.row k.caller) {d : Debt}
    (paid : Paid d v) : Paid d (v.updated k.thread now k.id fields) := by
  obtain ⟨-, -, -, -, -, -, -, -, store⟩ := @World.updated_eq k.thread k.id v now fields
  rcases paid with ⟨a, member, pays⟩ | ⟨t, owes⟩
  · exact Or.inl ⟨a, by rw [store]; exact member, pays⟩
  · refine Or.inr ⟨t, ?_⟩
    have other : t ≠ k.thread := by
      rintro rfl
      rw [owed] at owes
      cases owes
    rw [World.updated_book held, Logbook.owes_other _ other, owes]

theorem owed_updated (owed : v.book.owed k.thread = none) (held : v.Held k.thread k.id k.row k.caller) :
    (v.updated k.thread now k.id fields).book.owed k.thread = debtOf k.id k.row.issuedBy (some k.caller) fields := by
  rw [World.updated_book held, Logbook.owes_self, owed, Option.or_none]

/-- A row after a write of another one. -/
theorem updated_rows (held : v.Held k.thread k.id k.row k.caller) {id : GrantId} {r : Grant}
    (found : (v.updated k.thread now k.id fields).row id = some r) :
    id = k.id ∧ r = k.row.set now fields ∨ id ≠ k.id ∧ v.row id = some r := by
  by_cases same : id = k.id
  · subst same
    rw [World.updated_row held.1] at found
    cases found
    exact Or.inl ⟨rfl, rfl⟩
  · rw [World.updated_other v now fields same] at found
    exact Or.inr ⟨same, found⟩

theorem Fits.change (fits : Fits p k fields v.book.high) (now : Time) :
    Change k.caller k.row (k.row.set now fields) where
  toPersists := Persists.set fits.fresh now
  moves := fits.moves
  named blank named := by
    have given : fields.username.isSome = true := by simpa [Grant.set, blank, Option.isSome_iff_ne_none] using named
    simp [Grant.set, fits.named given]

theorem updated_persists (now : Time) (fits : Fits p k fields v.book.high)
    (held : v.Held k.thread k.id k.row k.caller) {id : GrantId}
    {r : Grant} (found : v.row id = some r) :
    ∃ r', (v.updated k.thread now k.id fields).row id = some r' ∧
      (r' = r ∨ ∃ caller, v.Held k.thread id r caller ∧ Change caller r r') := by
  by_cases same : id = k.id
  · subst same
    rw [held.1] at found
    cases found
    exact ⟨_, World.updated_row held.1 now fields, Or.inr ⟨k.caller, held, fits.change now⟩⟩
  · exact ⟨r, by rw [World.updated_other v now fields same, found], Or.inl rfl⟩

theorem updated_issues (issues : Issues v) (fits : Fits p k fields v.book.high) (at_k : k.Runs p v) :
    Issues (v.updated k.thread now k.id fields) := by
  have held := at_k.held
  have begun (t : Nat) : (v.updated k.thread now k.id fields).book.begun t = v.book.begun t := by
    rw [World.updated_book held]
    rfl
  refine ⟨fun t b begins inserted => ?_, fun t u b c first second => ?_,
    fun t b status begins inserted left other r found => ?_⟩
  · rw [begun] at begins
    obtain ⟨r, found⟩ := Option.ne_none_iff_exists'.mp (issues.present t b begins inserted)
    obtain ⟨r', found', -⟩ := updated_persists now fits held found
    rw [found']
    exact Option.some_ne_none r'
  · rw [begun] at first second
    exact issues.sole t u b c first second
  · rw [begun] at begins
    rcases updated_rows held found with ⟨same, rfl⟩ | ⟨-, found⟩
    · have before := issues.past t b status begins inserted left other k.row (by rw [same]; exact held.1)
      intro active
      have active : fields.status.getD k.row.status = .active := active
      cases named : fields.status with
      | none =>
        rw [named] at active
        exact before active
      | some status' =>
        rw [named] at active
        have mine := fits.active (by rw [named, ← active]; rfl)
        have own : t = k.thread :=
          issues.sole t k.thread b _ begins (at_k.begun.trans mine) inserted rfl same
        rw [own, at_k.begun, mine] at begins
        cases begins
        cases left
    · exact issues.past t b status begins inserted left other r found

/-- One write of the row. -/
theorem updated_ledger (books : Ledger p v) (at_k : At p k v) (debt : k.debt = none)
    (fits : Fits p k fields v.book.high)
    (base : Inv {} (v.updated k.thread now k.id fields)) : Ledger p (v.updated k.thread now k.id fields) := by
  obtain ⟨at_k, helperless⟩ := at_k
  have held := at_k.held
  obtain ⟨vault, -, locks, -, reads, clock, -, -, store⟩ := @World.updated_eq k.thread k.id v now fields
  have owed (recorded : p.recorded) : v.book.owed k.thread = none := (at_k.owed recorded).trans debt
  have book := World.updated_book held now fields
  have pays (recorded : p.recorded) (d : Debt) (same : debtOf k.id k.row.issuedBy (some k.caller) fields = some d) :
      Paid d (v.updated k.thread now k.id fields) :=
    Or.inr ⟨k.thread, (owed_updated (owed recorded) held).trans same⟩
  refine ⟨base, ?_, fun id r found => ?_, fun recorded id r found username => ?_, fun recorded id r found past => ?_,
    fun tidy id some_left => ?_, fun id untroubled r found => ?_, fun response member i body => ?_,
    updated_issues books.issues fits at_k, ?_⟩
  · rw [store]
    have ids : ∀ g : Grant, (if g.id = k.id then g.set now fields else g).id = g.id := by
      intro g
      split <;> rfl
    have same : (v.store.updateGrant now k.id fields).grants.map (·.id) = v.store.grants.map (·.id) := by
      simp only [Store.updateGrant, List.map_map, Function.comp_def, ids]
    rw [same]
    exact books.unique
  · rcases updated_rows held found with ⟨rfl, rfl⟩ | ⟨-, found⟩
    · exact fits.row now (books.rows _ _ held.1)
    · exact books.rows id r found
  · rcases updated_rows held found with ⟨rfl, rfl⟩ | ⟨-, found⟩
    · cases fresh : fields.username with
      | none =>
        have before : k.row.username.isSome = true := by simpa [Grant.set, fresh] using username
        have issued := books.issued recorded k.id k.row held.1 before
        exact paid_updated (owed recorded) held issued
      | some name =>
        refine pays recorded _ ?_
        unfold debtOf
        rw [fits.named (by rw [fresh]; rfl)]
        rfl
    · exact paid_updated (owed recorded) held (books.issued recorded id r found username)
  · rcases updated_rows held found with ⟨rfl, rfl⟩ | ⟨-, found⟩
    · obtain ⟨final, named⟩ := Option.isSome_iff_exists.mp (fits.ended past)
      have status : (k.row.set now fields).status = final := by
        simp [Grant.set, named]
      refine pays recorded _ ?_
      rw [status] at past ⊢
      unfold debtOf
      rw [named]
      cases final <;> first | rfl | cases past
    · exact paid_updated (owed recorded) held (books.ended recorded id r found past)
  · have left : ¬Helperless id v := fun none => some_left fun suffix => by rw [vault, none suffix]
    obtain ⟨t, r, caller, held', alive, inserted⟩ := books.helpers tidy id left
    have differs : id ≠ k.id := by
      rintro rfl
      exact left (helperless tidy)
    refine ⟨t, r, caller, ⟨?_, by rw [locks, held'.2]⟩, alive, fun b begun => inserted b (by rwa [book] at begun)⟩
    rw [World.updated_other v now fields differs, held'.1]
  · rw [book]
    rcases updated_rows held found with ⟨rfl, rfl⟩ | ⟨-, found⟩
    · exact fits.smoothly untroubled now
    · exact books.smoothly id untroubled r found
  · rw [book] at member
    obtain ⟨read, logged, role, password, r, found, username, lease, expires⟩ := books.told response member i body
    obtain ⟨r', found', same⟩ := updated_persists now fits held found
    have persists : Persists r r' := by
      rcases same with rfl | ⟨caller, -, change⟩
      · exact .refl _
      · exact change.toPersists
    obtain ⟨username', lease', expires'⟩ := persists.username (by rw [username]; rfl)
    exact ⟨read, by rw [reads]; exact logged, role, password, r', found', username'.trans username, lease'.trans lease,
      by rw [expires']; exact expires⟩
  · rw [clock, book]
    exact books.high

theorem updated_enters (at_k : At p k v) (debt : k.debt = none) (fits : Fits p k fields v.book.high)
    (base : Guar {} k.thread v (v.updated k.thread now k.id fields)) :
    Enters p k.thread v (v.updated k.thread now k.id fields) := by
  obtain ⟨at_k, -⟩ := at_k
  have held := at_k.held
  have book := World.updated_book held now fields
  have begun (t : Nat) : (v.updated k.thread now k.id fields).book.begun t = v.book.begun t := by
    rw [book]
    rfl
  refine ⟨base, fun id r found => updated_persists now fits held found, fun id absent r found => ?_,
    fun id r r' found found' active => ?_, fun u other => ?_, fun u _ => begun u, ?_, fun recorded d paid => ?_,
    fun b begins out => ?_⟩
  · rcases updated_rows held found with ⟨rfl, -⟩ | ⟨-, found⟩
    · rw [held.1] at absent
      cases absent
    · rw [absent] at found
      cases found
  · rcases updated_rows held found' with ⟨rfl, rfl⟩ | ⟨-, found'⟩
    · rw [held.1] at found
      cases found
      have active : fields.status.getD k.row.status = .active := active
      cases named : fields.status with
      | none =>
        rw [named] at active
        exact Or.inl active
      | some status =>
        rw [named] at active
        exact Or.inr (at_k.begun.trans (fits.active (by rw [named, ← active]; rfl)))
    · rw [found] at found'
      cases found'
      exact Or.inl active
  · rw [book, Logbook.owes_other _ other]
  · rw [book]
    exact Nat.le_refl _
  · exact paid_updated ((at_k.owed recorded).trans debt) held paid
  · rw [begun] at begins
    rw [at_k.inserted begins] at out
    cases out

theorem At.written (at_k : At p k v) (debt : k.debt = none) :
    At p (k.written now fields) (v.updated k.thread now k.id fields) := by
  obtain ⟨at_k, helperless⟩ := at_k
  have held := at_k.held
  obtain ⟨vault, -, locks, -⟩ := @World.updated_eq k.thread k.id v now fields
  refine ⟨⟨⟨World.updated_row held.1 now fields, ?_⟩, fun recorded => ?_, ?_, ?_⟩, fun tidy suffix => ?_⟩
  · rw [locks]
    exact held.2
  · exact owed_updated ((at_k.owed recorded).trans debt) held
  · rw [World.updated_book held]
    exact at_k.begun
  · refine Eq.trans ?_ at_k.watch
    unfold World.updated World.noteWrite
    split
    · cases v.watch k.thread with
      | none => simp [Errand.written]
      | some old =>
        simp only [Errand.written, Function.update_self, Option.map_some, Option.some.injEq]
        split <;> rfl
    · rfl
  · rw [vault]
    exact helperless tidy suffix

/-- A call that raises with its response not lost has not taken effect. -/
theorem settle_error {α : Type} {c : Choice} {honest : World → Exc → Bool} {w' u : World} {value : α} {e : Exc}
    (done : settle c honest v w' value = some (.error e, u)) (kept : ∀ exn, c.fate ≠ .lost exn) :
    u = v ∧ c.fate = .fail e := by
  rcases settle_cases done with ⟨failed, -⟩ | ⟨e', failed, -, ⟨same, fate⟩ | -, -⟩
  · cases failed
  · cases failed
    exact ⟨same, fate⟩
  · unfold settle at done
    split at done
    · cases done
    · rename_i fate
      simp only [Option.ite_none_right_eq_some, Option.some.injEq, Prod.mk.injEq, Except.error.injEq] at done
      obtain ⟨-, rfl, rfl⟩ := done
      exact ⟨rfl, fate⟩
    · rename_i exn fate
      exact absurd fate (kept exn)

/-- `update_grant`: a write of the store that raises has written nothing. -/
theorem updateGrant_work {S : World → Prop} (lasts : Lasts p k.thread S) (debt : k.debt = none)
    (fits : ∀ v, S v → At p k v → Ledger p v → Fits p k fields v.book.high) :
    Triple (ledger p) k.thread (some n) (fun w => At p k w ∧ S w) (updateGrant k.id fields)
      (fun _ w => ∃ now, At p (k.written now fields) w) (fun _ => At p k) := by
  have at_k : Lasts p k.thread (At p k) := At.lasts
  have both : Lasts p k.thread fun w => At p k w ∧ S w := at_k.and lasts
  have after (now : Time) : Lasts p k.thread (At p (k.written now fields)) := At.lasts (k := k.written now fields)
  have clock : Triple (ledger p) k.thread (some n) (fun w => At p k w ∧ S w) time (fun _ w => At p k w ∧ S w)
      (fun _ => At p k) :=
    (calm_keeping both At.bold.and (calm_ask .now trivial)).mono (fun _ held => held) (fun _ _ _ held => held)
      fun _ _ _ held => held.1
  refine Triple.bind clock fun now => ?_
  refine step_triple both.stable (fun _ => (Lasts.exists after).stable) (fun _ => at_k.stable)
    fun v c answer u held books executed honours base guar => ?_
  have executed : settle c anyExc v (v.updated k.thread now k.id fields) () = some (answer, u) := executed
  have fit := fits v held.2 held.1 books
  cases answer with
  | error e =>
    obtain ⟨rfl, -⟩ := settle_error executed (honours.atomic rfl)
    refine ⟨books, (Level.refl u).enters guar fun b begun out => ?_, held.1⟩
    rw [At.bold u held.1 b begun] at out
    cases out
  | ok _ =>
    rcases settle_cases executed with ⟨-, rfl, -⟩ | ⟨e, failed, -⟩
    · exact ⟨updated_ledger books held.1 debt fit base, updated_enters held.1 debt fit guar, now, held.1.written debt⟩
    · cases failed

end writes

section audits
variable {p : Pledge} {n t : Nat} {k : Errand} {v w : World} {row : AuditRow}

theorem Paid.audited {d : Debt} (paid : Paid d v) : Paid d (v.audited t row) := by
  rcases paid with ⟨a, member, pays⟩ | ⟨u, owes⟩
  · exact Or.inl ⟨a, List.mem_append_left _ member, pays⟩
  · by_cases pays : d.paidBy row = true
    · exact Or.inl ⟨_, List.mem_append_right _ (List.mem_singleton_self _), pays⟩
    · refine Or.inr ⟨u, ?_⟩
      by_cases own : u = t
      · subst own
        simp [World.audited, Logbook.pays, owes, pays]
      · exact (Function.update_of_ne own _ _).trans owes

theorem audited_ledger (books : Ledger p v) (base : Inv {} (v.audited t row)) : Ledger p (v.audited t row) where
  base := base
  unique := books.unique
  rows := books.rows
  issued recorded id r found named := (books.issued recorded id r found named).audited
  ended recorded id r found past := (books.ended recorded id r found past).audited
  helpers := books.helpers
  smoothly := books.smoothly
  told := books.told
  issues := ⟨books.issues.present, books.issues.sole, books.issues.past⟩
  high := books.high

theorem audited_enters (guar : Guar {} t v (v.audited t row)) : Enters p t v (v.audited t row) where
  base := guar
  rows id r found := ⟨r, found, Or.inl rfl⟩
  inserted id absent r found := by
    have absent : (v.audited t row).row id = none := absent
    rw [absent] at found
    cases found
  active id r r' found found' active := by
    have found : (v.audited t row).row id = some r := found
    rw [found] at found'
    cases found'
    exact Or.inl active
  owed u other := Function.update_of_ne other _ _
  begun _ _ := rfl
  high := Nat.le_refl _
  paid _ _ paid := paid.audited
  aside b _ _ := ⟨rfl, { Untouched.refl b.grant v with }⟩

theorem At.audited (at_k : At p k v) (pays : ∀ d, k.debt = some d → d.paidBy row = true) :
    At p k.paid (v.audited k.thread row) := by
  refine ⟨⟨at_k.1.held, fun recorded => ?_, at_k.1.begun, at_k.1.watch⟩, at_k.2⟩
  have owed := at_k.1.owed recorded
  cases debt : k.debt with
  | none => simp [World.audited, Logbook.pays, Errand.paid, owed, debt]
  | some d => simp [World.audited, Logbook.pays, Errand.paid, owed, debt, pays d debt]

/-- `audit` of the row that is owed. -/
theorem audit_work {requestId : Option String} {id : Option GrantId} {actor action result detail : String}
    (pays : ∀ d now, k.debt = some d → d.paidBy ⟨now, requestId, id, actor, action, result, detail⟩ = true) :
    Triple (ledger p) k.thread (some n) (At p k) (audit requestId id actor action result detail) (fun _ => At p k.paid)
      (fun _ w => At p k.paid w ∧ (p.delivered → ¬(action = "issue" ∧ result = "ok"))) := by
  have at_k : Lasts p k.thread (At p k) := At.lasts
  have after : Lasts p k.thread (At p k.paid) := At.lasts (k := k.paid)
  have failed : Lasts p k.thread fun w => At p k.paid w ∧ (p.delivered → ¬(action = "issue" ∧ result = "ok")) :=
    after.and (Lasts.const _)
  have clock : Triple (ledger p) k.thread (some n) (At p k) time (fun _ => At p k)
      (fun _ w => At p k.paid w ∧ (p.delivered → ¬(action = "issue" ∧ result = "ok"))) := by
    refine calm_triple _ at_k At.bold trivial (fun _ => at_k) (fun _ => failed) fun v c answer u _ held _ _ executed _ => ?_
    cases executed
    exact held
  refine Triple.bind clock fun now => ?_
  refine step_triple at_k.stable (fun _ => after.stable) (fun _ => failed.stable)
    fun v c answer u held books executed honours base guar => ?_
  let row : AuditRow := ⟨now, requestId, id, actor, action, result, detail⟩
  have executed : settle c anyExc v (v.audited k.thread row) () = some (answer, u) := executed
  cases answer with
  | error e =>
    obtain ⟨rfl, fate⟩ := settle_error executed (honours.atomic rfl)
    have refused : c.fate ≠ .ok := by
      rw [fate]
      exact nofun
    refine ⟨books, (Level.refl u).enters guar fun b begun out => ?_, ⟨⟨held.1.held, fun recorded => ?_, held.1.begun,
      held.1.watch⟩, held.2⟩, fun delivered same => ?_⟩
    · rw [At.bold u held b begun] at out
      cases out
    · by_contra owes
      exact refused (honours.recorded recorded row rfl owes)
    · exact refused ((honours.delivered delivered).1 row rfl same.1 same.2)
  | ok _ =>
    rcases settle_cases executed with ⟨-, rfl, -⟩ | ⟨e, failed, -⟩
    · exact ⟨audited_ledger books base, audited_enters guar, held.audited fun d debt => pays d now debt⟩
    · cases failed

end audits
end Vdba
