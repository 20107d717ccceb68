import Vdba.DbIntrospect
import Vdba.Interaction.Path
import Vdba.Privileges

namespace Vdba
open Interaction (Exchange Prog)
open Interaction.Prog (Runs)

/-- What the portal has asked and been answered. -/
abbrev Trace := List (Exchange calls Exc)

/-- The rows of the catalog queries, which are the last of these exchanges. -/
def Returned (db : DbType) (trace : Trace) (names : List String) (rows : List (String × String)) : Prop :=
  match db with
  | .postgres => ([⟨.pgTables, .ok names⟩, ⟨.pgSequences, .ok rows⟩] : Trace) <:+ trace
  | .clickhouse => ([⟨.chTables, .ok names⟩] : Trace) <:+ trace ∧ rows = []

section catalogs
variable {db : DbType} {trace : Trace} {found : Catalog} {names : List String} {rows : List (String × String)}

theorem catalog_returned (built : (catalog db).Runs trace (.ok found)) (returned : Returned db trace names rows) :
    found = ⟨ok_ names, ownedSequences (ok_ names) rows⟩ := by
  cases db with
  | postgres =>
    rcases Runs.of_bind built with ⟨exn, -, same⟩ | ⟨_, front, rest, rfl, -, afterConnect⟩
    · cases same
    rcases Runs.of_bind afterConnect with ⟨exn, -, same⟩ | ⟨tables, first, rest, rfl, listed, afterTables⟩
    · cases same
    rcases Runs.of_bind afterTables with ⟨exn, -, same⟩ | ⟨pairs, second, last, rfl, paired, done⟩
    · cases same
    obtain rfl := Runs.of_perform listed
    obtain rfl := Runs.of_perform paired
    obtain ⟨rfl, same⟩ := Runs.of_ret done
    cases same
    obtain ⟨before, whole⟩ := returned
    have ends := (List.append_inj' whole rfl).2
    cases ends
    rfl
  | clickhouse =>
    rcases Runs.of_bind built with ⟨exn, -, same⟩ | ⟨_, front, rest, rfl, -, afterClient⟩
    · cases same
    rcases Runs.of_bind afterClient with ⟨exn, -, same⟩ | ⟨tables, first, last, rfl, listed, done⟩
    · cases same
    obtain rfl := Runs.of_perform listed
    obtain ⟨rfl, same⟩ := Runs.of_ret done
    cases same
    obtain ⟨⟨before, whole⟩, rfl⟩ := returned
    have ends := (List.append_inj' whole rfl).2
    cases ends
    rfl

theorem lookup_entry (sequences : Sequences) (key name : String) (seqs : List String) :
    ((key, seqs) :: sequences).lookup name = if name = key then some seqs else sequences.lookup name := by
  rw [List.lookup_cons]
  by_cases same : name = key
  · rw [if_pos same, beq_iff_eq.mpr same]
  · rw [if_neg same, beq_eq_false_iff_ne.mpr same]

theorem lookup_appended (sequences : Sequences) (table seq name : String) :
    (sequences.map fun entry => if entry.1 = table then (table, entry.2 ++ [seq]) else entry).lookup name =
      if name = table then (sequences.lookup name).map (· ++ [seq]) else sequences.lookup name := by
  induction sequences with
  | nil => simp
  | cons entry rest ih =>
    rcases entry with ⟨key, seqs⟩
    rw [List.map_cons]
    by_cases here : key = table
    · rw [if_pos here, lookup_entry, lookup_entry, ih, here]
      by_cases same : name = table <;> simp [same]
    · rw [if_neg here, lookup_entry, lookup_entry, ih]
      by_cases same : name = key
      · subst same
        simp [here]
      · simp [same]

theorem of_add {sequences : Sequences} {table seq name : String} :
    (sequences.add table seq).of name = if name = table then sequences.of name ++ [seq] else sequences.of name := by
  unfold Sequences.add Sequences.of
  by_cases there : sequences.any (·.1 = table)
  · rw [if_pos there, lookup_appended]
    by_cases same : name = table
    · rw [if_pos same, if_pos same]
      obtain ⟨entry, member, key⟩ := List.any_eq_true.mp there
      cases found : sequences.lookup name with
      | some seqs => rfl
      | none =>
        have absent := List.lookup_eq_none_iff.mp found entry member
        rw [decide_eq_true_eq.mp key, same] at absent
        simp at absent
    · rw [if_neg same, if_neg same]
  · rw [if_neg there, List.lookup_append, lookup_entry]
    by_cases same : name = table
    · have absent : sequences.lookup name = none := by
        rw [List.lookup_eq_none_iff]
        intro entry member
        rw [bne_iff_ne]
        rintro rfl
        exact there (List.any_eq_true.mpr ⟨entry, member, decide_eq_true same⟩)
      rw [absent, if_pos same, if_pos same]
      rfl
    · simp [same]

/-- The sequences of a table are the plain ones some row pairs with it. -/
theorem mem_ownedSequences {tables : List String} {table seq : String} :
    seq ∈ (ownedSequences tables rows).of table ↔ (table, seq) ∈ rows ∧ table ∈ tables ∧ isIdentifier seq := by
  have all (rows : List (String × String)) (sequences : Sequences) :
      seq ∈ (rows.foldl (fun sequences row =>
        if row.1 ∈ tables && isIdentifier row.2 then sequences.add row.1 row.2 else sequences) sequences).of table ↔
      seq ∈ sequences.of table ∨ (table, seq) ∈ rows ∧ table ∈ tables ∧ isIdentifier seq := by
    induction rows generalizing sequences with
    | nil => simp
    | cons row rows ih =>
      rcases row with ⟨key, name⟩
      rw [List.foldl_cons, ih]
      have step : seq ∈ (if key ∈ tables && isIdentifier name then sequences.add key name else sequences).of table ↔
          seq ∈ sequences.of table ∨ (table, seq) = (key, name) ∧ table ∈ tables ∧ isIdentifier seq := by
        split
        · rename_i kept
          simp only [Bool.and_eq_true, decide_eq_true_eq] at kept
          rw [of_add]
          split
          · rename_i same
            subst same
            rw [List.mem_append, List.mem_singleton]
            refine or_congr_right ⟨?_, fun found => (Prod.ext_iff.mp found.1).2⟩
            rintro rfl
            exact ⟨rfl, kept⟩
          · rename_i other
            refine ⟨Or.inl, fun found => found.resolve_right fun here => other (Prod.ext_iff.mp here.1).1⟩
        · rename_i dropped
          refine ⟨Or.inl, fun found => found.resolve_right ?_⟩
          rintro ⟨here, kept⟩
          obtain ⟨rfl, rfl⟩ := Prod.ext_iff.mp here
          exact dropped (by simpa using kept)
      rw [step, List.mem_cons, or_and_right, or_assoc]
  have start := all rows []
  simpa [Sequences.of, ownedSequences] using start

theorem fromkeys_sublist {α : Type} [DecidableEq α] (xs : List α) : (fromkeys xs).Sublist xs := by
  induction xs with
  | nil => exact .slnil
  | cons x xs ih => exact (List.filter_sublist.trans ih).cons_cons x

theorem fromkeys_sorted (xs : List String) : fromkeys (xs.insertionSort (· ≤ ·)) = sortedSet xs := by
  have left : (fromkeys (xs.insertionSort (· ≤ ·))).Pairwise (· ≤ ·) :=
    (List.pairwise_insertionSort (· ≤ ·) xs).sublist (fromkeys_sublist _)
  have right : (sortedSet xs).Pairwise (· ≤ ·) := List.pairwise_insertionSort (· ≤ ·) _
  have nodup : (sortedSet xs).Nodup := (List.perm_insertionSort _ _).nodup_iff.mpr (fromkeys_nodup xs)
  have same : (fromkeys (xs.insertionSort (· ≤ ·))).Perm (sortedSet xs) := by
    rw [List.perm_ext_iff_of_nodup (fromkeys_nodup _) nodup]
    simp
  exact same.eq_of_pairwise (fun a b _ _ ab ba => le_antisymm ab ba) left right

theorem mem_ok {name : String} : name ∈ ok_ names ↔ name ∈ names ∧ isIdentifier name := by
  unfold ok_
  rw [List.mem_filter]

/-- Every request about tables of a catalog is well formed. -/
theorem buildable_of_catalog {scope : Scope} {tables commands : List String} (asked : commands ≠ [])
    (allowed : ∀ c ∈ commands, c ∈ allowedCommands db) (chosen : chosenTables scope tables (ok_ names) ≠ [])
    (existing : ∀ t ∈ chosenTables scope tables (ok_ names), t ∈ ok_ names) :
    Buildable db scope tables commands (ok_ names) (ownedSequences (ok_ names) rows) where
  asked := asked
  allowed := allowed
  chosen := chosen
  plain t member := (mem_ok.mp (existing t member)).2
  existing := existing
  owned s member := by
    unfold neededSequences at member
    split at member
    · obtain ⟨table, -, owned⟩ := List.mem_flatMap.mp member
      exact (mem_ownedSequences.mp owned).2.2
    · cases member

/-- Whatever names a database holds, a grant on all of it is the grant on the plain ones among its tables, a grant on
some of these tables is not blocked, and nothing else is granted. -/
theorem catalog_grants {commands : List String} (built : (catalog db).Runs trace (.ok found))
    (returned : Returned db trace names rows) (asked : commands ≠ [])
    (allowed : ∀ c ∈ commands, c ∈ allowedCommands db) :
    (∀ tables exn, buildStatements db .database tables commands found.tables found.sequences = .error exn →
      ∀ name ∈ names, ¬isIdentifier name) ∧
    ((∃ name ∈ names, isIdentifier name) → ∀ tables,
      buildStatements db .database tables commands found.tables found.sequences =
        buildStatements db .tables (found.tables.insertionSort (· ≤ ·)) commands found.tables found.sequences) ∧
    (∀ tables, tables ≠ [] → (∀ t ∈ tables, t ∈ found.tables) → ∃ creation revocation,
      buildStatements db .tables tables commands found.tables found.sequences = .ok (creation, revocation)) ∧
    ∀ scope tables creation revocation,
      buildStatements db scope tables commands found.tables found.sequences = .ok (creation, revocation) →
      ∃ meanings, (vaultQueries creation).map (readQuery db) = meanings.map some ∧
        ∀ grantee p, Conferred meanings grantee p → match p.on with
          | .database name => name = POSTGRES_DB
          | .schema name => name = "public"
          | .table _ name => name ∈ names ∧ isIdentifier name
          | .sequence _ name => ∃ table command, (table, name) ∈ rows ∧
              Conferred meanings grantee ⟨command, .table (schemaOf db) table⟩ := by
  obtain rfl := catalog_returned built returned
  have database (tables : List String) (some : ∃ name ∈ names, isIdentifier name) :
      Buildable db .database tables commands (ok_ names) (ownedSequences (ok_ names) rows) := by
    obtain ⟨name, member, plain⟩ := some
    refine buildable_of_catalog asked allowed ?_ fun t => mem_sortedSet.mp
    exact List.ne_nil_of_mem (mem_sortedSet.mpr (mem_ok.mpr ⟨member, plain⟩))
  have listed (tables : List String) (some : tables ≠ []) (known : ∀ t ∈ tables, t ∈ ok_ names) :
      Buildable db .tables tables commands (ok_ names) (ownedSequences (ok_ names) rows) := by
    obtain ⟨t, member⟩ := List.exists_mem_of_ne_nil _ some
    refine buildable_of_catalog asked allowed ?_ fun e there => known e (mem_fromkeys.mp there)
    exact List.ne_nil_of_mem (mem_fromkeys.mpr member)
  refine ⟨fun tables exn failed name member plain => ?_, fun some tables => ?_, fun tables some known => ?_, ?_⟩
  · rw [(buildStatements_validates ..).1 (database tables ⟨name, member, plain⟩)] at failed
    cases failed
  · obtain ⟨name, member, plain⟩ := some
    have sorted := listed ((ok_ names).insertionSort (· ≤ ·))
      (List.ne_nil_of_mem (List.mem_insertionSort _ |>.mpr (mem_ok.mpr ⟨member, plain⟩)))
      fun t => (List.mem_insertionSort _).mp
    rw [(buildStatements_validates ..).1 (database tables ⟨name, member, plain⟩),
      (buildStatements_validates ..).1 sorted]
    unfold chosenTables
    rw [fromkeys_sorted]
  · exact ⟨_, _, (buildStatements_validates ..).1 (listed tables some known)⟩
  · intro scope tables creation revocation produced
    obtain ⟨values, refused⟩ := buildStatements_validates db scope tables commands (ok_ names)
      (ownedSequences (ok_ names) rows)
    by_cases buildable : Buildable db scope tables commands (ok_ names) (ownedSequences (ok_ names) rows)
    · rw [values buildable] at produced
      cases produced
      refine ⟨_, vaultQueries_means (creation_means buildable), fun grantee p conferred => ?_⟩
      obtain ⟨rfl, requested⟩ := meanings_conferred.mp conferred
      rcases p with ⟨command, on⟩
      cases on with
      | database name => exact requested.2.1
      | schema name => exact requested.2.1
      | table schema name => exact mem_ok.mp (buildable.existing name requested.2.1)
      | sequence schema name =>
        obtain ⟨rfl, -, inserts, ⟨table, picked, owned⟩, -⟩ := requested
        exact ⟨table, "INSERT", (mem_ownedSequences.mp owned).1, meanings_conferred.mpr ⟨rfl, rfl, picked, inserts⟩⟩
    · obtain ⟨text, failed⟩ := refused buildable
      rw [failed] at produced
      cases produced

end catalogs

/-- A database with a table and a sequence nobody can be granted. -/
def oddNames : List String := ["users", "a b", "orders", "orders"]

def oddRows : List (String × String) := [("orders", "orders_id_seq"), ("a b", "s"), ("orders", "x\"y"), ("users", "u_seq")]

def oddTrace : Trace :=
  [⟨.client, .ok ()⟩, ⟨.introspectCredentials .postgres, .ok ("vdba_introspect", ⟨"p"⟩)⟩,
    ⟨.connect .postgres "vdba_introspect" ⟨"p"⟩, .ok ()⟩, ⟨.pgTables, .ok oddNames⟩, ⟨.pgSequences, .ok oddRows⟩]

def oddCatalog : Catalog :=
  ⟨["users", "orders", "orders"], [("orders", ["orders_id_seq"]), ("users", ["u_seq"])]⟩

theorem oddCatalog_built : (catalog .postgres).Runs oddTrace (.ok oddCatalog) := by
  unfold Runs oddTrace
  repeat' first | exact .here | refine .call ?_

theorem oddCatalog_grants :
    buildStatements .postgres .database [] ["INSERT"] oddCatalog.tables oddCatalog.sequences =
      buildStatements .postgres .tables ["orders", "orders", "users"] ["INSERT"] oddCatalog.tables
        oddCatalog.sequences :=
  (catalog_grants oddCatalog_built (show Returned .postgres oddTrace oddNames oddRows from ⟨oddTrace.take 3, rfl⟩) (by decide)
    (by decide)).2.1 ⟨"users", by decide, by decide⟩ []

end Vdba
