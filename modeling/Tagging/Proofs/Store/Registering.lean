import Tagging.Proofs.Store.History
import Tagging.Proofs.Store.Refusal

/-!
# Queries are registered once

When just a store takes the records of some queries, what it holds afterwards, and that no id is
ever registered twice.

* `Store.TakesQueries`, `Store.insertQueries_eq_ok_iff` — when a store takes records, and that it
  accepts them **exactly then**.  A database looks at each record after those before it; tables in
  memory look at what was registered before the call only, so that a list may repeat an id there;
* `Store.Registers` — what a store holds that has taken records: of those with one id the last;
* `Store.nodup_queries_perform`, `Store.nodup_queries_performAll` — **one call**, and a history of
  calls, leave each id with one record;
* `queries_registered_once` — all of this for every store that a history leaves;
* `repeated_id_unnoticed` — a list that repeats an id, on both backends.
-/

namespace Tagging

/-! ## Records of queries -/

/-- The record of a query. -/
def recordOf (records : List QueryRecord) (id : QueryId) : Option QueryRecord :=
  records.find? (fun r => r.id = id)

/-- The last record of a query among several. -/
def lastRecord (records : List QueryRecord) (id : QueryId) : Option QueryRecord :=
  (records.filter (fun r => r.id = id)).getLast?

theorem any_id_eq_false_iff {records : List QueryRecord} {id : QueryId} :
    records.any (fun r => decide (r.id = id)) = false ↔ id ∉ records.map QueryRecord.id := by
  simp [List.any_eq_false, List.mem_map]

/-- Where each id has one record, the last record of an id is the one that is found. -/
theorem recordOf_append {records later : List QueryRecord}
    (fresh : ∀ r ∈ later, r.id ∉ records.map QueryRecord.id)
    (distinct : (later.map QueryRecord.id).Nodup) (id : QueryId) :
    recordOf (records ++ later) id = (lastRecord later id).or (recordOf records id) := by
  have hput := foldl_putBy_eq_append fresh distinct
  rw [recordOf, ← hput]
  exact find?_foldl_putBy QueryRecord.id later records id

namespace Store

/-! ## When a store takes records -/

/-- The store can take the records of queries. -/
structure TakesQueries (s : Store) (records : List QueryRecord) : Prop where
  /-- The totals are not computed yet. -/
  isOpen : s.totals = none
  /-- No id is registered. -/
  fresh : ∀ r ∈ records, r.id ∉ s.queries.map QueryRecord.id
  /-- The key of a database occurs once; tables in memory do not look for repeated ids. -/
  distinct : s.backend = .sqlite → (records.map QueryRecord.id).Nodup

/-- **A store accepts the records that it can take, and no others.** -/
theorem insertQueries_eq_ok_iff {s : Store} {records : List QueryRecord} :
    (s.insertQueries records).2 = .ok () ↔ s.TakesQueries records := by
  cases s with
  | memory m =>
    refine Memory.insertQueries_eq_ok_iff.trans ⟨?_, ?_⟩
    · rintro ⟨hopen, hnew⟩
      exact ⟨hopen, fun r hr => any_id_eq_false_iff.1 (hnew r hr), nofun⟩
    · rintro ⟨hopen, hnew, -⟩
      exact ⟨hopen, fun r hr => any_id_eq_false_iff.2 (hnew r hr)⟩
  | relational r =>
    refine Relational.insertQueries_eq_ok_iff.trans ⟨?_, ?_⟩
    · rintro ⟨hopen, hnew, hdistinct⟩
      exact ⟨totals_relational_eq_none_iff.2 hopen, fun q hq => any_id_eq_false_iff.1 (hnew q hq),
        fun _ => hdistinct⟩
    · rintro ⟨hopen, hnew, hdistinct⟩
      exact ⟨totals_relational_eq_none_iff.1 hopen, fun q hq => any_id_eq_false_iff.2 (hnew q hq),
        hdistinct rfl⟩

/-! ## What is held afterwards -/

/-- The store `s'` holds what `s` holds, with the records of queries on top of it. -/
structure Registers (s s' : Store) (records : List QueryRecord) : Prop where
  /-- The backend is the same. -/
  backend : s'.backend = s.backend
  /-- So are the scores. -/
  scores : s'.scores = s.scores
  /-- So are the display entries. -/
  displays : s'.displays = s.displays
  /-- The totals are still not computed. -/
  totals : s'.totals = none
  /-- A query has its last record of the list, or the one that it had if it has none there. -/
  known : ∀ id, recordOf s'.queries id = (lastRecord records id).or (recordOf s.queries id)
  /-- If no id repeats, these are the records that were there and exactly those of the list. -/
  exactly : (records.map QueryRecord.id).Nodup → s'.queries = s.queries ++ records

/-- **Records are accepted with what they bring, or change nothing.** -/
theorem insertQueries_cases (s : Store) (records : List QueryRecord) :
    (∃ e, s.insertQueries records = (s, .error e)) ∨
      (s.insertQueries records).2 = .ok () ∧
        s.Registers (s.insertQueries records).1 records := by
  cases s with
  | memory m =>
    rcases m.insertQueries_cases records with ⟨e, h⟩ | ⟨hopen, hnew, h⟩
    · exact Or.inl ⟨e, by rw [insertQueries, h]; rfl⟩
    · rw [insertQueries, h]
      exact Or.inr ⟨rfl, rfl, rfl, rfl, hopen, find?_foldl_putBy QueryRecord.id records m.queries,
        foldl_putBy_eq_append fun r hr => any_id_eq_false_iff.1 (hnew r hr)⟩
  | relational r =>
    rcases r.insertQueries_cases records with ⟨e, h⟩ | ⟨hopen, hnew, hdistinct, h⟩
    · exact Or.inl ⟨e, by rw [insertQueries, h]; rfl⟩
    · rw [insertQueries, h]
      exact Or.inr ⟨rfl, rfl, rfl, rfl, totals_relational_eq_none_iff.2 hopen,
        recordOf_append (fun q hq => any_id_eq_false_iff.1 (hnew q hq)) hdistinct, fun _ => rfl⟩

/-- **Records are refused** once the totals are computed, and otherwise for an id in use. -/
theorem kind_of_insertQueries {s : Store} {records : List QueryRecord} {e : StoreError}
    (h : (s.insertQueries records).2 = .error e) :
    e.kind = if s.totals.isSome then .invalidArgument else .conflict := by
  cases s with
  | memory m =>
    have herror : (m.insertQueries records).2 = .error e := h
    have hkind := m.kindOf_insertQueries records
    rw [herror, kindOf] at hkind
    show e.kind = if m.totals.isSome then .invalidArgument else .conflict
    split_ifs at hkind ⊢ <;> exact Option.some.inj hkind
  | relational r =>
    have herror : (r.insertQueries records).2 = .error e := h
    have hkind := r.kindOf_transaction (fun t => runAll Tables.addQuery t records)
    rw [← Relational.insertQueries, herror, kindOf] at hkind
    cases ha : r.aggregated with
    | true =>
      rw [ha, if_pos rfl] at hkind
      simpa [totals, ha] using hkind
    | false =>
      rw [ha, if_neg Bool.false_ne_true] at hkind
      cases hrun : runAll Tables.addQuery r.tables records with
      | ok t =>
        rw [hrun] at hkind
        cases hkind
      | error e' =>
        rw [hrun, kindOf, kind_of_runAll_addQuery hrun] at hkind
        simpa [totals, ha] using hkind

/-! ## Each id has one record -/

/-- No other call registers a query. -/
theorem queries_perform {s : Store} (hasc : Ascending keyLt s.scores) {c : StoreCall}
    (hc : ∀ records, c ≠ .insertQueries records) : (s.perform c).1.queries = s.queries := by
  cases s with
  | memory m =>
    cases c with
    | insertQueries records => exact absurd rfl (hc records)
    | insertScore row =>
      rcases m.insertScore_cases row with ⟨e, h⟩ | ⟨-, -, h⟩ <;>
        exact congrArg (fun x => x.1.queries) h
    | upsertDisplay entry =>
      rcases m.upsertDisplay_cases entry with ⟨e, h⟩ | ⟨-, h⟩ <;>
        exact congrArg (fun x => x.1.queries) h
    | applyBatch batch =>
      rcases Memory.applyBatch_cases hasc batch with ⟨e, h⟩ | ⟨-, -, h⟩ <;>
        exact congrArg (fun x => x.1.queries) h
    | aggregate | rows => rfl
  | relational r =>
    cases c with
    | insertQueries records => exact absurd rfl (hc records)
    | insertScore row =>
      rcases r.insertScore_cases row with ⟨e, h⟩ | ⟨-, -, -, h⟩ <;>
        exact congrArg (fun x => x.1.tables.queries) h
    | upsertDisplay entry =>
      rcases r.upsertDisplay_cases entry with ⟨e, h⟩ | ⟨-, -, h⟩ <;>
        exact congrArg (fun x => x.1.tables.queries) h
    | applyBatch batch =>
      rcases Relational.applyBatch_cases hasc batch with ⟨e, h⟩ | ⟨-, -, -, -, h⟩ <;>
        exact congrArg (fun x => x.1.tables.queries) h
    | aggregate | rows => rfl

/-- Records that are accepted leave each id with one record. -/
theorem nodup_queries_insertQueries {s : Store} (h : (s.queries.map QueryRecord.id).Nodup)
    (records : List QueryRecord) :
    ((s.insertQueries records).1.queries.map QueryRecord.id).Nodup := by
  cases s with
  | memory m =>
    rcases m.insertQueries_cases records with ⟨e, heq⟩ | ⟨-, -, heq⟩
    · rw [insertQueries, heq]
      exact h
    · rw [insertQueries, heq]
      exact nodup_foldl_putBy QueryRecord.id records h
  | relational r =>
    rcases r.insertQueries_cases records with ⟨e, heq⟩ | ⟨-, hnew, hdistinct, heq⟩
    · rw [insertQueries, heq]
      exact h
    · -- as the ids are new and differ, it does not matter whether the records are put or appended
      have hold : (r.tables.queries.map QueryRecord.id).Nodup := h
      have hput := nodup_foldl_putBy QueryRecord.id records hold
      rw [foldl_putBy_eq_append (fun q hq => any_id_eq_false_iff.1 (hnew q hq)) hdistinct] at hput
      rw [insertQueries, heq]
      exact hput

/-- **One call** leaves each id with one record. -/
theorem nodup_queries_perform {s : Store} (hasc : Ascending keyLt s.scores)
    (h : (s.queries.map QueryRecord.id).Nodup) (c : StoreCall) :
    ((s.perform c).1.queries.map QueryRecord.id).Nodup := by
  by_cases hc : ∃ records, c = .insertQueries records
  · obtain ⟨records, rfl⟩ := hc
    exact nodup_queries_insertQueries h records
  · rw [queries_perform hasc fun records heq => hc ⟨records, heq⟩]
    exact h

/-- **A history** leaves each id with one record. -/
theorem nodup_queries_performAll (calls : List StoreCall) {s : Store}
    (hasc : Ascending keyLt s.scores) (h : (s.queries.map QueryRecord.id).Nodup) :
    ((s.performAll calls).1.queries.map QueryRecord.id).Nodup := by
  induction calls generalizing s with
  | nil => exact h
  | cons c rest ih =>
    exact ih ((wrote_perform hasc c).ascending hasc) (nodup_queries_perform hasc h c)

end Store

/-- **Queries are registered once.**  In every store of either backend that a history leaves, each
id has one record.  The store accepts a list of records exactly if its totals are not computed, none
of the ids is registered, and, in a database, none occurs twice in the list.  If the list is
accepted, each of its queries has its last record there and all else is what it was; so if no id
repeats, the records are those that were there and exactly those of the list.  If it is refused,
which is for a clash unless the totals are computed, the store is what it was. -/
theorem queries_registered_once (backend : Backend) (calls : List StoreCall)
    (records : List QueryRecord) :
    let s := ((Store.empty backend).performAll calls).1
    (s.queries.map QueryRecord.id).Nodup ∧
    ((s.insertQueries records).2 = .ok () ↔ s.totals = none ∧
      (∀ r ∈ records, r.id ∉ s.queries.map QueryRecord.id) ∧
        (backend = .sqlite → (records.map QueryRecord.id).Nodup)) ∧
    ((s.insertQueries records).2 = .ok () → s.Registers (s.insertQueries records).1 records) ∧
    ∀ e, (s.insertQueries records).2 = .error e → (s.insertQueries records).1 = s ∧
      e.kind = if s.totals.isSome then .invalidArgument else .conflict := by
  intro s
  have hempty := Store.ascending_empty backend
  have hbackend : s.backend = backend := by
    rw [Store.backend_performAll calls hempty]
    cases backend <;> rfl
  refine ⟨?_, ?_, fun hok => ?_, fun e hrefused => ⟨?_, Store.kind_of_insertQueries hrefused⟩⟩
  · exact Store.nodup_queries_performAll calls hempty (by cases backend <;> exact List.nodup_nil)
  · rw [Store.insertQueries_eq_ok_iff]
    constructor
    · rintro ⟨hopen, hnew, hdistinct⟩
      exact ⟨hopen, hnew, fun hsqlite => hdistinct (hbackend.trans hsqlite)⟩
    · rintro ⟨hopen, hnew, hdistinct⟩
      exact ⟨hopen, hnew, fun hsqlite => hdistinct (hbackend.symm.trans hsqlite)⟩
  · rcases s.insertQueries_cases records with ⟨e, heq⟩ | ⟨-, hregisters⟩
    · rw [heq] at hok
      cases hok
    · exact hregisters
  · rcases s.insertQueries_cases records with ⟨e', heq⟩ | ⟨hok, -⟩
    · rw [heq]
    · rw [hok] at hrefused
      cases hrefused

/-- A database with one query.  It takes two new ones, and none of a list with an id that it has
behind one that it has not. -/
theorem queries_registered_once_two_lists :
    let first := ((Store.empty .sqlite).performAll [.insertQueries [⟨1, "one", 10, 0⟩]]).1
    let good : List QueryRecord := [⟨2, "two", -1, -1⟩, ⟨3, "three", 5, 1⟩]
    let bad : List QueryRecord := [⟨4, "four", -1, -1⟩, ⟨1, "again", -1, -1⟩]
    (first.insertQueries good).1.queries = first.queries ++ good ∧
      (first.insertQueries bad).1 = first ∧
        ∃ e, (first.insertQueries bad).2 = .error e ∧ e.kind = .conflict := by
  intro first good bad
  have hgood := (queries_registered_once .sqlite [.insertQueries [⟨1, "one", 10, 0⟩]] good).2.2.1
  have hbad := (queries_registered_once .sqlite [.insertQueries [⟨1, "one", 10, 0⟩]] bad).2.2.2
  obtain ⟨hsame, hkind⟩ := hbad (.uniqueViolated "named_queries.query_id") rfl
  exact ⟨(hgood rfl).exactly (by decide), hsame, _, rfl, hkind⟩

/-- **A list that repeats an id** is refused by a database.  Tables in memory accept it and keep the
last of its records, so that the one before it is lost. -/
theorem repeated_id_unnoticed :
    let records : List QueryRecord := [⟨1, "first", -1, -1⟩, ⟨1, "second", -1, -1⟩]
    ¬ (records.map QueryRecord.id).Nodup ∧
      ((Store.empty .memory).insertQueries records).2 = .ok () ∧
      ((Store.empty .memory).insertQueries records).1.queries = [⟨1, "second", -1, -1⟩] ∧
      ((Store.empty .sqlite).insertQueries records).2 =
        .error (.uniqueViolated "named_queries.query_id") :=
  ⟨by decide, rfl, rfl, rfl⟩

end Tagging
