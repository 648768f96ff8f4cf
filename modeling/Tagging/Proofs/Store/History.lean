import Tagging.Proofs.Store.Acceptance
import Tagging.Proofs.Store.Rows

/-!
# Histories of a store

What a store holds after any number of calls, accepted or rejected, and what is read from it then.

* `StoreCall`, `StoreReply`, `Store.perform`, `Store.performAll` — calls, what they answer, and
  whole histories of them;
* `writtenScores`, `writtenDisplays` — what an accepted call writes; a rejected one writes nothing;
* `acceptance` — the exchanges in which batches are accepted;
* `Store.Wrote`, `Store.wrote_perform` — **one call**: whatever is asked, the store afterwards holds
  what it held and what the call wrote;
* `Store.ascending_performAll`, `Store.mem_scores_performAll`, `Store.displayOf_performAll` — **a
  history**: the scores are those of all accepted calls, and of the display entries of a file the
  last accepted one counts;
* `memory_rows_after_history` — the rows of the tables in memory after any history.
-/

namespace Tagging

/-! ## Calls and histories -/

/-- What can be asked of a store. -/
inductive StoreCall where
  /-- To register queries. -/
  | insertQueries (records : List QueryRecord)
  /-- To write one score. -/
  | insertScore (row : ScoreRow)
  /-- To write one display entry. -/
  | upsertDisplay (entry : DisplayEntry)
  /-- To write all that one query found. -/
  | applyBatch (batch : ScoreBatch)
  /-- To compute the totals. -/
  | aggregate
  /-- To give the rows. -/
  | rows

/-- What a store answers. -/
inductive StoreReply where
  /-- Whether something is written. -/
  | written (result : Except StoreError Unit)
  /-- How many files have a total. -/
  | counted (result : Except StoreError Nat)
  /-- The rows. -/
  | listed (result : Except StoreError (List SortedRow))

/-- A call and what is answered to it. -/
abbrev Exchange := StoreCall × StoreReply

namespace Store

/-- The store after a call, and what it answers. -/
def perform (s : Store) : StoreCall → Store × StoreReply
  | .insertQueries records => (s.insertQueries records).map id .written
  | .insertScore row => (s.insertScore row).map id .written
  | .upsertDisplay entry => (s.upsertDisplay entry).map id .written
  | .applyBatch batch => (s.applyBatch batch).map id .written
  | .aggregate => s.aggregate.map id .counted
  | .rows => (s, .listed s.rows)

/-- The store after several calls, and what was said. -/
def performAll (s : Store) : List StoreCall → Store × List Exchange
  | [] => (s, [])
  | c :: rest =>
    let (s', log) := (s.perform c).1.performAll rest
    (s', (c, (s.perform c).2) :: log)

theorem performAll_append (s : Store) (calls later : List StoreCall) :
    s.performAll (calls ++ later) =
      (((s.performAll calls).1.performAll later).1,
        (s.performAll calls).2 ++ ((s.performAll calls).1.performAll later).2) := by
  induction calls generalizing s with
  | nil => rfl
  | cons c rest ih => rw [List.cons_append, performAll, ih]; rfl

/-! ## What a store holds -/

/-- The scores of a store. -/
def scores : Store → ScoreTable
  | memory m => m.scores
  | relational r => r.tables.scores

/-- The display entries of a store. -/
def displays : Store → List DisplayEntry
  | memory m => m.displays
  | relational r => r.tables.displays

/-- The registered queries of a store. -/
def queries : Store → List QueryRecord
  | memory m => m.queries
  | relational r => r.tables.queries

/-- The total of each file, once they are computed. -/
def totals : Store → Option (List (String × Double))
  | memory m => m.totals
  | relational r => if r.aggregated then some r.tables.totals else none

/-- Is the query registered? -/
def hasQuery : Store → QueryId → Bool
  | memory m => m.hasQuery
  | relational r => r.tables.hasQuery

theorem totals_relational_eq_none_iff {r : Relational} :
    (relational r).totals = none ↔ r.aggregated = false := by
  cases h : r.aggregated <;> simp [totals, h]

end Store

/-- The scores that a call writes, given what is answered to it. -/
def writtenScores : Exchange → List ScoreRow
  | (.insertScore row, .written (.ok ())) => [row]
  | (.applyBatch batch, .written (.ok ())) => batch.scores
  | _ => []

/-- The display entries that a call writes, given what is answered to it. -/
def writtenDisplays : Exchange → List DisplayEntry
  | (.upsertDisplay entry, .written (.ok ())) => [entry]
  | (.applyBatch batch, .written (.ok ())) => batch.displays
  | _ => []

/-- The exchanges in which a store accepts batches, one after the other. -/
def acceptance (batches : List ScoreBatch) : List Exchange :=
  batches.map (fun batch => (.applyBatch batch, .written (.ok ())))

/-- Accepted batches write their scores. -/
theorem flatMap_writtenScores_acceptance (batches : List ScoreBatch) :
    (acceptance batches).flatMap writtenScores = batches.flatMap ScoreBatch.scores := by
  rw [acceptance, List.flatMap_map]
  rfl

/-- Accepted batches write their display entries. -/
theorem flatMap_writtenDisplays_acceptance (batches : List ScoreBatch) :
    (acceptance batches).flatMap writtenDisplays = batches.flatMap ScoreBatch.displays := by
  rw [acceptance, List.flatMap_map]
  rfl

/-! ## One call -/

namespace Store

/-- The store `s'` holds what `s` holds, and the given scores and display entries on top of it. -/
structure Wrote (s s' : Store) (rows : List ScoreRow) (entries : List DisplayEntry) : Prop where
  /-- The backend is the same. -/
  backend : s'.backend = s.backend
  /-- The scores go together with those that were there. -/
  admissible : Admissible s.hasQuery (hasScore s.scores) rows
  /-- They are added to them. -/
  scores : s'.scores = insertScores s.scores (rows.map ScoreRow.entry)
  /-- The display entries replace earlier ones, one after the other. -/
  displays : s'.displays = entries.foldl putDisplay s.displays
  /-- Registered queries stay registered. -/
  queries : ∀ id, s.hasQuery id = true → s'.hasQuery id = true

theorem Wrote.refl (s : Store) : Wrote s s [] [] :=
  ⟨rfl, admissible_nil _ _, rfl, rfl, fun _ h => h⟩

theorem wrote_insertQueries (s : Store) (records : List QueryRecord) :
    Wrote s (s.insertQueries records).1 [] [] := by
  cases s with
  | memory m =>
    rcases m.insertQueries_cases records with ⟨e, h⟩ | ⟨-, -, h⟩
    · rw [insertQueries, h]
      exact Wrote.refl _
    · rw [insertQueries, h]
      refine ⟨rfl, admissible_nil _ _, rfl, rfl, ?_⟩
      intro id hid
      exact (Memory.hasQuery_insertQueries records m.queries id).trans
        (Bool.or_eq_true_iff.2 (Or.inl hid))
  | relational r =>
    rcases r.insertQueries_cases records with ⟨e, h⟩ | ⟨-, -, -, h⟩
    · rw [insertQueries, h]
      exact Wrote.refl _
    · rw [insertQueries, h]
      refine ⟨rfl, admissible_nil _ _, rfl, rfl, ?_⟩
      intro id hid
      exact List.any_append.trans (Bool.or_eq_true_iff.2 (Or.inl hid))

theorem wrote_insertScore (s : Store) (row : ScoreRow) :
    (∃ e, s.insertScore row = (s, .error e)) ∨
      (s.insertScore row).2 = .ok () ∧ Wrote s (s.insertScore row).1 [row] [] := by
  cases s with
  | memory m =>
    rcases m.insertScore_cases row with ⟨e, h⟩ | ⟨-, hadm, h⟩
    · exact Or.inl ⟨e, by rw [insertScore, h]; rfl⟩
    · rw [insertScore, h]
      exact Or.inr ⟨rfl, rfl, hadm, rfl, rfl, fun _ hid => hid⟩
  | relational r =>
    rcases r.insertScore_cases row with ⟨e, h⟩ | ⟨-, -, hadm, h⟩
    · exact Or.inl ⟨e, by rw [insertScore, h]; rfl⟩
    · rw [insertScore, h]
      exact Or.inr ⟨rfl, rfl, hadm, rfl, rfl, fun _ hid => hid⟩

theorem wrote_upsertDisplay (s : Store) (entry : DisplayEntry) :
    (∃ e, s.upsertDisplay entry = (s, .error e)) ∨
      (s.upsertDisplay entry).2 = .ok () ∧ Wrote s (s.upsertDisplay entry).1 [] [entry] := by
  cases s with
  | memory m =>
    rcases m.upsertDisplay_cases entry with ⟨e, h⟩ | ⟨-, h⟩
    · exact Or.inl ⟨e, by rw [upsertDisplay, h]; rfl⟩
    · rw [upsertDisplay, h]
      exact Or.inr ⟨rfl, rfl, admissible_nil _ _, rfl, rfl, fun _ hid => hid⟩
  | relational r =>
    rcases r.upsertDisplay_cases entry with ⟨e, h⟩ | ⟨-, -, h⟩
    · exact Or.inl ⟨e, by rw [upsertDisplay, h]; rfl⟩
    · rw [upsertDisplay, h]
      exact Or.inr ⟨rfl, rfl, admissible_nil _ _, rfl, rfl, fun _ hid => hid⟩

/-- **A batch is written as a whole or not at all**, on either backend. -/
theorem wrote_applyBatch {s : Store} (hasc : Ascending keyLt s.scores) (batch : ScoreBatch) :
    (∃ e, s.applyBatch batch = (s, .error e)) ∨
      (s.applyBatch batch).2 = .ok () ∧
        Wrote s (s.applyBatch batch).1 batch.scores batch.displays := by
  cases s with
  | memory m =>
    rcases Memory.applyBatch_cases hasc batch with ⟨e, h⟩ | ⟨-, hadm, h⟩
    · exact Or.inl ⟨e, by rw [applyBatch, h]; rfl⟩
    · rw [applyBatch, h]
      exact Or.inr ⟨rfl, rfl, hadm, rfl, rfl, fun _ hid => hid⟩
  | relational r =>
    rcases Relational.applyBatch_cases hasc batch with ⟨e, h⟩ | ⟨-, -, -, hadm, h⟩
    · exact Or.inl ⟨e, by rw [applyBatch, h]; rfl⟩
    · rw [applyBatch, h]
      exact Or.inr ⟨rfl, rfl, hadm, rfl, rfl, fun _ hid => hid⟩

theorem wrote_aggregate (s : Store) : Wrote s s.aggregate.1 [] [] := by
  cases s <;> exact ⟨rfl, admissible_nil _ _, rfl, rfl, fun _ h => h⟩

/-- A refused call writes nothing. -/
theorem written_refused (c : StoreCall) (e : StoreError) :
    writtenScores (c, .written (.error e)) = [] ∧
      writtenDisplays (c, .written (.error e)) = [] := by
  cases c <;> exact ⟨rfl, rfl⟩

/-- A write that is refused without a change, or leaves what it says, did what is counted for it. -/
theorem wrote_of_reply {s : Store} {c : StoreCall} {x : Store × Except StoreError Unit}
    (h : (∃ e, x = (s, .error e)) ∨ x.2 = .ok () ∧
      Wrote s x.1 (writtenScores (c, .written (.ok ()))) (writtenDisplays (c, .written (.ok ())))) :
    Wrote s x.1 (writtenScores (c, .written x.2)) (writtenDisplays (c, .written x.2)) := by
  rcases h with ⟨e, rfl⟩ | ⟨hok, hw⟩
  · rw [(written_refused c e).1, (written_refused c e).2]
    exact Wrote.refl s
  · rw [hok]
    exact hw

/-- **One call writes what it says**, and a rejected one nothing. -/
theorem wrote_perform {s : Store} (hasc : Ascending keyLt s.scores) (c : StoreCall) :
    Wrote s (s.perform c).1 (writtenScores (c, (s.perform c).2))
      (writtenDisplays (c, (s.perform c).2)) := by
  cases c with
  | insertQueries records => exact s.wrote_insertQueries records
  | insertScore row => exact wrote_of_reply (s.wrote_insertScore row)
  | upsertDisplay entry => exact wrote_of_reply (s.wrote_upsertDisplay entry)
  | applyBatch batch => exact wrote_of_reply (wrote_applyBatch hasc batch)
  | aggregate => exact s.wrote_aggregate
  | rows => exact Wrote.refl s

theorem Wrote.ascending {s s' : Store} {rows : List ScoreRow} {entries : List DisplayEntry}
    (h : Wrote s s' rows entries) (hasc : Ascending keyLt s.scores) :
    Ascending keyLt s'.scores := by
  rw [h.scores]
  exact ascending_insertScores _ hasc

theorem Wrote.mem_scores {s s' : Store} {rows : List ScoreRow} {entries : List DisplayEntry}
    (h : Wrote s s' rows entries) (hasc : Ascending keyLt s.scores) {p : ScoreKey × Double} :
    p ∈ s'.scores ↔ p ∈ s.scores ∨ p ∈ rows.map ScoreRow.entry := by
  rw [h.scores]
  exact h.admissible.mem_insertScores hasc

/-! ## A history -/

/-- Keys stay in order over every history. -/
theorem ascending_performAll (calls : List StoreCall) {s : Store}
    (hasc : Ascending keyLt s.scores) :
    Ascending keyLt (s.performAll calls).1.scores := by
  induction calls generalizing s with
  | nil => exact hasc
  | cons c rest ih => exact ih ((wrote_perform hasc c).ascending hasc)

theorem backend_performAll (calls : List StoreCall) {s : Store} (hasc : Ascending keyLt s.scores) :
    (s.performAll calls).1.backend = s.backend := by
  induction calls generalizing s with
  | nil => rfl
  | cons c rest ih =>
    have hw := wrote_perform hasc c
    exact (ih (hw.ascending hasc)).trans hw.backend

/-- **The scores are those of all accepted calls.** -/
theorem mem_scores_performAll (calls : List StoreCall) {s : Store}
    (hasc : Ascending keyLt s.scores) {p : ScoreKey × Double} :
    p ∈ (s.performAll calls).1.scores ↔ p ∈ s.scores ∨
      p ∈ ((s.performAll calls).2.flatMap writtenScores).map ScoreRow.entry := by
  induction calls generalizing s with
  | nil => simp [performAll]
  | cons c rest ih =>
    have hw := wrote_perform hasc c
    show p ∈ ((s.perform c).1.performAll rest).1.scores ↔ p ∈ s.scores ∨
      p ∈ (((c, (s.perform c).2) :: ((s.perform c).1.performAll rest).2).flatMap
        writtenScores).map ScoreRow.entry
    rw [ih (hw.ascending hasc), hw.mem_scores hasc, List.flatMap_cons, List.map_append,
      List.mem_append, or_assoc]

/-- **Of the display entries of a file the last accepted one counts.** -/
theorem displayOf_performAll (calls : List StoreCall) {s : Store}
    (hasc : Ascending keyLt s.scores) (f : String) :
    displayOf (s.performAll calls).1.displays f =
      (lastDisplay ((s.performAll calls).2.flatMap writtenDisplays) f).or
        (displayOf s.displays f) := by
  induction calls generalizing s with
  | nil => rfl
  | cons c rest ih =>
    have hw := wrote_perform hasc c
    show displayOf ((s.perform c).1.performAll rest).1.displays f =
      (lastDisplay (((c, (s.perform c).2) :: ((s.perform c).1.performAll rest).2).flatMap
        writtenDisplays) f).or (displayOf s.displays f)
    rw [ih (hw.ascending hasc), hw.displays, displayOf_foldl_putDisplay, List.flatMap_cons,
      lastDisplay_append, Option.or_assoc]

theorem ascending_empty (backend : Backend) : Ascending keyLt (Store.empty backend).scores := by
  cases backend <;> exact Ascending.nil

/-! ## Adding up -/

/-- The rows that are read once the totals are computed are those of the table, with the weights
summed as the backend sums. -/
theorem rows_aggregate {s : Store} (hasc : Ascending keyLt s.scores) :
    s.aggregate.1.rows = .ok (sortRows (tableRows s.backend.sum s.displays s.scores)) ∧
      s.aggregate.2 = .ok (totalsBy s.backend.sum s.scores).length := by
  cases s with
  | memory m =>
    have ht : Memory.runTotals [] m.scores = totalsBy sumFromLeft m.scores := runTotals_eq hasc
    constructor
    · show Memory.rows { m with totals := some (Memory.runTotals [] m.scores) } = _
      rw [ht]
      rfl
    · show Except.ok (Memory.runTotals [] m.scores).length = _
      rw [ht]
      rfl
  | relational r => exact ⟨rfl, rfl⟩

/-- **Adding up tells how many rows there are**, and the rows are the table of the scores. -/
theorem tabulates_aggregate {s : Store} (hasc : Ascending keyLt s.scores) :
    ∃ rows, s.aggregate.2 = .ok rows.length ∧ s.aggregate.1.rows = .ok rows ∧
      Tabulates s.backend.sum (fun key w => (key, w) ∈ s.scores) rows ∧
        ∀ r ∈ rows, Shows (displayOf s.displays r.fileId) r := by
  obtain ⟨hrows, hcount⟩ := rows_aggregate hasc
  refine ⟨_, ?_, hrows, tabulates_sortRows _ _ hasc, fun r hr => shows_of_mem_sortRows hr⟩
  rw [hcount, (perm_sortRows _).length_eq, tableRows, List.length_map]

end Store

/-- **The rows of the tables in memory after any history.**  Whatever was called before, accepted or
rejected, adding up succeeds and gives the number of rows; the rows are the table of the stored
scores, which are those of the accepted calls, summed from the left by ascending query; and every
row shows the display entry of its file that was accepted last. -/
theorem memory_rows_after_history (calls : List StoreCall) :
    let s := ((Store.empty .memory).performAll calls).1
    let log := ((Store.empty .memory).performAll calls).2
    (∀ key w, (key, w) ∈ s.scores ↔
      ∃ row ∈ log.flatMap writtenScores, row.key = key ∧ row.weight = w) ∧
    ∃ rows, s.aggregate.2 = .ok rows.length ∧ s.aggregate.1.rows = .ok rows ∧
      Tabulates sumFromLeft (fun key w => (key, w) ∈ s.scores) rows ∧
        ∀ r ∈ rows, Shows (lastDisplay (log.flatMap writtenDisplays) r.fileId) r := by
  intro s log
  have hempty := Store.ascending_empty .memory
  have hasc : Ascending keyLt s.scores := Store.ascending_performAll calls hempty
  have hbackend : s.backend = .memory := Store.backend_performAll calls hempty
  constructor
  · intro key w
    rw [Store.mem_scores_performAll calls hempty]
    constructor
    · rintro (h | h)
      · exact absurd h (List.not_mem_nil)
      · obtain ⟨row, hrow, heq⟩ := List.mem_map.1 h
        exact ⟨row, hrow, (Prod.mk.inj heq).1, (Prod.mk.inj heq).2⟩
    · rintro ⟨row, hrow, rfl, rfl⟩
      exact Or.inr (List.mem_map_of_mem hrow)
  · obtain ⟨rows, hcount, hrows, htab, hshows⟩ := Store.tabulates_aggregate hasc
    rw [hbackend] at htab
    refine ⟨rows, hcount, hrows, htab, ?_⟩
    intro r hr
    have hshow := hshows r hr
    have hnone : displayOf (Store.empty .memory).displays r.fileId = none := rfl
    rw [Store.displayOf_performAll calls hempty, hnone, Option.or_none] at hshow
    exact hshow

end Tagging
