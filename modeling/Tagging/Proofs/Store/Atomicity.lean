import Tagging.Proofs.Store.History

/-!
# A batch is written as a whole or not at all

When just a store takes a batch, what it holds afterwards, and that a batch which it does not take
leaves no trace.

* `Backend.Fits`, `Store.Takes` — when a store takes a batch;
* `Store.applyBatch_eq_ok_iff` — **exactly then** it accepts it;
* `Store.Holds` — what a store holds that has taken a batch;
* `batch_whole_or_not_at_all` — acceptance, outcome and refusal, on either backend.
-/

namespace Tagging

/-! ## When a store takes a batch -/

/-- Can a backend keep what is in the batch?  Tables in memory keep everything; the columns of a
database hold positive weights and addresses up to a bound. -/
def Backend.Fits : Backend → ScoreBatch → Prop
  | .memory, _ => True
  | .sqlite, batch =>
    (∀ row ∈ batch.scores, row.weight > 0) ∧ ∀ e ∈ batch.displays, e.address ≤ Tables.maxAddress

/-- The store can take the batch. -/
structure Store.Takes (s : Store) (batch : ScoreBatch) : Prop where
  /-- The totals are not computed yet. -/
  isOpen : s.totals = none
  /-- Each score is for a registered query and for a key that neither the store nor another score of
  the batch has. -/
  admissible : Admissible s.hasQuery (hasScore s.scores) batch.scores
  /-- The backend can keep what is in it. -/
  fits : s.backend.Fits batch

namespace Store

/-- **A store accepts the batches that it can take, and no others.** -/
theorem applyBatch_eq_ok_iff {s : Store} (hasc : Ascending keyLt s.scores) {batch : ScoreBatch} :
    (s.applyBatch batch).2 = .ok () ↔ s.Takes batch := by
  cases s with
  | memory m =>
    refine Memory.applyBatch_eq_ok_iff.trans ⟨?_, fun h => ⟨h.isOpen, h.admissible⟩⟩
    rintro ⟨hopen, hadm⟩
    exact ⟨hopen, hadm, trivial⟩
  | relational r =>
    refine (Relational.applyBatch_eq_ok_iff hasc).trans ⟨?_, ?_⟩
    · rintro ⟨hopen, haddr, hpos, hadm⟩
      exact ⟨totals_relational_eq_none_iff.2 hopen, hadm, hpos, haddr⟩
    · rintro ⟨hopen, hadm, hpos, haddr⟩
      exact ⟨totals_relational_eq_none_iff.1 hopen, haddr, hpos, hadm⟩

/-! ## What is held afterwards -/

/-- The store `s'` holds what `s` holds, with the batch on top of it. -/
structure Holds (s s' : Store) (batch : ScoreBatch) : Prop where
  /-- The backend is the same. -/
  backend : s'.backend = s.backend
  /-- So are the registered queries. -/
  queries : s'.queries = s.queries
  /-- The totals are still not computed. -/
  totals : s'.totals = none
  /-- The scores still stand by ascending key. -/
  ascending : Ascending keyLt s'.scores
  /-- They are the old ones and those of the batch, with no key in common. -/
  scores : s'.scores.Perm (s.scores ++ batch.scores.map ScoreRow.entry)
  /-- A file is shown by its last entry in the batch, or as before if it has none there. -/
  displays : ∀ f, displayOf s'.displays f =
    (lastDisplay batch.displays f).or (displayOf s.displays f)

/-- The scores and display entries of a batch, written to a store, are held by it. -/
theorem holds_of_write {s s' : Store} {batch : ScoreBatch} (hasc : Ascending keyLt s.scores)
    (htakes : s.Takes batch) (hbackend : s'.backend = s.backend) (hqueries : s'.queries = s.queries)
    (htotals : s'.totals = s.totals)
    (hscores : s'.scores = insertScores s.scores (batch.scores.map ScoreRow.entry))
    (hdisplays : s'.displays = batch.displays.foldl putDisplay s.displays) :
    s.Holds s' batch where
  backend := hbackend
  queries := hqueries
  totals := htotals.trans htakes.isOpen
  ascending := by
    rw [hscores]
    exact ascending_insertScores _ hasc
  scores := by
    rw [hscores]
    exact htakes.admissible.perm_insertScores hasc
  displays := by
    intro f
    rw [hdisplays, displayOf_foldl_putDisplay]

/-- A batch that a store takes is held by it afterwards. -/
theorem Takes.holds {s : Store} (hasc : Ascending keyLt s.scores) {batch : ScoreBatch}
    (h : s.Takes batch) : s.Holds (s.applyBatch batch).1 batch := by
  cases s with
  | memory m =>
    have hok : (m.applyBatch batch).2 = .ok () := (applyBatch_eq_ok_iff hasc).2 h
    obtain ⟨-, -, heq⟩ := accepted_of_cases hok (Memory.applyBatch_cases hasc batch)
    rw [applyBatch, heq]
    exact holds_of_write hasc h rfl rfl rfl rfl rfl
  | relational r =>
    have hok : (r.applyBatch batch).2 = .ok () := (applyBatch_eq_ok_iff hasc).2 h
    obtain ⟨-, -, -, -, heq⟩ := accepted_of_cases hok (Relational.applyBatch_cases hasc batch)
    rw [applyBatch, heq]
    exact holds_of_write hasc h rfl rfl rfl rfl rfl

end Store

/-- **A batch is written as a whole or not at all.**  On either backend, a store accepts a batch
exactly if its totals are not computed, every score of the batch is for a registered query, none of
the keys is taken, and none occurs twice; a database also insists on positive weights and on
addresses that its columns hold.  If the batch is accepted, the store holds what it held and the
batch on top of it, with the last entry of each file shown; if not, the store is what it was.  Keys
ascend in every store that a history leaves (`Store.ascending_performAll`). -/
theorem batch_whole_or_not_at_all {s : Store} (hasc : Ascending keyLt s.scores)
    (batch : ScoreBatch) :
    ((s.applyBatch batch).2 = .ok () ↔ s.Takes batch) ∧
    ((s.applyBatch batch).2 = .ok () → s.Holds (s.applyBatch batch).1 batch) ∧
    ((s.applyBatch batch).2 ≠ .ok () → (s.applyBatch batch).1 = s) := by
  have hiff : (s.applyBatch batch).2 = .ok () ↔ s.Takes batch := Store.applyBatch_eq_ok_iff hasc
  refine ⟨hiff, fun hok => (hiff.1 hok).holds hasc, fun hrefused => ?_⟩
  rcases Store.wrote_applyBatch hasc batch with ⟨e, heq⟩ | ⟨hok, -⟩
  · rw [heq]
  · exact absurd hok hrefused

/-- A database with one score.  It takes a batch that scores the file under another query, and then
refuses one of which only the last score is taken. -/
theorem batch_whole_or_not_at_all_last_row :
    let first := ((Store.empty .sqlite).performAll [.insertQueries [⟨1, "one", 10, 0⟩,
      ⟨2, "two", 10, 0⟩], .insertScore ⟨"a", 1, 1⟩]).1
    let batch := fun q => ScoreBatch.mk q [⟨"z", "Z", "z.txt", 9⟩] [⟨"z", q, 0.5⟩, ⟨"a", q, 0.25⟩]
    Ascending keyLt first.scores ∧ first.Holds (first.applyBatch (batch 2)).1 (batch 2) ∧
      (first.applyBatch (batch 1)).1 = first := by
  intro first batch
  have hasc : Ascending keyLt first.scores :=
    Store.ascending_performAll _ (Store.ascending_empty .sqlite)
  have hok : (first.applyBatch (batch 2)).2 = .ok () := by decide +kernel
  have hrefused : (first.applyBatch (batch 1)).2 ≠ .ok () := by decide +kernel
  exact ⟨hasc, (batch_whole_or_not_at_all hasc (batch 2)).2.1 hok,
    (batch_whole_or_not_at_all hasc (batch 1)).2.2 hrefused⟩

end Tagging
