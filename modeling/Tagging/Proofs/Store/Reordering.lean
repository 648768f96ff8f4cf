import Tagging.Proofs.Store.Atomicity

/-!
# The order of batches

What a store takes does not depend on the order in which batches come, nor does what it holds, but
for the display entries of files that several batches show.

* `Store.TakesAll`, `Store.performAll_eq_acceptance_iff` — **a list of batches is accepted** exactly
  if all their scores go together, which has nothing to do with their order;
* `lastShown`, `ShownAlike` — the entry that counts for a file, and files for which no order
  matters;
* `Counterpart` — rows that differ at most in how they show their file;
* `rows_of_reordered_batches` — **any order** of batches that are accepted in one order.
-/

namespace Tagging

/-! ## Batches that a store takes one after the other -/

/-- The store can take the batches, one after the other. -/
structure Store.TakesAll (s : Store) (batches : List ScoreBatch) : Prop where
  /-- The totals are not computed yet. -/
  isOpen : s.totals = none
  /-- The scores of all batches go together with those of the store. -/
  admissible : Admissible s.hasQuery (hasScore s.scores) (batches.flatMap ScoreBatch.scores)
  /-- The backend can keep what is in them. -/
  fits : ∀ batch ∈ batches, s.backend.Fits batch

namespace Store

/-- The keys that are in use after a batch. -/
theorem Holds.hasScore {s s' : Store} {batch : ScoreBatch} (h : s.Holds s' batch) :
    hasScore s'.scores =
      fun k => decide (k ∈ batch.scores.map ScoreRow.key) || hasScore s.scores k := by
  funext k
  rw [Bool.eq_iff_iff, Bool.or_eq_true, decide_eq_true_eq, hasScore_iff, hasScore_iff,
    List.mem_map]
  simp only [h.scores.mem_iff, List.mem_append, List.mem_map]
  constructor
  · rintro ⟨w, hold | ⟨row, hrow, heq⟩⟩
    · exact Or.inr ⟨w, hold⟩
    · exact Or.inl ⟨row, hrow, congrArg Prod.fst heq⟩
  · rintro (⟨row, hrow, rfl⟩ | ⟨w, hold⟩)
    · exact ⟨row.weight, Or.inr ⟨row, hrow, rfl⟩⟩
    · exact ⟨w, Or.inl hold⟩

theorem hasQuery_eq_any (s : Store) (id : QueryId) :
    s.hasQuery id = s.queries.any (fun q => q.id = id) := by
  cases s <;> rfl

theorem Holds.hasQuery {s s' : Store} {batch : ScoreBatch} (h : s.Holds s' batch) :
    s'.hasQuery = s.hasQuery := by
  funext id
  rw [hasQuery_eq_any, hasQuery_eq_any, h.queries]

/-- Batches can be taken if the first one can, and the others after it. -/
theorem takesAll_cons {s : Store} (hasc : Ascending keyLt s.scores) {batch : ScoreBatch}
    {rest : List ScoreBatch} :
    s.TakesAll (batch :: rest) ↔ s.Takes batch ∧ (s.applyBatch batch).1.TakesAll rest := by
  constructor
  · rintro ⟨hopen, hadm, hfits⟩
    rw [List.flatMap_cons, admissible_append] at hadm
    obtain ⟨hfit, hfits⟩ := List.forall_mem_cons.1 hfits
    have htakes : s.Takes batch := ⟨hopen, hadm.1, hfit⟩
    have hholds := htakes.holds hasc
    refine ⟨htakes, hholds.totals, ?_, ?_⟩
    · rw [hholds.hasQuery, hholds.hasScore]
      exact hadm.2
    · rw [hholds.backend]
      exact hfits
  · rintro ⟨htakes, -, hadm, hfits⟩
    have hholds := htakes.holds hasc
    rw [hholds.hasQuery, hholds.hasScore] at hadm
    rw [hholds.backend] at hfits
    refine ⟨htakes.isOpen, ?_, List.forall_mem_cons.2 ⟨htakes.fits, hfits⟩⟩
    rw [List.flatMap_cons]
    exact admissible_append.2 ⟨htakes.admissible, hadm⟩

/-- **A list of batches is accepted exactly if all their scores go together.** -/
theorem performAll_eq_acceptance_iff {s : Store} (hasc : Ascending keyLt s.scores)
    (hopen : s.totals = none) {batches : List ScoreBatch} :
    (s.performAll (batches.map .applyBatch)).2 = acceptance batches ↔ s.TakesAll batches := by
  induction batches generalizing s with
  | nil => exact ⟨fun _ => ⟨hopen, admissible_nil _ _, by simp⟩, fun _ => rfl⟩
  | cons batch rest ih =>
    have hlog : (s.performAll ((batch :: rest).map .applyBatch)).2 = acceptance (batch :: rest) ↔
        (s.applyBatch batch).2 = .ok () ∧
          ((s.applyBatch batch).1.performAll (rest.map .applyBatch)).2 = acceptance rest := by
      show (StoreCall.applyBatch batch, StoreReply.written (s.applyBatch batch).2) :: _ =
        (StoreCall.applyBatch batch, StoreReply.written (.ok ())) :: _ ↔ _
      rw [List.cons.injEq, Prod.mk.injEq, StoreReply.written.injEq]
      exact and_congr_left' (and_iff_right rfl)
    rw [hlog, takesAll_cons hasc, applyBatch_eq_ok_iff hasc]
    refine and_congr_right fun htakes => ?_
    have hholds := htakes.holds hasc
    exact ih hholds.ascending hholds.totals

theorem TakesAll.perm {s : Store} {batches batches' : List ScoreBatch} (h : s.TakesAll batches)
    (hperm : batches.Perm batches') : s.TakesAll batches' where
  isOpen := h.isOpen
  admissible := h.admissible.perm (hperm.flatMap_right ScoreBatch.scores)
  fits := fun batch hbatch => h.fits batch (hperm.mem_iff.2 hbatch)

/-- A store that has accepted some of the batches that it can take can take the others. -/
theorem TakesAll.after {s : Store} (hasc : Ascending keyLt s.scores)
    {batches later : List ScoreBatch} (h : s.TakesAll (batches ++ later)) :
    (s.performAll (batches.map .applyBatch)).1.TakesAll later := by
  induction batches generalizing s with
  | nil => exact h
  | cons batch rest ih =>
    obtain ⟨htakes, hrest⟩ := (takesAll_cons hasc).1 h
    exact ih (htakes.holds hasc).ascending hrest

/-! ## What the store holds -/

/-- The scores of a store after batches that it accepts: the old ones and those of the batches. -/
theorem mem_scores_of_acceptance {s : Store} (hasc : Ascending keyLt s.scores)
    {batches : List ScoreBatch}
    (h : (s.performAll (batches.map .applyBatch)).2 = acceptance batches)
    {p : ScoreKey × Double} :
    p ∈ (s.performAll (batches.map .applyBatch)).1.scores ↔
      p ∈ s.scores ∨ p ∈ (batches.flatMap ScoreBatch.scores).map ScoreRow.entry := by
  rw [mem_scores_performAll _ hasc, h, flatMap_writtenScores_acceptance]

end Store

/-- The entry of a file in the last batch that has one. -/
def lastShown (batches : List ScoreBatch) (f : String) : Option DisplayEntry :=
  batches.reverse.findSome? (fun batch => lastDisplay batch.displays f)

/-- The last entry among those of all batches is that of the last batch. -/
theorem lastDisplay_flatMap (batches : List ScoreBatch) (f : String) :
    lastDisplay (batches.flatMap ScoreBatch.displays) f = lastShown batches f := by
  induction batches with
  | nil => rfl
  | cons batch rest ih =>
    rw [List.flatMap_cons, lastDisplay_append, ih, lastShown, lastShown, List.reverse_cons,
      List.findSome?_append]
    cases h : lastDisplay batch.displays f <;> simp [h]

theorem Store.displayOf_of_acceptance {s : Store} (hasc : Ascending keyLt s.scores)
    {batches : List ScoreBatch}
    (h : (s.performAll (batches.map .applyBatch)).2 = acceptance batches) (f : String) :
    displayOf (s.performAll (batches.map .applyBatch)).1.displays f =
      (lastShown batches f).or (displayOf s.displays f) := by
  rw [displayOf_performAll _ hasc, h, flatMap_writtenDisplays_acceptance, lastDisplay_flatMap]

/-- No two of the batches show the file differently. -/
def ShownAlike (batches : List ScoreBatch) (f : String) : Prop :=
  ∀ batch ∈ batches, ∀ batch' ∈ batches, ∀ d d', lastDisplay batch.displays f = some d →
    lastDisplay batch'.displays f = some d' → d = d'

theorem exists_of_lastShown_eq_some {batches : List ScoreBatch} {f : String} {d : DisplayEntry}
    (h : lastShown batches f = some d) :
    ∃ batch ∈ batches, lastDisplay batch.displays f = some d := by
  obtain ⟨batch, hbatch, hd⟩ := List.exists_of_findSome?_eq_some h
  exact ⟨batch, List.mem_reverse.1 hbatch, hd⟩

theorem lastShown_eq_none_iff {batches : List ScoreBatch} {f : String} :
    lastShown batches f = none ↔ ∀ batch ∈ batches, lastDisplay batch.displays f = none := by
  rw [lastShown, List.findSome?_eq_none_iff]
  simp only [List.mem_reverse]

/-- Where no two batches show a file differently, their order does not matter for it. -/
theorem lastShown_perm {batches batches' : List ScoreBatch} (hperm : batches.Perm batches')
    {f : String} (halike : ShownAlike batches f) : lastShown batches f = lastShown batches' f := by
  cases h : lastShown batches f with
  | none =>
    have hnone := lastShown_eq_none_iff.1 h
    exact (lastShown_eq_none_iff.2 fun batch hbatch => hnone batch (hperm.mem_iff.2 hbatch)).symm
  | some d =>
    obtain ⟨batch, hbatch, hd⟩ := exists_of_lastShown_eq_some h
    cases h' : lastShown batches' f with
    | none =>
      have hnone := lastShown_eq_none_iff.1 h' batch (hperm.mem_iff.1 hbatch)
      exact absurd (hd.symm.trans hnone) (by simp)
    | some d' =>
      obtain ⟨batch', hbatch', hd'⟩ := exists_of_lastShown_eq_some h'
      rw [halike batch hbatch batch' (hperm.mem_iff.2 hbatch') d d' hd hd']

/-! ## Rows -/

/-- The rows `r` and `r'`, read after `batches` and after `batches'` on top of the display entries
`shown`, say the same of a file up to how it is shown. -/
structure Counterpart (shown : List DisplayEntry) (batches batches' : List ScoreBatch)
    (r r' : SortedRow) : Prop where
  /-- They are rows of one file. -/
  fileId : r'.fileId = r.fileId
  /-- The totals are the same, bit for bit. -/
  total : r'.total = r.total
  /-- So are the weights. -/
  weights : r'.weights = r.weights
  /-- The first one shows the file as the last batch of its list does that has an entry for it. -/
  shows : Shows ((lastShown batches r.fileId).or (displayOf shown r.fileId)) r
  /-- So does the second one. -/
  shows' : Shows ((lastShown batches' r.fileId).or (displayOf shown r.fileId)) r'
  /-- They are equal unless two batches show the file differently. -/
  same : ShownAlike batches r.fileId → r' = r

/-- **Any order of batches.**  If a store that is open accepts batches in one order, it accepts them
in every order.  The scores are the same then, files are counted alike, and the rows stand in the
same order, with the same totals and weights; a row shows its file as the last batch does that has
an entry for it, so that rows are the same wherever no two batches show the file differently. -/
theorem rows_of_reordered_batches {s : Store} (hasc : Ascending keyLt s.scores)
    (hopen : s.totals = none) {batches batches' : List ScoreBatch}
    (hperm : batches.Perm batches')
    (haccepted : (s.performAll (batches.map .applyBatch)).2 = acceptance batches) :
    let t := (s.performAll (batches.map .applyBatch)).1
    let t' := (s.performAll (batches'.map .applyBatch)).1
    (s.performAll (batches'.map .applyBatch)).2 = acceptance batches' ∧
    t'.scores = t.scores ∧ t'.aggregate.2 = t.aggregate.2 ∧
    ∃ rows rows', t.aggregate.1.rows = .ok rows ∧ t'.aggregate.1.rows = .ok rows' ∧
      List.Forall₂ (Counterpart s.displays batches batches') rows rows' ∧
      ((∀ f, ShownAlike batches f) → rows' = rows) := by
  intro t t'
  have haccepted' : (s.performAll (batches'.map .applyBatch)).2 = acceptance batches' :=
    (Store.performAll_eq_acceptance_iff hasc hopen).2
      (((Store.performAll_eq_acceptance_iff hasc hopen).1 haccepted).perm hperm)
  have htasc : Ascending keyLt t.scores := Store.ascending_performAll _ hasc
  have htasc' : Ascending keyLt t'.scores := Store.ascending_performAll _ hasc
  have hscores : t'.scores = t.scores := by
    refine Ascending.ext keyOrder_keyLt htasc' htasc fun p => ?_
    rw [Store.mem_scores_of_acceptance hasc haccepted',
      Store.mem_scores_of_acceptance hasc haccepted,
      ((hperm.flatMap_right ScoreBatch.scores).map ScoreRow.entry).mem_iff]
  have hbackend : t'.backend = t.backend :=
    (Store.backend_performAll _ hasc).trans (Store.backend_performAll _ hasc).symm
  obtain ⟨hrows, hcount⟩ := Store.rows_aggregate htasc
  obtain ⟨hrows', hcount'⟩ := Store.rows_aggregate htasc'
  rw [hbackend, hscores] at hrows' hcount'
  -- both lists of rows come from the same files in the same order
  obtain ⟨files, hfiles⟩ := exists_sortRows_eq_map t.backend.sum t.scores
  rw [hfiles] at hrows hrows'
  have hcounterpart : ∀ f ∈ files, Counterpart s.displays batches batches'
      (SortedRow.join f (t.backend.sum ((weightsOf t.scores f).map Prod.snd))
        (displayOf t.displays f) (weightsOf t.scores f))
      (SortedRow.join f (t.backend.sum ((weightsOf t.scores f).map Prod.snd))
        (displayOf t'.displays f) (weightsOf t.scores f)) := by
    intro f _
    have hshown := Store.displayOf_of_acceptance hasc haccepted f
    have hshown' := Store.displayOf_of_acceptance hasc haccepted' f
    refine ⟨by simp, by simp, by simp, ?_, ?_, fun halike => ?_⟩
    · rw [SortedRow.join_fileId, ← hshown]
      exact shows_join ..
    · rw [SortedRow.join_fileId, ← hshown']
      exact shows_join ..
    · rw [SortedRow.join_fileId] at halike
      rw [hshown', hshown, lastShown_perm hperm halike]
  refine ⟨haccepted', hscores, hcount'.trans hcount.symm, _, _, hrows, hrows', ?_, fun halike => ?_⟩
  · rw [List.forall₂_map_left_iff, List.forall₂_map_right_iff, List.forall₂_same]
    exact hcounterpart
  · exact List.map_congr_left fun f hf => (hcounterpart f hf).same (halike _)

/-- Three batches of one file, the last of which shows it differently, in another order. -/
theorem rows_of_reordered_batches_three :
    let first := ((Store.empty .memory).performAll [.insertQueries [⟨1, "one", 10, 0⟩,
      ⟨2, "two", 10, 0⟩, ⟨3, "three", 10, 0⟩]]).1
    let batch := fun q w name => ScoreBatch.mk q [⟨"x", name, "x.txt", 0⟩] [⟨"x", q, w⟩]
    let batches := [batch 1 0.1 "A", batch 2 0.2 "A", batch 3 0.3 "B"]
    let batches' := [batch 3 0.3 "B", batch 1 0.1 "A", batch 2 0.2 "A"]
    Ascending keyLt first.scores ∧ first.totals = none ∧ batches.Perm batches' ∧
      (first.performAll (batches.map .applyBatch)).2 = acceptance batches ∧
      ∃ rows rows',
        (first.performAll (batches.map .applyBatch)).1.aggregate.1.rows = .ok rows ∧
        (first.performAll (batches'.map .applyBatch)).1.aggregate.1.rows = .ok rows' ∧
        List.Forall₂ (Counterpart first.displays batches batches') rows rows' := by
  intro first batch batches batches'
  have hasc : Ascending keyLt first.scores :=
    Store.ascending_performAll _ (Store.ascending_empty .memory)
  have hperm : batches.Perm batches' :=
    @List.perm_append_comm _ [batch 1 0.1 "A", batch 2 0.2 "A"] [batch 3 0.3 "B"]
  have haccepted : (first.performAll (batches.map .applyBatch)).2 = acceptance batches := by rfl
  obtain ⟨-, -, -, rows, rows', hrows, hrows', hcounterpart, -⟩ :=
    rows_of_reordered_batches hasc rfl hperm haccepted
  exact ⟨hasc, rfl, hperm, haccepted, rows, rows', hrows, hrows', hcounterpart⟩

end Tagging
