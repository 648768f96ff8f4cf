import Mathlib.Data.String.Basic
import Tagging.Proofs.Store.Table
import Tagging.Proofs.Text.ByteOrder
import Tagging.Store.Scratch

/-!
# Totals and sorted rows

What the rows of a store say about its score table.  The tables in memory add up neighbouring scores
in one pass (`runTotals`); a database groups by file and adds up each group.  Both come to the same
list of files with the sum of each file's weights (`runTotals_eq`), which differs only in how the
weights are summed (`Backend.sum`).

* `Tabulates` — what it means that rows are the table of given scores: one row for each file with a
  score, exactly its weights by ascending query, their sum, and rows in strict order;
* `Shows` — what a row shows of a display entry;
* `orderKey_injective`, `rowBefore_of_rowLe` — the order of rows is total also where a total is
  not a number;
* `tabulates_sortRows` — **the rows that are read from a table are the table of its scores**;
* `exists_sortRows_eq_map` — their order does not depend on how files are shown.
-/

namespace Tagging

/-! ## Sums -/

/-- The sum of weights, added one after the other from the left; no weights add up to zero. -/
def sumFromLeft : List Double → Double
  | [] => 0
  | w :: rest => rest.foldl (fun total w => total + w) w

/-- How the tables of a backend add up weights. -/
def Backend.sum : Backend → List Double → Double
  | .memory => sumFromLeft
  | .sqlite => compensatedSum

/-! ## The files of a table -/

open Relational (filesOf)

theorem mem_filesOf {table : ScoreTable} {f : String} :
    f ∈ filesOf table ↔ ∃ p ∈ table, p.1.1 = f := by
  induction table with
  | nil => simp [filesOf]
  | cons p rest ih =>
    obtain ⟨⟨g, q⟩, w⟩ := p
    rw [filesOf, List.mem_cons, List.mem_filter, ih]
    constructor
    · rintro (rfl | ⟨⟨p, hp, hf⟩, -⟩)
      · exact ⟨_, List.mem_cons_self .., rfl⟩
      · exact ⟨p, List.mem_cons_of_mem _ hp, hf⟩
    · rintro ⟨p, hp, hf⟩
      by_cases hfg : f = g
      · exact Or.inl hfg
      · rcases List.mem_cons.1 hp with rfl | hp
        · exact absurd hf.symm hfg
        · exact Or.inr ⟨⟨p, hp, hf⟩, decide_eq_true hfg⟩

theorem nodup_filesOf (table : ScoreTable) : (filesOf table).Nodup := by
  induction table with
  | nil => exact List.nodup_nil
  | cons p rest ih =>
    refine List.nodup_cons.2 ⟨?_, ih.filter _⟩
    intro hmem
    simpa using (List.mem_filter.1 hmem).2

/-- Leaving out the scores of one file leaves out that file. -/
theorem filesOf_filter (table : ScoreTable) (f : String) :
    filesOf (table.filter (fun p => p.1.1 ≠ f)) = (filesOf table).filter (fun g => g ≠ f) := by
  induction table with
  | nil => rfl
  | cons p rest ih =>
    obtain ⟨⟨g, q⟩, w⟩ := p
    rw [filesOf, List.filter_cons, List.filter_cons]
    by_cases hg : g = f
    · subst hg
      simpa [List.filter_filter] using ih
    · simp only [ne_eq, hg, not_false_eq_true, decide_true, if_true, filesOf]
      simp only [ne_eq] at ih
      rw [ih, List.filter_filter, List.filter_filter]
      simp only [Bool.and_comm]

theorem weightsOf_filter_ne {table : ScoreTable} {f g : String} (h : g ≠ f) :
    weightsOf (table.filter (fun p => p.1.1 ≠ f)) g = weightsOf table g := by
  rw [weightsOf, weightsOf, List.filter_filter]
  congr 1
  refine List.filter_congr ?_
  intro p _
  by_cases hp : p.1.1 = g
  · simp [hp, h]
  · simp [hp]

/-! ## Totals -/

/-- Every file of a table with the sum of its weights. -/
def totalsBy (sum : List Double → Double) (table : ScoreTable) : List (String × Double) :=
  (filesOf table).map (fun f => (f, sum ((weightsOf table f).map Prod.snd)))

theorem totalsBy_cons (sum : List Double → Double) (f : String) (q : QueryId) (w : Double)
    (rest : ScoreTable) :
    totalsBy sum (((f, q), w) :: rest) =
      (f, sum (w :: (weightsOf rest f).map Prod.snd)) ::
        totalsBy sum (rest.filter (fun p => p.1.1 ≠ f)) := by
  rw [totalsBy, filesOf, List.map_cons, weightsOf_cons_self, List.map_cons, totalsBy,
    filesOf_filter]
  congr 1
  refine List.map_congr_left ?_
  intro g hg
  have hgf : g ≠ f := by simpa using (List.mem_filter.1 hg).2
  rw [weightsOf_filter_ne hgf, weightsOf_cons_ne hgf.symm]

/-- The invariant of the pass over the scores: with the total of `f` so far on top, and no file
before `f` to come, the pass ends with the totals below, the whole sum of `f`, and the totals of the
other files to come. -/
theorem runTotals_cons {f : String} {total : Double} {earlier : List (String × Double)}
    {table : ScoreTable} (h : Ascending keyLt table) (later : ∀ p ∈ table, f ≤ p.1.1) :
    Memory.runTotals ((f, total) :: earlier) table =
      earlier.reverse ++ (f, ((weightsOf table f).map Prod.snd).foldl (fun t w => t + w) total) ::
        totalsBy sumFromLeft (table.filter (fun p => p.1.1 ≠ f)) := by
  induction table generalizing f total earlier with
  | nil => simp [Memory.runTotals, totalsBy, filesOf, weightsOf]
  | cons p rest ih =>
    obtain ⟨⟨g, q⟩, w⟩ := p
    obtain ⟨hg, hrest⟩ := List.pairwise_cons.1 h
    have hle : ∀ p ∈ rest, g ≤ p.1.1 := by
      intro p hp
      rcases keyLt_iff.1 (hg p hp) with hlt | ⟨heq, -⟩
      · exact le_of_lt hlt
      · exact le_of_eq heq
    rw [Memory.runTotals]
    by_cases hfg : f = g
    · -- one more score of the file on top
      subst hfg
      rw [if_pos rfl, ih hrest hle, weightsOf_cons_self]
      simp
    · -- the first score of the next file: none of `f` can follow
      have hlt : f < g := lt_of_le_of_ne (later _ (List.mem_cons_self ..)) hfg
      have hne : ∀ p ∈ rest, p.1.1 ≠ f := fun p hp => ne_of_gt (lt_of_lt_of_le hlt (hle p hp))
      have hfilter : (((g, q), w) :: rest).filter (fun p => p.1.1 ≠ f) = ((g, q), w) :: rest := by
        refine List.filter_eq_self.2 ?_
        intro p hp
        rcases List.mem_cons.1 hp with rfl | hp
        · exact decide_eq_true (Ne.symm hfg)
        · exact decide_eq_true (hne p hp)
      rw [if_neg hfg, ih hrest hle, hfilter, totalsBy_cons, weightsOf_cons_ne (Ne.symm hfg),
        weightsOf_eq_nil hne]
      simp [sumFromLeft]

/-- **One pass over the scores is grouping by file.**  For scores by ascending key the pass gives
each file once, with its weights added from the left. -/
theorem runTotals_eq {table : ScoreTable} (h : Ascending keyLt table) :
    Memory.runTotals [] table = totalsBy sumFromLeft table := by
  cases table with
  | nil => rfl
  | cons p rest =>
    obtain ⟨⟨f, q⟩, w⟩ := p
    obtain ⟨hf, hrest⟩ := List.pairwise_cons.1 h
    have hle : ∀ p ∈ rest, f ≤ p.1.1 := by
      intro p hp
      rcases keyLt_iff.1 (hf p hp) with hlt | ⟨heq, -⟩
      · exact le_of_lt hlt
      · exact le_of_eq heq
    rw [Memory.runTotals, runTotals_cons hrest hle, totalsBy_cons]
    rfl

/-! ## The order of rows -/

/-- **Every double has its own place in the total order**: equal places mean the same bits. -/
theorem orderKey_injective {x y : Double} (h : Number.orderKey x = Number.orderKey y) : x = y := by
  obtain ⟨m⟩ := x
  obtain ⟨n⟩ := y
  have hbits : m.toNat = n.toNat := by
    have hm := m.toNat_lt
    have hn := n.toNat_lt
    simp only [Number.orderKey, Nat.pow_eq, Int.pow_eq] at h
    split_ifs at h <;> omega
  rw [UInt64.toNat_inj.1 hbits]

/-- What is not a number has its place by its sign: before all numbers, or behind them. -/
example : Number.orderKey ⟨0xFFF8000000000000⟩ < Number.orderKey 1 ∧
    Number.orderKey 1 < Number.orderKey ⟨0x7FF8000000000000⟩ := by decide +kernel

/-- Does the row `a` come strictly before the row `b`: a greater total first, and for the same total
the file whose id has lesser bytes? -/
def RowBefore (a b : SortedRow) : Prop :=
  Number.orderKey b.total < Number.orderKey a.total ∨
    a.total = b.total ∧ Text.BytesLt a.fileId b.fileId

theorem rowLe_iff {a b : SortedRow} :
    rowLe a b = true ↔ Number.orderKey b.total < Number.orderKey a.total ∨
      Number.orderKey a.total = Number.orderKey b.total ∧ a.fileId ≤ b.fileId := by
  unfold rowLe
  split
  · rename_i h
    exact ⟨fun _ => Or.inl h, fun _ => rfl⟩
  · rename_i h
    split
    · rename_i hlt
      refine ⟨fun hf => absurd hf (by simp), fun hor => ?_⟩
      exact absurd (hor.resolve_left h).1 (ne_of_lt hlt)
    · rename_i hnlt
      have heq : Number.orderKey a.total = Number.orderKey b.total :=
        le_antisymm (not_lt.1 h) (not_lt.1 hnlt)
      rw [decide_eq_true_eq]
      exact ⟨fun hle => Or.inr ⟨heq, hle⟩, fun hor => (hor.resolve_left h).2⟩

theorem rowLe_trans (a b c : SortedRow) (hab : rowLe a b = true) (hbc : rowLe b c = true) :
    rowLe a c = true := by
  rw [rowLe_iff] at hab hbc ⊢
  rcases hab with hab | ⟨hab, habf⟩
  · rcases hbc with hbc | ⟨hbc, -⟩
    · exact Or.inl (lt_trans hbc hab)
    · exact Or.inl (hbc ▸ hab)
  · rcases hbc with hbc | ⟨hbc, hbcf⟩
    · exact Or.inl (hab ▸ hbc)
    · exact Or.inr ⟨hab.trans hbc, le_trans habf hbcf⟩

theorem rowLe_total (a b : SortedRow) : (rowLe a b || rowLe b a) = true := by
  rw [Bool.or_eq_true, rowLe_iff, rowLe_iff]
  rcases lt_trichotomy (Number.orderKey a.total) (Number.orderKey b.total) with h | h | h
  · exact Or.inr (Or.inl h)
  · rcases le_total a.fileId b.fileId with hf | hf
    · exact Or.inl (Or.inr ⟨h, hf⟩)
    · exact Or.inr (Or.inr ⟨h.symm, hf⟩)
  · exact Or.inl (Or.inl h)

/-- Of rows of different files one comes strictly before the other. -/
theorem rowBefore_of_rowLe {a b : SortedRow} (h : rowLe a b = true) (hne : a.fileId ≠ b.fileId) :
    RowBefore a b := by
  rcases rowLe_iff.1 h with hlt | ⟨heq, hle⟩
  · exact Or.inl hlt
  · exact Or.inr ⟨orderKey_injective heq, Text.lt_iff_bytes_lt.1 (lt_of_le_of_ne hle hne)⟩

theorem perm_sortRows (rows : List SortedRow) : (sortRows rows).Perm rows :=
  List.mergeSort_perm rows rowLe

@[simp] theorem mem_sortRows {rows : List SortedRow} {r : SortedRow} :
    r ∈ sortRows rows ↔ r ∈ rows := (perm_sortRows rows).mem_iff

/-- Rows of different files come into strict order. -/
theorem pairwise_sortRows {rows : List SortedRow} (h : (rows.map SortedRow.fileId).Nodup) :
    (sortRows rows).Pairwise RowBefore := by
  have hle : (sortRows rows).Pairwise (fun a b => rowLe a b = true) :=
    List.pairwise_mergeSort rowLe_trans rowLe_total rows
  have hne : (sortRows rows).Pairwise (fun a b => a.fileId ≠ b.fileId) :=
    List.pairwise_map.1 (((perm_sortRows rows).map SortedRow.fileId).nodup_iff.2 h)
  exact (hle.and hne).imp (fun hab => rowBefore_of_rowLe hab.1 hab.2)

/-! ## Rows as the table of scores -/

/-- The rows are the table of the scores `stored`, summed up by `sum`. -/
structure Tabulates (sum : List Double → Double) (stored : ScoreKey → Double → Prop)
    (rows : List SortedRow) : Prop where
  /-- No file has two rows. -/
  once : (rows.map SortedRow.fileId).Nodup
  /-- The files with a row are those with a score. -/
  files : ∀ f, f ∈ rows.map SortedRow.fileId ↔ ∃ q w, stored (f, q) w
  /-- The rows stand in strict order. -/
  ordered : rows.Pairwise RowBefore
  /-- The weights of a row are the scores of its file. -/
  weights : ∀ r ∈ rows, ∀ q w, (q, w) ∈ r.weights ↔ stored (r.fileId, q) w
  /-- The weights of a row stand by ascending query, each query once. -/
  ascending : ∀ r ∈ rows, r.weights.Pairwise (fun a b => a.1 < b.1)
  /-- The total of a row is the sum of its weights in that order. -/
  total : ∀ r ∈ rows, r.total = sum (r.weights.map Prod.snd)

/-- The row shows the display entry of its file, or the file's id if there is none. -/
def Shows (entry : Option DisplayEntry) (r : SortedRow) : Prop :=
  match entry with
  | some d => r.displayName = d.displayName ∧ r.relativePath = d.relativePath ∧
      r.address = some d.address
  | none => r.displayName = r.fileId ∧ r.relativePath = "" ∧ r.address = none

@[simp] theorem SortedRow.join_fileId (f : String) (total : Double) (d : Option DisplayEntry)
    (ws : List (QueryId × Double)) : (SortedRow.join f total d ws).fileId = f := by
  cases d <;> rfl

@[simp] theorem SortedRow.join_total (f : String) (total : Double) (d : Option DisplayEntry)
    (ws : List (QueryId × Double)) : (SortedRow.join f total d ws).total = total := by
  cases d <;> rfl

@[simp] theorem SortedRow.join_weights (f : String) (total : Double) (d : Option DisplayEntry)
    (ws : List (QueryId × Double)) : (SortedRow.join f total d ws).weights = ws := by
  cases d <;> rfl

theorem shows_join (f : String) (total : Double) (d : Option DisplayEntry)
    (ws : List (QueryId × Double)) : Shows d (SortedRow.join f total d ws) := by
  cases d <;> exact ⟨rfl, rfl, rfl⟩

/-- The rows of a table before they are sorted. -/
def tableRows (sum : List Double → Double) (displays : List DisplayEntry) (table : ScoreTable) :
    List SortedRow :=
  (totalsBy sum table).map (fun (f, total) =>
    SortedRow.join f total (displayOf displays f) (weightsOf table f))

theorem tableRows_eq (sum : List Double → Double) (displays : List DisplayEntry)
    (table : ScoreTable) :
    tableRows sum displays table = (filesOf table).map (fun f =>
      SortedRow.join f (sum ((weightsOf table f).map Prod.snd)) (displayOf displays f)
        (weightsOf table f)) := by
  rw [tableRows, totalsBy, List.map_map]
  rfl

theorem map_fileId_tableRows (sum : List Double → Double) (displays : List DisplayEntry)
    (table : ScoreTable) : (tableRows sum displays table).map SortedRow.fileId = filesOf table := by
  rw [tableRows_eq, List.map_map]
  conv_rhs => rw [← List.map_id (filesOf table)]
  exact List.map_congr_left (fun f _ => SortedRow.join_fileId ..)

/-- **The rows that are read from a table are the table of its scores.** -/
theorem tabulates_sortRows (sum : List Double → Double) (displays : List DisplayEntry)
    {table : ScoreTable} (h : Ascending keyLt table) :
    Tabulates sum (fun key w => (key, w) ∈ table) (sortRows (tableRows sum displays table)) := by
  have hfiles : (tableRows sum displays table).map SortedRow.fileId = filesOf table :=
    map_fileId_tableRows sum displays table
  have honce : ((tableRows sum displays table).map SortedRow.fileId).Nodup := by
    rw [hfiles]
    exact nodup_filesOf table
  have hperm := (perm_sortRows (tableRows sum displays table)).map SortedRow.fileId
  have hrow : ∀ r ∈ sortRows (tableRows sum displays table), ∃ f,
      r = SortedRow.join f (sum ((weightsOf table f).map Prod.snd)) (displayOf displays f)
        (weightsOf table f) := by
    intro r hr
    rw [mem_sortRows, tableRows_eq] at hr
    obtain ⟨f, -, rfl⟩ := List.mem_map.1 hr
    exact ⟨f, rfl⟩
  refine ⟨hperm.nodup_iff.2 honce, ?_, pairwise_sortRows honce, ?_, ?_, ?_⟩
  · intro f
    rw [hperm.mem_iff, hfiles, mem_filesOf]
    constructor
    · rintro ⟨⟨⟨g, q⟩, w⟩, hp, rfl⟩
      exact ⟨q, w, hp⟩
    · rintro ⟨q, w, hp⟩
      exact ⟨_, hp, rfl⟩
  · intro r hr q w
    obtain ⟨f, rfl⟩ := hrow r hr
    rw [SortedRow.join_weights, SortedRow.join_fileId, mem_weightsOf]
  · intro r hr
    obtain ⟨f, rfl⟩ := hrow r hr
    rw [SortedRow.join_weights]
    exact pairwise_weightsOf h f
  · intro r hr
    obtain ⟨f, rfl⟩ := hrow r hr
    rw [SortedRow.join_total, SortedRow.join_weights]

/-- **The order of the rows does not depend on how files are shown.**  The files of a table can be
put in an order in which their rows are read, whatever the display entries are. -/
theorem exists_sortRows_eq_map (sum : List Double → Double) (table : ScoreTable) :
    ∃ files : List String, ∀ displays : List DisplayEntry,
      sortRows (tableRows sum displays table) = files.map (fun f =>
        SortedRow.join f (sum ((weightsOf table f).map Prod.snd)) (displayOf displays f)
          (weightsOf table f)) := by
  let row := fun (displays : List DisplayEntry) (f : String) =>
    SortedRow.join f (sum ((weightsOf table f).map Prod.snd)) (displayOf displays f)
      (weightsOf table f)
  have hle : ∀ displays f g,
      rowLe (row [] f) (row [] g) = rowLe (row displays f) (row displays g) := by
    intro displays f g
    simp only [rowLe, row, SortedRow.join_total, SortedRow.join_fileId]
  refine ⟨(filesOf table).mergeSort (fun f g => rowLe (row [] f) (row [] g)), fun displays => ?_⟩
  rw [tableRows_eq, sortRows]
  exact (List.map_mergeSort fun f _ g _ => hle displays f g).symm

/-- The rows that are read from a table show the display entries of their files. -/
theorem shows_of_mem_sortRows {sum : List Double → Double} {displays : List DisplayEntry}
    {table : ScoreTable} {r : SortedRow} (h : r ∈ sortRows (tableRows sum displays table)) :
    Shows (displayOf displays r.fileId) r := by
  rw [mem_sortRows, tableRows_eq] at h
  obtain ⟨f, -, rfl⟩ := List.mem_map.1 h
  rw [SortedRow.join_fileId]
  exact shows_join ..

end Tagging
