import Tagging.Proofs.Store.History
import Tagging.Proofs.Store.Refusal

/-!
# The backends agree

A history of calls is answered alike by tables in memory and by tables of a database, but for the
sums of weights.

* `StoreCall.Regular` — the calls for which this holds: positive weights, addresses that a column
  holds, and no id twice in one list of queries;
* `Concur`, `StoreReply.Concur`, `StoreReply.refusal` — what it means that two answers agree, and
  how a call is refused;
* `Alike` — tables of the two backends that hold the same;
* `Alike.perform` — **one call** keeps them alike and is answered alike;
* `backends_concur` — **a history** of such calls is answered alike from empty tables on.
-/

namespace Tagging

/-! ## Regular calls -/

/-- Are the weights positive, do the addresses fit into a column, and does no list of queries repeat
an id? -/
def StoreCall.Regular : StoreCall → Prop
  | .insertQueries records => (records.map QueryRecord.id).Nodup
  | .insertScore row => row.weight > 0
  | .upsertDisplay entry => entry.address ≤ Tables.maxAddress
  | .applyBatch batch =>
    (∀ row ∈ batch.scores, row.weight > 0) ∧ ∀ e ∈ batch.displays, e.address ≤ Tables.maxAddress
  | .aggregate | .rows => True

instance : DecidablePred StoreCall.Regular
  | .insertQueries records => inferInstanceAs (Decidable (records.map QueryRecord.id).Nodup)
  | .insertScore row => inferInstanceAs (Decidable (row.weight > 0))
  | .upsertDisplay entry => inferInstanceAs (Decidable (entry.address ≤ Tables.maxAddress))
  | .applyBatch batch => inferInstanceAs (Decidable ((∀ row ∈ batch.scores, row.weight > 0) ∧
      ∀ e ∈ batch.displays, e.address ≤ Tables.maxAddress))
  | .aggregate | .rows => inferInstanceAs (Decidable True)

/-! ## Agreement of answers -/

/-- Both results are values that belong together, or both are refusals of one kind: a clash, or an
argument that cannot be accepted. -/
inductive Concur {α : Type} (rel : α → α → Prop) :
    Except StoreError α → Except StoreError α → Prop where
  /-- Values. -/
  | ok {a b : α} (h : rel a b) : Concur rel (.ok a) (.ok b)
  /-- Refusals. -/
  | refused {e e' : StoreError} (same : e.kind = e'.kind)
      (kind : e.kind = .conflict ∨ e.kind = .invalidArgument) : Concur rel (.error e) (.error e')

/-- What a row says besides the total: the file, its name and place, its document, its weights. -/
def SortedRow.content (r : SortedRow) :
    String × String × String × Option Nat × List (QueryId × Double) :=
  (r.fileId, r.displayName, r.relativePath, r.address, r.weights)

/-- The content of a row does not depend on its total. -/
theorem SortedRow.content_join (f : String) (total total' : Double) (d : Option DisplayEntry)
    (ws : List (QueryId × Double)) :
    (SortedRow.join f total d ws).content = (SortedRow.join f total' d ws).content := by
  cases d <;> rfl

/-- The rows of memory and of a database say the same up to totals, and are equal, in order as well,
if both sums of the weights of each row are equal. -/
def SameRows (inMemory inDatabase : List SortedRow) : Prop :=
  (inMemory.map SortedRow.content).Perm (inDatabase.map SortedRow.content) ∧
    ((∀ r ∈ inMemory, Backend.memory.sum (r.weights.map Prod.snd) =
      Backend.sqlite.sum (r.weights.map Prod.snd)) → inMemory = inDatabase)

/-- The answers of memory and of a database agree. -/
inductive StoreReply.Concur : StoreReply → StoreReply → Prop where
  /-- Both write, or refuse alike. -/
  | written {a b : Except StoreError Unit} (h : Tagging.Concur Eq a b) :
      Concur (.written a) (.written b)
  /-- Both count the same, or refuse alike. -/
  | counted {a b : Except StoreError Nat} (h : Tagging.Concur Eq a b) :
      Concur (.counted a) (.counted b)
  /-- Both give the same rows, or refuse alike. -/
  | listed {a b : Except StoreError (List SortedRow)} (h : Tagging.Concur SameRows a b) :
      Concur (.listed a) (.listed b)

/-! ## Tables that hold the same -/

/-- The tables hold the same, and their totals are what each backend makes of the scores. -/
structure Alike (m : Memory) (r : Relational) : Prop where
  /-- The same queries are registered. -/
  queries : m.hasQuery = r.tables.hasQuery
  /-- The scores are the same. -/
  scores : r.tables.scores = m.scores
  /-- So are the display entries. -/
  displays : r.tables.displays = m.displays
  /-- Keys ascend. -/
  ascending : Ascending keyLt m.scores
  /-- Every score is for a registered query. -/
  registered : ∀ key, hasScore m.scores key = true → m.hasQuery key.2 = true
  /-- Either both have totals, or none has. -/
  totals : m.totals = if r.aggregated then some (totalsBy Backend.memory.sum m.scores) else none
  /-- The totals of the database. -/
  sums : r.aggregated = true → r.tables.totals = totalsBy Backend.sqlite.sum m.scores

namespace Alike

variable {m : Memory} {r : Relational}

theorem empty : Alike Memory.empty Relational.empty where
  queries := rfl
  scores := rfl
  displays := rfl
  ascending := Ascending.nil
  registered := fun _ h => absurd h (by simp [Memory.empty, hasScore])
  totals := rfl
  sums := fun h => absurd h (by simp [Relational.empty])

theorem isSome_totals (h : Alike m r) : m.totals.isSome = r.aggregated := by
  rw [h.totals]
  cases r.aggregated <;> rfl

theorem registered_tables (h : Alike m r) (key : ScoreKey)
    (hkey : hasScore r.tables.scores key = true) : r.tables.hasQuery key.2 = true := by
  rw [h.scores] at hkey
  exact h.queries ▸ h.registered key hkey

/-- Results of one kind of refusal concur. -/
theorem concur_of_kindOf {a b : Except StoreError Unit} (h : kindOf a = kindOf b)
    (hkinds : ∀ k, kindOf a = some k → k = .conflict ∨ k = .invalidArgument) :
    Concur Eq a b := by
  cases a with
  | ok u => cases b with
    | ok u' => exact .ok rfl
    | error e' => exact absurd h (by simp [kindOf])
  | error e => cases b with
    | ok u' => exact absurd h (by simp [kindOf])
    | error e' => exact .refused (Option.some.inj h) (hkinds e.kind rfl)

/-- A write is settled for both backends at once.  Closed tables refuse it, and open ones as `kind`
says; refused writes change nothing, so if what both accept keeps the tables alike, the write
does. -/
theorem settle {P Q : Prop} {kind : Option StoreError.Kind} (h : Alike m r)
    {x : Memory × Except StoreError Unit} {y : Relational × Except StoreError Unit} {m' : Memory}
    {r' : Relational} (hkinds : ∀ k, kind = some k → k = .conflict ∨ k = .invalidArgument)
    (hm : kindOf x.2 = if m.totals.isSome then some .invalidArgument else kind)
    (hr : kindOf y.2 = if r.aggregated then some .invalidArgument else kind)
    (hx : (∃ e, x = (m, .error e)) ∨ P ∧ x = (m', .ok ()))
    (hy : (∃ e, y = (r, .error e)) ∨ Q ∧ y = (r', .ok ()))
    (hok : P → Q → Alike m' r') : Alike x.1 y.1 ∧ Concur Eq x.2 y.2 := by
  have hkind : kindOf x.2 = kindOf y.2 := by rw [hm, hr, h.isSome_totals]
  refine ⟨?_, concur_of_kindOf hkind fun k hk => ?_⟩
  · rcases hx with ⟨e, rfl⟩ | ⟨hP, rfl⟩
    · rcases hy with ⟨e', rfl⟩ | ⟨-, rfl⟩
      · exact h
      · exact absurd hkind (by simp [kindOf])
    · rcases hy with ⟨e', rfl⟩ | ⟨hQ, rfl⟩
      · exact absurd hkind (by simp [kindOf])
      · exact hok hP hQ
  · rw [hm] at hk
    split_ifs at hk
    · exact Or.inr (Option.some.inj hk).symm
    · exact hkinds k hk

/-- The same records written to open tables keep them alike. -/
theorem write (h : Alike m r) (hopen : r.aggregated = false) {qs qs' : List QueryRecord}
    {scores scores' : ScoreTable} {displays displays' : List DisplayEntry}
    (hscores : scores' = scores) (hdisplays : displays' = displays)
    (queries : ∀ id, qs.any (fun q => q.id = id) = qs'.any (fun q => q.id = id))
    (ascending : Ascending keyLt scores)
    (registered : ∀ key, hasScore scores key = true → qs.any (fun q => q.id = key.2) = true) :
    Alike ⟨qs, scores, displays, m.totals⟩
      ⟨⟨qs', displays', scores', r.tables.totals⟩, r.aggregated⟩ where
  queries := funext queries
  scores := hscores
  displays := hdisplays
  ascending := ascending
  registered := registered
  totals := by
    have hnone := h.totals
    rw [hopen] at hnone ⊢
    exact hnone
  sums := fun hclosed => absurd (hopen.symm.trans hclosed) (by simp)

/-- Scores that go together with those of a table belong to registered queries, as those do. -/
theorem registered_insertScores (h : Alike m r) {rows : List ScoreRow}
    (hadm : Admissible m.hasQuery (hasScore m.scores) rows) (key : ScoreKey)
    (hkey : hasScore (insertScores m.scores (rows.map ScoreRow.entry)) key = true) :
    m.hasQuery key.2 = true := by
  obtain ⟨w, hw⟩ := hasScore_iff.1 hkey
  rcases (hadm.mem_insertScores h.ascending).1 hw with hold | hnew
  · exact h.registered key (hasScore_iff.2 ⟨w, hold⟩)
  · obtain ⟨row, hrow, heq⟩ := List.mem_map.1 hnew
    have hid : row.queryId = key.2 := congrArg (fun p => p.1.2) heq
    exact hid ▸ hadm.registered row hrow

/-! ## One call -/

theorem insertQueries (h : Alike m r) {records : List QueryRecord}
    (hdistinct : (records.map QueryRecord.id).Nodup) :
    Alike (m.insertQueries records).1 (r.insertQueries records).1 ∧
      Concur Eq (m.insertQueries records).2 (r.insertQueries records).2 := by
  have hm := m.kindOf_insertQueries records
  have hr := r.kindOf_insertQueries hdistinct
  rw [← h.queries] at hr
  refine h.settle (fun k hk => ?_) hm hr ((m.insertQueries_cases records).imp_right And.right)
    ((r.insertQueries_cases records).imp_right fun ⟨hopen, _, _, hacc⟩ => ⟨hopen, hacc⟩) ?_
  · split_ifs at hk
    exact Or.inl (Option.some.inj hk).symm
  · intro _ hopen
    refine h.write hopen h.scores h.displays ?_ h.ascending ?_
    · intro id
      rw [Memory.hasQuery_insertQueries, List.any_append]
      exact congrArg (· || _) (congrFun h.queries id)
    · intro key hkey
      rw [Memory.hasQuery_insertQueries, Bool.or_eq_true]
      exact Or.inl (h.registered key hkey)

theorem insertScore (h : Alike m r) {row : ScoreRow} (hpos : row.weight > 0) :
    Alike (m.insertScore row).1 (r.insertScore row).1 ∧
      Concur Eq (m.insertScore row).2 (r.insertScore row).2 := by
  have hm := m.kindOf_insertScore row
  have hr := r.kindOf_insertScore hpos h.registered_tables
  rw [← h.queries, h.scores] at hr
  refine h.settle (fun k => refusal_kind) hm hr ((m.insertScore_cases row).imp_right And.right)
    ((r.insertScore_cases row).imp_right fun ⟨hopen, _, _, hacc⟩ => ⟨hopen, hacc⟩) ?_
  intro hadm hopen
  exact h.write hopen (congrArg _ h.scores) h.displays (congrFun h.queries)
    (h.ascending.insertBy keyOrder_keyLt row.key row.weight) (h.registered_insertScores hadm)

theorem upsertDisplay (h : Alike m r) {entry : DisplayEntry}
    (haddr : entry.address ≤ Tables.maxAddress) :
    Alike (m.upsertDisplay entry).1 (r.upsertDisplay entry).1 ∧
      Concur Eq (m.upsertDisplay entry).2 (r.upsertDisplay entry).2 := by
  have hm := m.kindOf_upsertDisplay entry
  have hr := r.kindOf_upsertDisplay haddr
  refine h.settle (fun k hk => absurd hk (by simp)) hm hr (m.upsertDisplay_cases entry)
    ((r.upsertDisplay_cases entry).imp_right fun ⟨hopen, _, hacc⟩ => ⟨hopen, hacc⟩) ?_
  intro _ hopen
  exact h.write hopen h.scores (congrArg (putDisplay · entry) h.displays) (congrFun h.queries)
    h.ascending h.registered

theorem applyBatch (h : Alike m r) {batch : ScoreBatch}
    (hpos : ∀ row ∈ batch.scores, row.weight > 0)
    (haddr : ∀ e ∈ batch.displays, e.address ≤ Tables.maxAddress) :
    Alike (m.applyBatch batch).1 (r.applyBatch batch).1 ∧
      Concur Eq (m.applyBatch batch).2 (r.applyBatch batch).2 := by
  have hasc : Ascending keyLt r.tables.scores := h.scores ▸ h.ascending
  have hm := m.kindOf_applyBatch batch
  have hr := Relational.kindOf_applyBatch hasc hpos haddr h.registered_tables
  rw [← h.queries, h.scores] at hr
  refine h.settle (fun k => firstRefusal_kind) hm hr
    ((Memory.applyBatch_cases h.ascending batch).imp_right And.right)
    ((Relational.applyBatch_cases hasc batch).imp_right
      fun ⟨hopen, _, _, _, hacc⟩ => ⟨hopen, hacc⟩) ?_
  intro hadm hopen
  exact h.write hopen (congrArg (insertScores · _) h.scores)
    (congrArg (batch.displays.foldl putDisplay ·) h.displays) (congrFun h.queries)
    (ascending_insertScores _ h.ascending) (h.registered_insertScores hadm)

/-- Adding up counts the same files, each backend with its own sums. -/
theorem aggregate (h : Alike m r) :
    Alike m.aggregate.1 r.aggregate.1 ∧ Concur Eq m.aggregate.2 r.aggregate.2 := by
  have hm : Memory.runTotals [] m.scores = totalsBy Backend.memory.sum m.scores :=
    runTotals_eq h.ascending
  constructor
  · exact ⟨h.queries, h.scores, h.displays, h.ascending, h.registered, congrArg some hm,
      fun _ => congrArg (totalsBy Backend.sqlite.sum) h.scores⟩
  · refine .ok ?_
    rw [hm, h.scores, totalsBy, List.length_map, List.length_map]

/-- Rows read from equal tables say the same; where the sums are equal, they are the same. -/
theorem sameRows (displays : List DisplayEntry) (table : ScoreTable) :
    SameRows (sortRows (tableRows Backend.memory.sum displays table))
      (sortRows (tableRows Backend.sqlite.sum displays table)) := by
  constructor
  · have hcontent : ∀ sum : List Double → Double,
        (tableRows sum displays table).map SortedRow.content =
          (Relational.filesOf table).map (fun f =>
            SortedRow.content (SortedRow.join f 0 (displayOf displays f) (weightsOf table f))) := by
      intro sum
      rw [tableRows_eq, List.map_map]
      exact List.map_congr_left fun f _ => SortedRow.content_join ..
    refine ((perm_sortRows _).map _).trans (.trans ?_ ((perm_sortRows _).map _).symm)
    rw [hcontent, hcontent]
  · intro hsums
    have hrows : tableRows Backend.memory.sum displays table =
        tableRows Backend.sqlite.sum displays table := by
      rw [tableRows_eq, tableRows_eq]
      refine List.map_congr_left fun f hf => ?_
      have hmem : SortedRow.join f (Backend.memory.sum ((weightsOf table f).map Prod.snd))
          (displayOf displays f) (weightsOf table f) ∈
            sortRows (tableRows Backend.memory.sum displays table) := by
        rw [mem_sortRows, tableRows_eq]
        exact List.mem_map_of_mem hf
      have hsum := hsums _ hmem
      rw [SortedRow.join_weights] at hsum
      rw [hsum]
    rw [hrows]

theorem rows (h : Alike m r) : Concur SameRows m.rows r.rows := by
  unfold Memory.rows Relational.rows
  cases hclosed : r.aggregated with
  | false =>
    have hnone := h.totals
    rw [hclosed] at hnone
    rw [hnone]
    exact .refused rfl (Or.inr rfl)
  | true =>
    have hsome := h.totals
    rw [hclosed] at hsome
    rw [hsome, h.sums hclosed, h.displays, h.scores]
    exact .ok (sameRows m.displays m.scores)

/-- **One call** is answered alike, and leaves the tables alike. -/
theorem perform (h : Alike m r) {c : StoreCall} (hc : c.Regular) :
    ∃ m' r', (Store.perform (.memory m) c).1 = .memory m' ∧
      (Store.perform (.relational r) c).1 = .relational r' ∧ Alike m' r' ∧
        (Store.perform (.memory m) c).2.Concur (Store.perform (.relational r) c).2 := by
  cases c with
  | insertQueries records =>
    obtain ⟨h', hreply⟩ := h.insertQueries hc
    exact ⟨_, _, rfl, rfl, h', .written hreply⟩
  | insertScore row =>
    obtain ⟨h', hreply⟩ := h.insertScore hc
    exact ⟨_, _, rfl, rfl, h', .written hreply⟩
  | upsertDisplay entry =>
    obtain ⟨h', hreply⟩ := h.upsertDisplay hc
    exact ⟨_, _, rfl, rfl, h', .written hreply⟩
  | applyBatch batch =>
    obtain ⟨h', hreply⟩ := h.applyBatch hc.1 hc.2
    exact ⟨_, _, rfl, rfl, h', .written hreply⟩
  | aggregate =>
    obtain ⟨h', hreply⟩ := h.aggregate
    exact ⟨_, _, rfl, rfl, h', .counted hreply⟩
  | rows => exact ⟨m, r, rfl, rfl, h, .listed h.rows⟩

/-! ## A history -/

/-- Alike tables answer every history of regular calls alike. -/
theorem performAll (h : Alike m r) {calls : List StoreCall} (hcalls : ∀ c ∈ calls, c.Regular) :
    List.Forall₂ (fun x y => x.1 = y.1 ∧ x.2.Concur y.2)
      (Store.performAll (.memory m) calls).2 (Store.performAll (.relational r) calls).2 := by
  induction calls generalizing m r with
  | nil => exact .nil
  | cons c rest ih =>
    obtain ⟨hc, hrest⟩ := List.forall_mem_cons.1 hcalls
    obtain ⟨m', r', hm', hr', h', hreply⟩ := h.perform hc
    rw [Store.performAll, Store.performAll, hm', hr']
    exact .cons ⟨rfl, hreply⟩ (ih h' hrest)

end Alike

/-- **The backends agree.**  Ask empty tables of both backends the same calls, in any order, refused
ones among them, with positive weights, addresses that a column holds, and no id twice in one list
of queries: then each call succeeds with both or is refused by both in the same way, as a clash or
as an argument that cannot be accepted; files are counted alike; and the rows say the same of the
same files, up to totals and order, which are the same wherever both sums are. -/
theorem backends_concur (calls : List StoreCall) (hcalls : ∀ c ∈ calls, c.Regular) :
    List.Forall₂ (fun x y => x.1 = y.1 ∧ x.2.Concur y.2)
      ((Store.empty .memory).performAll calls).2 ((Store.empty .sqlite).performAll calls).2 :=
  Alike.empty.performAll hcalls

/-- How a call is refused, if it is. -/
def StoreReply.refusal : StoreReply → Option StoreError.Kind
  | .written result => kindOf result
  | .counted result => kindOf result
  | .listed result => kindOf result

/-- Two queries, a batch that scores a file for a query nobody registered, one that is taken, the
same one again, and the rows: the second call is refused for its argument, the fourth as a clash,
and both files are listed, the one with the larger weight first. -/
theorem backends_concur_batches :
    let batch := fun q => ScoreBatch.mk q [⟨"a", "A", "a.txt", 7⟩] [⟨"a", q, 2⟩, ⟨"b", q, 0.5⟩]
    let calls := [.insertQueries [⟨1, "one", 10, 0⟩, ⟨2, "two", 10, 0⟩], .applyBatch (batch 3),
      .applyBatch (batch 2), .applyBatch (batch 2), .aggregate, .rows]
    (∀ c ∈ calls, StoreCall.Regular c) ∧
      List.Forall₂ (fun x y => x.1 = y.1 ∧ x.2.Concur y.2)
        ((Store.empty .memory).performAll calls).2 ((Store.empty .sqlite).performAll calls).2 ∧
      ∀ backend, ((Store.empty backend).performAll calls).2.map (fun x => x.2.refusal) =
          [none, some .invalidArgument, none, some .conflict, none, none] ∧
        ((Store.empty backend).performAll calls).1.rows = .ok
          [⟨"a", 2, "A", "a.txt", some 7, [(2, 2)]⟩, ⟨"b", 0.5, "b", "", none, [(2, 0.5)]⟩] := by
  intro batch calls
  have hcalls : ∀ c ∈ calls, c.Regular := by decide +kernel
  refine ⟨hcalls, backends_concur calls hcalls, fun backend => ⟨?_, ?_⟩⟩
  · cases backend <;> decide +kernel
  · have hsorted : sortRows [⟨"a", 2, "A", "a.txt", some 7, [(2, 2)]⟩,
        ⟨"b", 0.5, "b", "", none, [(2, 0.5)]⟩] = _ := List.mergeSort_of_pairwise (by decide +kernel)
    rw [← hsorted]
    cases backend <;> exact congrArg (Except.ok ∘ sortRows) (by decide +kernel)

end Tagging
