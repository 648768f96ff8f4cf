import Tagging.Proofs.Number
import Tagging.Proofs.Store.Table
import Tagging.Store.Scratch

/-!
# When records are accepted

The exact conditions under which a write goes through, and what it leaves behind.

* `Admissible` — scores that tables can take all together: every query is registered, no key is
  taken, and no key occurs twice;
* `Memory.checkBatch_eq_ok_iff` — the tables in memory check just that, before they write anything;
* `runAll_addScore_eq_ok_iff` — so does a database, row by row while it writes, but it also insists
  on positive weights;
* `runAll_putDisplay_eq_ok_iff`, `runAll_addQuery_eq_ok_iff` — display entries and queries;
* `insertScores_insertScores_nil` — collecting accepted scores first and writing them afterwards
  comes to the same as writing them one by one;
* `Memory.applyBatch_cases`, `Relational.applyBatch_cases` and their like — a call is accepted, with
  what it leaves, or changes nothing;
* `Memory.applyBatch_eq_ok_iff`, `Relational.applyBatch_eq_ok_iff` — when just it is accepted.
-/

namespace Tagging

/-! ## Scores that go together -/

/-- The scores can be taken all together where the queries `registered` are known and the keys
`taken` are in use. -/
structure Admissible (registered : QueryId → Bool) (taken : ScoreKey → Bool)
    (rows : List ScoreRow) : Prop where
  /-- Every score is for a registered query. -/
  registered : ∀ row ∈ rows, registered row.queryId = true
  /-- No key is taken. -/
  fresh : ∀ row ∈ rows, taken row.key = false
  /-- No key occurs twice. -/
  distinct : (rows.map ScoreRow.key).Nodup

theorem admissible_nil (registered : QueryId → Bool) (taken : ScoreKey → Bool) :
    Admissible registered taken [] :=
  ⟨by simp, by simp, List.nodup_nil⟩

/-- Scores go together if the first one can be taken, and the others after it. -/
theorem admissible_cons {registered : QueryId → Bool} {taken : ScoreKey → Bool} {row : ScoreRow}
    {rest : List ScoreRow} :
    Admissible registered taken (row :: rest) ↔
      registered row.queryId = true ∧ taken row.key = false ∧
        Admissible registered (fun k => decide (k = row.key) || taken k) rest := by
  constructor
  · rintro ⟨hreg, hfresh, hdistinct⟩
    obtain ⟨hnot, hrest⟩ := List.nodup_cons.1 hdistinct
    refine ⟨hreg row (List.mem_cons_self ..), hfresh row (List.mem_cons_self ..),
      fun r hr => hreg r (List.mem_cons_of_mem _ hr), ?_, hrest⟩
    intro r hr
    have hne : r.key ≠ row.key := fun heq => hnot (heq ▸ List.mem_map_of_mem hr)
    rw [Bool.or_eq_false_iff]
    exact ⟨decide_eq_false hne, hfresh r (List.mem_cons_of_mem _ hr)⟩
  · rintro ⟨hreg, hfresh, ⟨hregs, hfreshs, hrest⟩⟩
    have hor := fun r hr => Bool.or_eq_false_iff.1 (hfreshs r hr)
    refine ⟨?_, ?_, List.nodup_cons.2 ⟨?_, hrest⟩⟩
    · intro r hr
      rcases List.mem_cons.1 hr with rfl | hr
      · exact hreg
      · exact hregs r hr
    · intro r hr
      rcases List.mem_cons.1 hr with rfl | hr
      · exact hfresh
      · exact (hor r hr).2
    · intro hmem
      obtain ⟨r, hr, heq⟩ := List.mem_map.1 hmem
      exact of_decide_eq_false (hor r hr).1 heq

/-- Scores go together if some of them can be taken, and the others after these. -/
theorem admissible_append {registered : QueryId → Bool} {taken : ScoreKey → Bool}
    {rows later : List ScoreRow} :
    Admissible registered taken (rows ++ later) ↔
      Admissible registered taken rows ∧
        Admissible registered (fun k => decide (k ∈ rows.map ScoreRow.key) || taken k) later := by
  constructor
  · rintro ⟨hreg, hfresh, hdistinct⟩
    rw [List.forall_mem_append] at hreg hfresh
    rw [List.map_append, List.nodup_append] at hdistinct
    obtain ⟨hrows, hlater, hdisjoint⟩ := hdistinct
    refine ⟨⟨hreg.1, hfresh.1, hrows⟩, hreg.2, fun r hr => ?_, hlater⟩
    rw [Bool.or_eq_false_iff, decide_eq_false_iff_not]
    exact ⟨fun hmem => hdisjoint _ hmem _ (List.mem_map_of_mem hr) rfl, hfresh.2 r hr⟩
  · rintro ⟨⟨hreg, hfresh, hrows⟩, hregs, hfreshs, hlater⟩
    have hor := fun r hr => Bool.or_eq_false_iff.1 (hfreshs r hr)
    refine ⟨List.forall_mem_append.2 ⟨hreg, hregs⟩,
      List.forall_mem_append.2 ⟨hfresh, fun r hr => (hor r hr).2⟩, ?_⟩
    rw [List.map_append, List.nodup_append]
    refine ⟨hrows, hlater, fun key hkey key' hkey' heq => ?_⟩
    obtain ⟨r, hr, rfl⟩ := List.mem_map.1 hkey'
    exact of_decide_eq_false (hor r hr).1 (heq ▸ hkey)

/-- Whether scores go together does not depend on their order. -/
theorem Admissible.perm {registered : QueryId → Bool} {taken : ScoreKey → Bool}
    {rows rows' : List ScoreRow} (h : Admissible registered taken rows) (hperm : rows.Perm rows') :
    Admissible registered taken rows' where
  registered := fun row hrow => h.registered row (hperm.mem_iff.2 hrow)
  fresh := fun row hrow => h.fresh row (hperm.mem_iff.2 hrow)
  distinct := (hperm.map ScoreRow.key).nodup_iff.1 h.distinct

/-- The scores of an admissible list are added one by one to what a table holds. -/
theorem Admissible.mem_insertScores {registered : QueryId → Bool} {table : ScoreTable}
    {rows : List ScoreRow} (h : Admissible registered (hasScore table) rows)
    (hasc : Ascending keyLt table) {p : ScoreKey × Double} :
    p ∈ insertScores table (rows.map ScoreRow.entry) ↔
      p ∈ table ∨ p ∈ rows.map ScoreRow.entry := by
  refine Tagging.mem_insertScores hasc ?_ (by rw [map_fst_map_entry]; exact h.distinct)
  intro q hq
  obtain ⟨row, hrow, rfl⟩ := List.mem_map.1 hq
  exact h.fresh row hrow

/-- No key of an admissible list and of what a table holds occurs twice. -/
theorem Admissible.nodup_append {registered : QueryId → Bool} {table : ScoreTable}
    {rows : List ScoreRow} (h : Admissible registered (hasScore table) rows)
    (hasc : Ascending keyLt table) :
    ((table ++ rows.map ScoreRow.entry).map Prod.fst).Nodup := by
  rw [List.map_append, map_fst_map_entry, List.nodup_append]
  refine ⟨hasc.nodup_keys keyOrder_keyLt, h.distinct, ?_⟩
  intro key hkey key' hkey' heq
  obtain ⟨row, hrow, rfl⟩ := List.mem_map.1 hkey'
  obtain ⟨p, hp, rfl⟩ := List.mem_map.1 hkey
  exact hasScore_eq_false_iff.1 (h.fresh row hrow) p hp heq

/-- **What an admissible list comes to in a table** is the disjoint union of the two. -/
theorem Admissible.perm_insertScores {registered : QueryId → Bool} {table : ScoreTable}
    {rows : List ScoreRow} (h : Admissible registered (hasScore table) rows)
    (hasc : Ascending keyLt table) :
    (insertScores table (rows.map ScoreRow.entry)).Perm (table ++ rows.map ScoreRow.entry) := by
  have hnodup := (ascending_insertScores (rows.map ScoreRow.entry) hasc).nodup keyOrder_keyLt
  refine (List.perm_ext_iff_of_nodup hnodup (.of_map Prod.fst (h.nodup_append hasc))).2 ?_
  intro p
  rw [h.mem_insertScores hasc, List.mem_append]

/-- **Collecting first comes to the same as writing one by one.** -/
theorem insertScores_insertScores_nil {registered : QueryId → Bool} {table : ScoreTable}
    {rows : List ScoreRow} (h : Admissible registered (hasScore table) rows)
    (hasc : Ascending keyLt table) :
    insertScores table (insertScores [] (rows.map ScoreRow.entry)) =
      insertScores table (rows.map ScoreRow.entry) := by
  have hnil : Ascending keyLt (insertScores [] (rows.map ScoreRow.entry)) :=
    ascending_insertScores _ Ascending.nil
  have hmem : ∀ p, p ∈ insertScores [] (rows.map ScoreRow.entry) ↔
      p ∈ rows.map ScoreRow.entry := by
    intro p
    rw [Tagging.mem_insertScores Ascending.nil (fun _ _ => rfl)
      (by rw [map_fst_map_entry]; exact h.distinct)]
    simp
  refine Ascending.ext keyOrder_keyLt (ascending_insertScores _ hasc)
    (ascending_insertScores _ hasc) ?_
  intro p
  rw [h.mem_insertScores hasc, Tagging.mem_insertScores hasc ?_ (hnil.nodup_keys keyOrder_keyLt),
    hmem]
  intro q hq
  obtain ⟨row, hrow, rfl⟩ := List.mem_map.1 ((hmem q).1 hq)
  exact h.fresh row hrow

/-! ## Answers -/

/-- A call that is answered with success did what it does if it is not refused. -/
theorem accepted_of_cases {σ : Type} {s : σ} {x : σ × Except StoreError Unit} {P : Prop}
    (hok : x.2 = .ok ()) (h : (∃ e, x = (s, .error e)) ∨ P) : P := by
  rcases h with ⟨e, rfl⟩ | h
  · exact absurd hok (by simp)
  · exact h

/-! ## Tables in memory -/

namespace Memory

theorem ensureWritable_eq_ok_iff {m : Memory} : m.ensureWritable = .ok () ↔ m.totals = none := by
  unfold ensureWritable
  cases m.totals <;> simp

theorem checkScore_eq_ok_iff {m : Memory} {row : ScoreRow} :
    m.checkScore row = .ok () ↔
      m.hasQuery row.queryId = true ∧ hasScore m.scores row.key = false := by
  unfold checkScore
  cases m.hasQuery row.queryId <;> cases hasScore m.scores row.key <;> simp

/-- **The tables in memory check whether scores go together**, with what is stored and with what
passed before, and collect them. -/
theorem checkBatch_eq_ok_iff {m : Memory} {id : QueryId} {rows : List ScoreRow}
    {pending result : ScoreTable} (hasc : Ascending keyLt pending) :
    m.checkBatch id pending rows = .ok result ↔
      Admissible m.hasQuery (fun k => hasScore pending k || hasScore m.scores k) rows ∧
        result = insertScores pending (rows.map ScoreRow.entry) := by
  induction rows generalizing pending with
  | nil =>
    rw [checkBatch, Except.ok.injEq, List.map_nil]
    exact ⟨fun h => ⟨admissible_nil _ _, h.symm⟩, fun h => h.2.symm⟩
  | cons row rest ih =>
    have hnext : (fun k => hasScore (Tagging.insertScore row.key row.weight pending) k ||
        hasScore m.scores k) =
        fun k => decide (k = row.key) || (hasScore pending k || hasScore m.scores k) := by
      funext k
      rw [hasScore_insertScore hasc, Bool.or_assoc]
    rw [checkBatch, admissible_cons]
    cases hc : m.checkScore row with
    | error e =>
      have hno : ¬ (m.hasQuery row.queryId = true ∧ hasScore m.scores row.key = false) := by
        rw [← checkScore_eq_ok_iff, hc]
        simp
      refine ⟨fun h => absurd h (by simp), ?_⟩
      rintro ⟨⟨hreg, hfresh, -⟩, -⟩
      exact absurd ⟨hreg, (Bool.or_eq_false_iff.1 hfresh).2⟩ hno
    | ok u =>
      obtain ⟨hreg, hstored⟩ := checkScore_eq_ok_iff.1 hc
      cases hp : hasScore pending row.key with
      | true => simp
      | false =>
        simp only [Bool.false_eq_true, if_false]
        have hasc' := hasc.insertBy keyOrder_keyLt row.key row.weight
        rw [@ih (Tagging.insertScore row.key row.weight pending) hasc', hnext]
        simp only [hreg, hstored, Bool.or_false, true_and, List.map_cons]
        rfl

theorem hasQuery_insertQueries (records qs : List QueryRecord) (id : QueryId) :
    (records.foldl (fun qs r => putBy QueryRecord.id r qs) qs).any (fun q => decide (q.id = id)) =
      (qs.any (fun q => decide (q.id = id)) || records.any (fun q => decide (q.id = id))) := by
  induction records generalizing qs with
  | nil => simp
  | cons r rest ih => rw [List.foldl_cons, ih, any_putBy, List.any_cons, Bool.or_assoc]

theorem registered?_eq_none_iff {m : Memory} {records : List QueryRecord} :
    m.registered? records = none ↔ ∀ r ∈ records, m.hasQuery r.id = false := by
  rw [registered?, List.find?_eq_none]
  simp only [Bool.not_eq_true]

/-! ### Accepted or unchanged -/

theorem insertQueries_cases (m : Memory) (records : List QueryRecord) :
    (∃ e, m.insertQueries records = (m, .error e)) ∨
      m.totals = none ∧ (∀ r ∈ records, m.hasQuery r.id = false) ∧
        m.insertQueries records = ({ m with
          queries := records.foldl (fun qs r => putBy QueryRecord.id r qs) m.queries },
          .ok ()) := by
  rw [insertQueries]
  cases hw : m.ensureWritable with
  | error e => exact Or.inl ⟨e, rfl⟩
  | ok u =>
    cases hr : m.registered? records with
    | some r => exact Or.inl ⟨_, rfl⟩
    | none => exact Or.inr ⟨ensureWritable_eq_ok_iff.1 hw, registered?_eq_none_iff.1 hr, rfl⟩

theorem insertScore_cases (m : Memory) (row : ScoreRow) :
    (∃ e, m.insertScore row = (m, .error e)) ∨
      m.totals = none ∧ Admissible m.hasQuery (hasScore m.scores) [row] ∧
        m.insertScore row = ({ m with
          scores := Tagging.insertScore row.key row.weight m.scores }, .ok ()) := by
  rw [insertScore]
  cases hw : m.ensureWritable with
  | error e => exact Or.inl ⟨e, rfl⟩
  | ok u =>
    cases hc : m.checkScore row with
    | error e => exact Or.inl ⟨e, rfl⟩
    | ok u =>
      obtain ⟨hreg, hfresh⟩ := checkScore_eq_ok_iff.1 hc
      exact Or.inr ⟨ensureWritable_eq_ok_iff.1 hw,
        admissible_cons.2 ⟨hreg, hfresh, admissible_nil _ _⟩, rfl⟩

theorem upsertDisplay_cases (m : Memory) (entry : DisplayEntry) :
    (∃ e, m.upsertDisplay entry = (m, .error e)) ∨
      m.totals = none ∧ m.upsertDisplay entry =
        ({ m with displays := putDisplay m.displays entry }, .ok ()) := by
  rw [upsertDisplay]
  cases hw : m.ensureWritable with
  | error e => exact Or.inl ⟨e, rfl⟩
  | ok u => exact Or.inr ⟨ensureWritable_eq_ok_iff.1 hw, rfl⟩

/-- **A batch is accepted as a whole or not at all.** -/
theorem applyBatch_cases {m : Memory} (hasc : Ascending keyLt m.scores) (batch : ScoreBatch) :
    (∃ e, m.applyBatch batch = (m, .error e)) ∨
      m.totals = none ∧ Admissible m.hasQuery (hasScore m.scores) batch.scores ∧
        m.applyBatch batch = ({ m with
          displays := batch.displays.foldl putDisplay m.displays
          scores := insertScores m.scores (batch.scores.map ScoreRow.entry) }, .ok ()) := by
  rw [applyBatch]
  cases hw : m.ensureWritable with
  | error e => exact Or.inl ⟨e, rfl⟩
  | ok u =>
    cases hc : m.checkBatch batch.queryId [] batch.scores with
    | error e => exact Or.inl ⟨e, rfl⟩
    | ok pending =>
      obtain ⟨hadm, rfl⟩ := (checkBatch_eq_ok_iff Ascending.nil).1 hc
      have hadm' : Admissible m.hasQuery (hasScore m.scores) batch.scores := hadm
      refine Or.inr ⟨ensureWritable_eq_ok_iff.1 hw, hadm', ?_⟩
      simp only [insertScores_insertScores_nil hadm' hasc]

/-! ### Exactly when -/

theorem insertQueries_eq_ok_iff {m : Memory} {records : List QueryRecord} :
    (m.insertQueries records).2 = .ok () ↔
      m.totals = none ∧ ∀ r ∈ records, m.hasQuery r.id = false := by
  constructor
  · intro h
    obtain ⟨hopen, hnew, -⟩ := accepted_of_cases h (m.insertQueries_cases records)
    exact ⟨hopen, hnew⟩
  · rintro ⟨hopen, hnew⟩
    rw [insertQueries, ensureWritable_eq_ok_iff.2 hopen]
    simp only [registered?_eq_none_iff.2 hnew]

theorem applyBatch_eq_ok_iff {m : Memory} {batch : ScoreBatch} :
    (m.applyBatch batch).2 = .ok () ↔
      m.totals = none ∧ Admissible m.hasQuery (hasScore m.scores) batch.scores := by
  have hcheck : ∀ pending, m.checkBatch batch.queryId [] batch.scores = .ok pending ↔
      Admissible m.hasQuery (hasScore m.scores) batch.scores ∧
        pending = insertScores [] (batch.scores.map ScoreRow.entry) :=
    fun _ => checkBatch_eq_ok_iff Ascending.nil
  rw [applyBatch]
  constructor
  · intro h
    cases hw : m.ensureWritable with
    | error e =>
      rw [hw] at h
      exact absurd h (by simp)
    | ok u =>
      cases hc : m.checkBatch batch.queryId [] batch.scores with
      | error e =>
        rw [hw, hc] at h
        exact absurd h (by simp)
      | ok pending => exact ⟨ensureWritable_eq_ok_iff.1 hw, ((hcheck pending).1 hc).1⟩
  · rintro ⟨hopen, hadm⟩
    rw [ensureWritable_eq_ok_iff.2 hopen, (hcheck _).2 ⟨hadm, rfl⟩]

end Memory

/-! ## Tables of a database -/

theorem addScore_eq_ok_iff {t t' : Tables} {row : ScoreRow} :
    t.addScore row = .ok t' ↔
      row.weight > 0 ∧ hasScore t.scores row.key = false ∧ t.hasQuery row.queryId = true ∧
        t' = { t with scores := insertScore row.key row.weight t.scores } := by
  unfold Tables.addScore
  by_cases hpos : row.weight > 0
  · rw [if_neg (by rw [Number.isNaN_eq_false_of_pos hpos]; simp), if_neg (by simp [hpos])]
    cases hasScore t.scores row.key with
    | true => simp
    | false =>
      cases t.hasQuery row.queryId with
      | false => simp
      | true => simp [hpos, eq_comm]
  · refine ⟨fun h => ?_, fun h => absurd h.1 hpos⟩
    split at h
    · exact absurd h (by simp)
    · rw [if_pos (by simp [hpos])] at h
      exact absurd h (by simp)

/-- **A database checks whether scores go together** as it writes them; all weights have to be
positive. -/
theorem runAll_addScore_eq_ok_iff {t t' : Tables} {rows : List ScoreRow}
    (hasc : Ascending keyLt t.scores) :
    runAll Tables.addScore t rows = .ok t' ↔
      (∀ row ∈ rows, row.weight > 0) ∧ Admissible t.hasQuery (hasScore t.scores) rows ∧
        t' = { t with scores := insertScores t.scores (rows.map ScoreRow.entry) } := by
  induction rows generalizing t with
  | nil =>
    rw [runAll, Except.ok.injEq]
    exact ⟨fun h => ⟨by simp, admissible_nil _ _, h.symm⟩, fun h => h.2.2.symm⟩
  | cons row rest ih =>
    rw [runAll, admissible_cons, List.forall_mem_cons]
    cases hadd : t.addScore row with
    | error e =>
      have hno : ∀ t'', t.addScore row ≠ .ok t'' := by
        intro t''
        rw [hadd]
        simp
      refine ⟨fun h => absurd h (by simp), ?_⟩
      rintro ⟨⟨hpos, -⟩, ⟨hreg, hfresh, -⟩, -⟩
      exact absurd (addScore_eq_ok_iff.2 ⟨hpos, hfresh, hreg, rfl⟩) (hno _)
    | ok t₁ =>
      obtain ⟨hpos, hfresh, hreg, rfl⟩ := addScore_eq_ok_iff.1 hadd
      have hnext : hasScore (insertScore row.key row.weight t.scores) =
          fun k => decide (k = row.key) || hasScore t.scores k :=
        funext fun k => hasScore_insertScore hasc row.key row.weight k
      refine (ih (hasc.insertBy keyOrder_keyLt row.key row.weight)).trans ?_
      rw [hnext]
      simp only [hpos, hfresh, hreg, true_and, List.map_cons]
      rfl

/-- A database takes display entries whose addresses fit into its columns. -/
theorem runAll_putDisplay_eq_ok_iff {t t' : Tables} {entries : List DisplayEntry} :
    runAll Tables.putDisplay t entries = .ok t' ↔
      (∀ e ∈ entries, e.address ≤ Tables.maxAddress) ∧
        t' = { t with displays := entries.foldl putDisplay t.displays } := by
  induction entries generalizing t with
  | nil =>
    rw [runAll, Except.ok.injEq]
    exact ⟨fun h => ⟨by simp, h.symm⟩, fun h => h.2.symm⟩
  | cons e rest ih =>
    rw [runAll, List.forall_mem_cons, Tables.putDisplay]
    by_cases h : Tables.maxAddress < e.address
    · rw [if_pos h]
      exact ⟨fun hf => absurd hf (by simp), fun hf => absurd hf.1.1 (not_le.2 h)⟩
    · rw [if_neg h]
      refine ih.trans ?_
      simp only [not_lt.1 h, true_and, List.foldl_cons]

/-- A database registers queries of new, different ids. -/
theorem runAll_addQuery_eq_ok_iff {t t' : Tables} {records : List QueryRecord} :
    runAll Tables.addQuery t records = .ok t' ↔
      (∀ r ∈ records, t.hasQuery r.id = false) ∧ (records.map QueryRecord.id).Nodup ∧
        t' = { t with queries := t.queries ++ records } := by
  induction records generalizing t with
  | nil =>
    rw [runAll, Except.ok.injEq, List.append_nil]
    exact ⟨fun h => ⟨by simp, List.nodup_nil, h.symm⟩, fun h => h.2.2.symm⟩
  | cons r rest ih =>
    rw [runAll, List.forall_mem_cons, Tables.addQuery, List.map_cons, List.nodup_cons]
    cases hr : t.hasQuery r.id with
    | true => simp
    | false =>
      rw [if_neg (by simp)]
      refine ih.trans ?_
      have hnext : (∀ x ∈ rest,
          Tables.hasQuery { t with queries := t.queries ++ [r] } x.id = false) ↔
          (∀ x ∈ rest, t.hasQuery x.id = false) ∧ r.id ∉ rest.map QueryRecord.id := by
        simp only [Tables.hasQuery, List.any_append, Bool.or_eq_false_iff, List.any_cons,
          List.any_nil, Bool.or_false, decide_eq_false_iff_not, List.mem_map, not_exists, not_and]
        exact ⟨fun h => ⟨fun x hx => (h x hx).1, fun x hx heq => (h x hx).2 heq.symm⟩,
          fun h x hx => ⟨h.1 x hx, fun heq => h.2 x hx heq.symm⟩⟩
      rw [hnext, List.append_assoc, List.singleton_append]
      tauto

/-! ### Accepted or unchanged -/

namespace Relational

/-- **A transaction is kept as a whole or undone.** -/
theorem transaction_cases (r : Relational) (body : Tables → Except StoreError Tables) :
    (∃ e, r.transaction body = (r, .error e)) ∨
      r.aggregated = false ∧ ∃ t, body r.tables = .ok t ∧
        r.transaction body = ({ r with tables := t }, .ok ()) := by
  rw [transaction]
  cases ha : r.aggregated with
  | true => exact Or.inl ⟨_, rfl⟩
  | false =>
    cases hb : body r.tables with
    | error e => exact Or.inl ⟨e, rfl⟩
    | ok t => exact Or.inr ⟨rfl, t, rfl, rfl⟩

theorem insertQueries_cases (r : Relational) (records : List QueryRecord) :
    (∃ e, r.insertQueries records = (r, .error e)) ∨
      r.aggregated = false ∧ (∀ q ∈ records, r.tables.hasQuery q.id = false) ∧
        (records.map QueryRecord.id).Nodup ∧ r.insertQueries records =
          ({ r with tables := { r.tables with queries := r.tables.queries ++ records } },
            .ok ()) := by
  rcases r.transaction_cases (fun t => runAll Tables.addQuery t records) with h | ⟨ha, t, ht, h⟩
  · exact Or.inl h
  · obtain ⟨hnew, hdistinct, rfl⟩ := runAll_addQuery_eq_ok_iff.1 ht
    exact Or.inr ⟨ha, hnew, hdistinct, h⟩

theorem insertScore_cases (r : Relational) (row : ScoreRow) :
    (∃ e, r.insertScore row = (r, .error e)) ∨
      r.aggregated = false ∧ row.weight > 0 ∧
        Admissible r.tables.hasQuery (hasScore r.tables.scores) [row] ∧ r.insertScore row =
          ({ r with tables := { r.tables with
            scores := Tagging.insertScore row.key row.weight r.tables.scores } }, .ok ()) := by
  rcases r.transaction_cases (fun t => t.addScore row) with h | ⟨ha, t, ht, h⟩
  · exact Or.inl h
  · obtain ⟨hpos, hfresh, hreg, rfl⟩ := addScore_eq_ok_iff.1 ht
    exact Or.inr ⟨ha, hpos, admissible_cons.2 ⟨hreg, hfresh, admissible_nil _ _⟩, h⟩

theorem upsertDisplay_cases (r : Relational) (entry : DisplayEntry) :
    (∃ e, r.upsertDisplay entry = (r, .error e)) ∨
      r.aggregated = false ∧ entry.address ≤ Tables.maxAddress ∧ r.upsertDisplay entry =
        ({ r with tables := { r.tables with
          displays := putDisplay r.tables.displays entry } }, .ok ()) := by
  rcases r.transaction_cases (fun t => t.putDisplay entry) with h | ⟨ha, t, ht, h⟩
  · exact Or.inl h
  · rw [Tables.putDisplay] at ht
    split at ht
    · exact absurd ht (by simp)
    · rename_i hle
      cases ht
      exact Or.inr ⟨ha, not_lt.1 hle, h⟩

/-- **A batch is accepted as a whole or not at all.** -/
theorem applyBatch_cases {r : Relational} (hasc : Ascending keyLt r.tables.scores)
    (batch : ScoreBatch) :
    (∃ e, r.applyBatch batch = (r, .error e)) ∨
      r.aggregated = false ∧ (∀ e ∈ batch.displays, e.address ≤ Tables.maxAddress) ∧
        (∀ row ∈ batch.scores, row.weight > 0) ∧
        Admissible r.tables.hasQuery (hasScore r.tables.scores) batch.scores ∧
        r.applyBatch batch = ({ r with tables := { r.tables with
          displays := batch.displays.foldl putDisplay r.tables.displays
          scores := insertScores r.tables.scores (batch.scores.map ScoreRow.entry) } },
          .ok ()) := by
  rw [applyBatch]
  refine (r.transaction_cases _).imp id ?_
  rintro ⟨ha, t, ht, h⟩
  cases hd : runAll Tables.putDisplay r.tables batch.displays with
  | error e =>
    rw [hd] at ht
    exact absurd ht (by simp)
  | ok t₁ =>
    rw [hd] at ht
    obtain ⟨haddr, ht₁⟩ := runAll_putDisplay_eq_ok_iff.1 hd
    have hasc₁ : Ascending keyLt t₁.scores := by rw [ht₁]; exact hasc
    obtain ⟨hpos, hadm, rfl⟩ := (runAll_addScore_eq_ok_iff hasc₁).1 ht
    subst ht₁
    exact ⟨ha, haddr, hpos, hadm, h⟩

/-! ### Exactly when -/

/-- A transaction over open tables comes to what its statements come to. -/
theorem transaction_eq_ok {r : Relational} {body : Tables → Except StoreError Tables}
    {t : Tables} (hopen : r.aggregated = false) (hbody : body r.tables = .ok t) :
    r.transaction body = ({ r with tables := t }, .ok ()) := by
  rw [transaction, if_neg (by simp [hopen]), hbody]

theorem insertQueries_eq_ok_iff {r : Relational} {records : List QueryRecord} :
    (r.insertQueries records).2 = .ok () ↔ r.aggregated = false ∧
      (∀ q ∈ records, r.tables.hasQuery q.id = false) ∧
        (records.map QueryRecord.id).Nodup := by
  constructor
  · intro h
    obtain ⟨hopen, hnew, hdistinct, -⟩ := accepted_of_cases h (r.insertQueries_cases records)
    exact ⟨hopen, hnew, hdistinct⟩
  · rintro ⟨hopen, hnew, hdistinct⟩
    rw [insertQueries, transaction_eq_ok hopen (runAll_addQuery_eq_ok_iff.2 ⟨hnew, hdistinct, rfl⟩)]

theorem applyBatch_eq_ok_iff {r : Relational} (hasc : Ascending keyLt r.tables.scores)
    {batch : ScoreBatch} :
    (r.applyBatch batch).2 = .ok () ↔ r.aggregated = false ∧
      (∀ e ∈ batch.displays, e.address ≤ Tables.maxAddress) ∧
        (∀ row ∈ batch.scores, row.weight > 0) ∧
          Admissible r.tables.hasQuery (hasScore r.tables.scores) batch.scores := by
  constructor
  · intro h
    obtain ⟨hopen, haddr, hpos, hadm, -⟩ :=
      accepted_of_cases h (Relational.applyBatch_cases hasc batch)
    exact ⟨hopen, haddr, hpos, hadm⟩
  · rintro ⟨hopen, haddr, hpos, hadm⟩
    let t : Tables :=
      { r.tables with displays := batch.displays.foldl putDisplay r.tables.displays }
    have hdisplays : runAll Tables.putDisplay r.tables batch.displays = .ok t :=
      runAll_putDisplay_eq_ok_iff.2 ⟨haddr, rfl⟩
    have hscores := (@runAll_addScore_eq_ok_iff t _ batch.scores hasc).2 ⟨hpos, hadm, rfl⟩
    rw [applyBatch, transaction_eq_ok hopen (by rw [hdisplays]; exact hscores)]

end Relational

end Tagging
