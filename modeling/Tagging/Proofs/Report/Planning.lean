import Mathlib.Data.List.Forall2
import Tagging.Proofs.Report.Budget
import Tagging.Proofs.Report.Locations
import Tagging.Proofs.Report.Snapshots

/-!
# The rows that a report plans

The snapshots of a static report are told by those it would write with links enough: the first ones
are written, and what comes behind them neither takes a place nor leaves a trace.  With that both
kinds of report follow one law: the links of the planned rows are the first of those that are
offered.

* `snapshotPlans`, `pairwise_snapshotPlans` — the snapshots of some rows, **no two at one place**;
* `SnapshotsPut`, `planStaticRows_spec` — **the first of them are written**, one after the other;
* `ReportOptions.offers` — the links that a report would take without a cap;
* `Writer.planRows_static_spec`, `Writer.planRows_spec` — **a report takes the first of the links
  that are offered**.
-/

namespace Tagging

/-! ## Static reports -/

/-- The snapshots of some rows if there were links enough: a place is taken by each of them. -/
def snapshotPlans (directory : Path) (suffix : String) (taken : List (List Component)) :
    List SortedRow → List (Option SnapshotPlan)
  | [] => []
  | r :: rest =>
    match snapshotPlan? directory suffix taken r with
    | none => none :: snapshotPlans directory suffix taken rest
    | some plan =>
      some plan :: snapshotPlans directory suffix (plan.location.components :: taken) rest

/-- The planned row of a row with its snapshot, if it has one. -/
def PlannedRow.withSnapshot (r : SortedRow) (plan : Option SnapshotPlan) : PlannedRow :=
  { PlannedRow.ofRow r with fileLink := plan.map SnapshotPlan.link }

/-- The links of a row with its snapshot, one for each column. -/
def snapshotLinks (queries : List NamedQuery) (plan : Option SnapshotPlan) :
    List (Option String) :=
  columns (plan.map SnapshotPlan.link) (queries.map fun _ => none)

section Static

variable {index : SearchIndex} {renderer : Renderer} {directory : Path} {suffix : String}
  {queries : List NamedQuery} {w w' : Workspace} {r : SortedRow} {rows : List SortedRow}

theorem length_snapshotPlans (taken : List (List Component)) :
    (snapshotPlans directory suffix taken rows).length = rows.length := by
  induction rows generalizing taken with
  | nil => rfl
  | cons r rest ih =>
    rw [snapshotPlans]
    split <;> simp [ih]

theorem length_keepFirst_snapshotPlans (n : Nat) (taken : List (List Component)) :
    (keepFirst n (snapshotPlans directory suffix taken rows)).length = rows.length := by
  rw [length_keepFirst, length_snapshotPlans]

/-- Each snapshot is planned from its row, with some places taken. -/
theorem exists_of_snapshotPlans {taken : List (List Component)} {i : Nat} {plan : SnapshotPlan}
    (h : (snapshotPlans directory suffix taken rows)[i]? = some (some plan)) :
    ∃ r taken', rows[i]? = some r ∧ snapshotPlan? directory suffix taken' r = some plan := by
  induction rows generalizing taken i with
  | nil => cases h
  | cons r rest ih =>
    rw [snapshotPlans] at h
    split at h
    · cases i with
      | zero => cases h
      | succ i => exact ih h
    · rename_i first hfirst
      cases i with
      | zero =>
        cases h
        exact ⟨r, taken, rfl, hfirst⟩
      | succ i => exact ih h

theorem of_snapshotPlans {taken : List (List Component)} {i : Nat} {plan : SnapshotPlan}
    (h : (snapshotPlans directory suffix taken rows)[i]? = some (some plan)) :
    ∃ r, rows[i]? = some r ∧ plan.Of directory suffix r := by
  obtain ⟨r, taken', hr, hplan⟩ := exists_of_snapshotPlans h
  exact ⟨r, hr, (snapshotPlan?_eq_some hplan).1⟩

/-- **No two snapshots lie at one place**, and none at a place that was taken before. -/
theorem pairwise_snapshotPlans (taken : List (List Component)) :
    (snapshotPlans directory suffix taken rows).reduceOption.Pairwise
        (fun p q => p.location.components ≠ q.location.components) ∧
      ∀ plan ∈ (snapshotPlans directory suffix taken rows).reduceOption,
        plan.location.components ∉ taken := by
  induction rows generalizing taken with
  | nil => simp [snapshotPlans]
  | cons r rest ih =>
    rw [snapshotPlans]
    split
    · simpa using ih taken
    rename_i first hfirst
    have hfree : first.location.components ∉ taken := by
      rw [(snapshotPlan?_eq_some hfirst).2]
      exact firstFreeLocation_not_mem taken
    obtain ⟨hdistinct, hnew⟩ := ih (first.location.components :: taken)
    rw [List.reduceOption_cons_of_some, List.pairwise_cons]
    refine ⟨⟨?_, hdistinct⟩, ?_⟩
    · intro plan hplan heq
      exact hnew plan hplan (heq ▸ List.mem_cons_self ..)
    · intro plan hplan
      rcases List.mem_cons.1 hplan with rfl | hplan
      · exact hfree
      · exact fun hmem => hnew plan hplan (List.mem_cons_of_mem _ hmem)

/-- The snapshots of some rows are written one after the other; other rows leave no trace. -/
inductive SnapshotsPut (index : SearchIndex) (renderer : Renderer) (directory : Path)
    (queries : List NamedQuery) :
    Workspace → List SortedRow → List (Option SnapshotPlan) → Workspace → Prop where
  /-- There are no more rows. -/
  | nil (w : Workspace) : SnapshotsPut index renderer directory queries w [] [] w
  /-- A row without a snapshot. -/
  | skip {w w' : Workspace} {r : SortedRow} {rest : List SortedRow}
      {plans : List (Option SnapshotPlan)}
      (later : SnapshotsPut index renderer directory queries w rest plans w') :
      SnapshotsPut index renderer directory queries w (r :: rest) (none :: plans) w'
  /-- A row with a snapshot. -/
  | put {w w₁ w' : Workspace} {r : SortedRow} {rest : List SortedRow} {plan : SnapshotPlan}
      {plans : List (Option SnapshotPlan)}
      (now : putSnapshot index renderer directory plan (matchedQueries queries r) w = (w₁, .ok ()))
      (later : SnapshotsPut index renderer directory queries w₁ rest plans w') :
      SnapshotsPut index renderer directory queries w (r :: rest) (some plan :: plans) w'

/-- **One row of a static report** takes a link for its snapshot, or leaves everything as it is. -/
theorem planStaticRow_cases {used final : Used} {row : PlannedRow}
    (h : planStaticRow index renderer directory suffix queries used w r = (w', .ok (row, final))) :
    (∃ plan, snapshotPlan? directory suffix used.taken r = some plan ∧ used.budget.remaining ≠ 0 ∧
      putSnapshot index renderer directory plan (matchedQueries queries r) w = (w', .ok ()) ∧
      row = .withSnapshot r (some plan) ∧
      final = ⟨used.budget.spend 1, plan.location.components :: used.taken⟩) ∨
    ((used.budget.remaining = 0 ∨ snapshotPlan? directory suffix used.taken r = none) ∧
      w' = w ∧ row = .withSnapshot r none ∧ final = used) := by
  unfold planStaticRow at h
  cases hplan : snapshotPlan? directory suffix used.taken r with
  | none =>
    rw [hplan] at h
    cases h
    exact .inr ⟨.inr rfl, rfl, rfl, rfl⟩
  | some plan =>
    rw [hplan] at h
    dsimp only at h
    rcases used.budget.take?_cases with ⟨hsome, htake⟩ | ⟨hzero, htake⟩
    · rw [htake] at h
      dsimp only at h
      split at h
      · cases h
      · rename_i hput
        cases h
        exact .inl ⟨plan, rfl, hsome, hput, rfl, rfl⟩
    · rw [htake] at h
      cases h
      exact .inr ⟨.inl hzero, rfl, rfl, rfl⟩

/-- A row that is skipped, as it has no snapshot or no link is left, takes no place that matters. -/
theorem snapshotPlans_skip {used : Used} {taken : List (List Component)}
    (htaken : used.budget.remaining ≠ 0 → used.taken = taken)
    (hwhy : used.budget.remaining = 0 ∨ snapshotPlan? directory suffix used.taken r = none)
    (rest : List SortedRow) :
    ∃ x taken', (x = none ∨ used.budget.remaining = 0) ∧
      (used.budget.remaining ≠ 0 → used.taken = taken') ∧
      snapshotPlans directory suffix taken (r :: rest) =
        x :: snapshotPlans directory suffix taken' rest := by
  cases hplan : snapshotPlan? directory suffix taken r with
  | none => exact ⟨none, taken, .inl rfl, htaken, by rw [snapshotPlans, hplan]⟩
  | some plan =>
    have hzero : used.budget.remaining = 0 := by
      by_contra hsome
      rw [htaken hsome, hplan] at hwhy
      rcases hwhy with hzero | hnone
      · exact hsome hzero
      · cases hnone
    exact ⟨some plan, _, .inr hzero, fun hsome => absurd hzero hsome, by rw [snapshotPlans, hplan]⟩

/-- **A static report** writes the first of the snapshots that are planned.  When no link is left,
it does not matter any more which places are taken. -/
theorem planStaticRows_spec {used final : Used} {planned : List PlannedRow}
    {taken : List (List Component)} (htaken : used.budget.remaining ≠ 0 → used.taken = taken)
    (h : planStaticRows index renderer directory suffix queries used w rows =
      (w', .ok (planned, final))) :
    planned = List.zipWith PlannedRow.withSnapshot rows
        (keepFirst used.budget.remaining (snapshotPlans directory suffix taken rows)) ∧
      final.budget =
        used.budget.spend (snapshotPlans directory suffix taken rows).reduceOption.length ∧
      final.taken.length = used.taken.length +
        min used.budget.remaining
          (snapshotPlans directory suffix taken rows).reduceOption.length ∧
      SnapshotsPut index renderer directory queries w rows
        (keepFirst used.budget.remaining (snapshotPlans directory suffix taken rows)) w' := by
  induction rows generalizing used w planned taken with
  | nil =>
    cases h
    refine ⟨rfl, ?_, ?_, .nil _⟩ <;> simp [snapshotPlans]
  | cons r rest ih =>
    rw [planStaticRows_cons] at h
    split at h
    · cases h
    rename_i w₁ row used₁ hrow
    split at h
    case h_2 => cases h
    rename_i w₂ later final' hrest
    cases h
    rcases planStaticRow_cases hrow with
      ⟨plan, hplan, hsome, hput, rfl, rfl⟩ | ⟨hwhy, rfl, rfl, rfl⟩
    · obtain ⟨hplanned, hbudget, hlength, hputs⟩ := ih (fun _ => rfl) hrest
      obtain rfl := htaken hsome
      obtain ⟨n, hn⟩ := Nat.exists_eq_succ_of_ne_zero hsome
      have hleft : n = used.budget.remaining - 1 := by omega
      rw [snapshotPlans, hplan]
      dsimp only
      rw [List.reduceOption_cons_of_some, List.length_cons, Nat.add_comm _ 1,
        ← LinkBudget.spend_spend, hn, keepFirst_succ_some, hleft]
      refine ⟨?_, hbudget, ?_, .put hput hputs⟩
      · rw [hplanned]
        rfl
      · rw [hlength, List.length_cons]
        simp only [LinkBudget.spend_remaining]
        omega
    · -- the row is skipped, and so it is among the snapshots that are planned
      obtain ⟨x, taken', hx, htaken', hplans⟩ := snapshotPlans_skip htaken hwhy rest
      obtain ⟨hplanned, hbudget, hlength, hputs⟩ := ih htaken' hrest
      rw [hplans, keepFirst, reduceOption_cons, List.length_append]
      rcases hx with rfl | hzero
      · refine ⟨?_, ?_, ?_, ?_⟩
        · simpa using hplanned
        · simpa using hbudget
        · simpa using hlength
        · simpa using .skip hputs
      · rw [hzero] at hplanned hlength hputs
        simp only [hzero, Nat.zero_sub, if_pos, Nat.zero_min] at hlength ⊢
        refine ⟨?_, ?_, hlength, .skip hputs⟩
        · rw [hplanned]
          rfl
        · rw [hbudget, LinkBudget.spend_eq_self _ hzero, LinkBudget.spend_eq_self _ hzero]

/-! ### Rows with snapshots -/

variable {plans : List (Option SnapshotPlan)}

theorem shows_withSnapshot (h : plans.length = rows.length) :
    List.Forall₂ PlannedRow.Shows rows (List.zipWith PlannedRow.withSnapshot rows plans) := by
  induction rows generalizing plans with
  | nil => simp
  | cons r rest ih =>
    obtain ⟨plan, more, rfl⟩ := List.exists_cons_of_length_eq_add_one h
    exact .cons rfl (ih (by simpa using h))

theorem columnLinks_withSnapshot (plan : Option SnapshotPlan) :
    (PlannedRow.withSnapshot r plan).columnLinks queries = snapshotLinks queries plan := by
  have hnone : ∀ q : NamedQuery, (PlannedRow.withSnapshot r plan).weightLink? q.id = none := by
    intro q
    unfold PlannedRow.weightLink?
    split_ifs
    · rfl
    · rfl
  simp only [PlannedRow.columnLinks, snapshotLinks, hnone]
  rfl

theorem map_columnLinks_withSnapshot (h : plans.length = rows.length) :
    (List.zipWith PlannedRow.withSnapshot rows plans).map (PlannedRow.columnLinks queries) =
      plans.map (snapshotLinks queries) := by
  induction rows generalizing plans with
  | nil => simp [List.length_eq_zero_iff.1 h]
  | cons r rest ih =>
    obtain ⟨plan, more, rfl⟩ := List.exists_cons_of_length_eq_add_one h
    rw [List.zipWith_cons_cons, List.map_cons, columnLinks_withSnapshot,
      ih (by simpa using h), List.map_cons]

/-- The links of snapshots are as many as the snapshots. -/
theorem reduceOption_snapshotLinks (queries : List NamedQuery)
    (plans : List (Option SnapshotPlan)) :
    (plans.flatMap (snapshotLinks queries)).reduceOption =
      plans.reduceOption.map SnapshotPlan.link := by
  have hnone : (queries.map fun _ => (none : Option String)).reduceOption = [] := by simp
  induction plans with
  | nil => rfl
  | cons plan rest ih =>
    rw [List.flatMap_cons, List.reduceOption_append, ih, snapshotLinks, reduceOption_columns, hnone,
      reduceOption_cons]
    cases plan <;> simp

/-- The first links of snapshots are the links of the first snapshots. -/
theorem keepFirst_snapshotLinks (queries : List NamedQuery) (n : Nat)
    (plans : List (Option SnapshotPlan)) :
    keepFirst n (plans.flatMap (snapshotLinks queries)) =
      (keepFirst n plans).flatMap (snapshotLinks queries) := by
  have hnone : ∀ m, keepFirst m (queries.map fun _ => (none : Option String)) =
      queries.map fun _ => none := by
    intro m
    exact keepFirst_eq_self (by simp)
  induction plans generalizing n with
  | nil => rfl
  | cons plan rest ih =>
    have hcount : n - (snapshotLinks queries plan).reduceOption.length =
        n - plan.toList.length := by
      rw [snapshotLinks, reduceOption_columns]
      cases plan <;> simp
    rw [List.flatMap_cons, keepFirst_append, ih, keepFirst, List.flatMap_cons, hcount,
      snapshotLinks, keepFirst_columns, hnone]
    by_cases hzero : n = 0
    · simp [hzero, snapshotLinks]
    · simp [hzero, snapshotLinks]

end Static

/-! ## Reports -/

/-- The links that a report of some rows would take without a cap, row by row and column by
column. -/
def ReportOptions.offers (o : ReportOptions) (queries : List NamedQuery) (rows : List SortedRow) :
    List (List (Option String)) :=
  match o.mode with
  | .live base => rows.map (SortedRow.liveLinks base queries)
  | .static suffix =>
    (snapshotPlans (o.snapshotDirectory?.getD ⟨""⟩) suffix [] rows).map (snapshotLinks queries)

section Offers

variable {o : ReportOptions} {queries : List NamedQuery} {rows : List SortedRow}

theorem length_offers : (o.offers queries rows).length = rows.length := by
  unfold ReportOptions.offers
  split <;> simp [length_snapshotPlans]

theorem length_of_mem_offers {links : List (Option String)} (h : links ∈ o.offers queries rows) :
    links.length = queries.length + 3 := by
  unfold ReportOptions.offers at h
  split at h
  · obtain ⟨r, -, rfl⟩ := List.mem_map.1 h
    simp [SortedRow.liveLinks, length_columns, SortedRow.weightLinks]
  · obtain ⟨plan, -, rfl⟩ := List.mem_map.1 h
    simp [snapshotLinks, length_columns]

/-- No more links are offered than one for each row and each of its weights. -/
theorem length_reduceOption_offers_le :
    (o.offers queries rows).flatten.reduceOption.length ≤ rows.length * (queries.length + 1) := by
  unfold ReportOptions.offers
  split
  · rename_i base _
    induction rows with
    | nil => simp
    | cons r rest ih =>
      have hweights := List.reduceOption_length_le (r.weightLinks base queries)
      rw [SortedRow.weightLinks, List.length_map] at hweights
      have hlabel : (fitting (liveLink base r.fileId r.matched)).toList.length ≤ 1 := by
        cases fitting (liveLink base r.fileId r.matched) <;> simp
      rw [List.map_cons, List.flatten_cons, List.reduceOption_append, List.length_append,
        List.length_cons, Nat.succ_mul, SortedRow.liveLinks, reduceOption_columns,
        List.length_append, SortedRow.weightLinks]
      omega
  · rename_i suffix _
    rw [← List.flatMap_def, reduceOption_snapshotLinks, List.length_map]
    calc (snapshotPlans (o.snapshotDirectory?.getD ⟨""⟩) suffix [] rows).reduceOption.length
        ≤ (snapshotPlans (o.snapshotDirectory?.getD ⟨""⟩) suffix [] rows).length :=
          List.reduceOption_length_le _
      _ = rows.length := length_snapshotPlans []
      _ ≤ rows.length * (queries.length + 1) := Nat.le_mul_of_pos_right _ (Nat.succ_pos _)

end Offers

namespace Writer

variable {options : ReportOptions} {index : SearchIndex} {given : Option Renderer} {x y : Writer}
  {queries : List NamedQuery} {rows : List SortedRow} {w w' : Workspace}

/-- **A writer is made** if there is a name for its report, and a renderer if it needs one. -/
theorem new_eq_ok : Writer.new options index given = .ok x ↔
    x = ⟨options, index, given, false⟩ ∧ (∃ s, options.output.fileName? = some s) ∧
      ∀ suffix, options.mode = .static suffix → ∃ r, given = some r := by
  unfold Writer.new
  cases hname : options.output.fileName? with
  | none => simp
  | some s =>
    cases hmode : options.mode with
    | live base => simp [eq_comm]
    | static suffix => cases given <;> simp [eq_comm]

/-- Snapshots lie beside the report, in a directory named after it. -/
theorem snapshotDirectory?_eq {suffix s : String} (hmode : options.mode = .static suffix)
    (hname : options.output.fileName? = some s) :
    options.snapshotDirectory? = some (options.outputDirectory.join
      ⟨String.ofList (Path.stemOf s.toList) ++ ReportOptions.snapshotDirectorySuffix⟩) := by
  unfold ReportOptions.snapshotDirectory?
  rw [hmode, Path.fileStem?, hname]
  rfl

/-- **The rows of a static report**: the first of the snapshots that are planned are written. -/
theorem planRows_static_spec (hnew : Writer.new options index given = .ok x) {suffix : String}
    (hmode : options.mode = .static suffix) {planned : List PlannedRow} {used : Used}
    (h : x.planRows queries rows w = (w', .ok (planned, used))) :
    ∃ directory r, options.snapshotDirectory? = some directory ∧ given = some r ∧
      planned = List.zipWith PlannedRow.withSnapshot rows
        (keepFirst options.maxHyperlinks (snapshotPlans directory suffix [] rows)) ∧
      used.budget.used = min options.maxHyperlinks
        (snapshotPlans directory suffix [] rows).reduceOption.length ∧
      used.taken.length = min options.maxHyperlinks
        (snapshotPlans directory suffix [] rows).reduceOption.length ∧
      SnapshotsPut index r directory queries w rows
        (keepFirst options.maxHyperlinks (snapshotPlans directory suffix [] rows)) w' := by
  obtain ⟨rfl, ⟨s, hname⟩, hrenderer⟩ := new_eq_ok.1 hnew
  obtain ⟨r, rfl⟩ := hrenderer suffix hmode
  have hdirectory := snapshotDirectory?_eq hmode hname
  unfold planRows at h
  simp only [hmode, hdirectory] at h
  obtain ⟨hplanned, hbudget, htaken, hput⟩ := planStaticRows_spec (fun _ => rfl) h
  refine ⟨_, r, hdirectory, rfl, hplanned, ?_, ?_, hput⟩
  · rw [hbudget, LinkBudget.spend, LinkBudget.ofCap, Nat.zero_add]
  · rw [htaken]
    simp [LinkBudget.ofCap]

/-- **A report takes the first of the links that are offered.** -/
theorem planRows_spec (hnew : Writer.new options index given = .ok x)
    (hids : (queries.map NamedQuery.id).Nodup) {planned : List PlannedRow} {used : Used}
    (h : x.planRows queries rows w = (w', .ok (planned, used))) :
    List.Forall₂ PlannedRow.Shows rows planned ∧
      planned.flatMap (PlannedRow.columnLinks queries) =
        keepFirst options.maxHyperlinks (options.offers queries rows).flatten ∧
      used.budget.used =
        min options.maxHyperlinks (options.offers queries rows).flatten.reduceOption.length ∧
      used.taken.length = match options.mode with
        | .live _ => 0
        | .static _ => used.budget.used := by
  cases hmode : options.mode with
  | live base =>
    obtain ⟨rfl, -, -⟩ := new_eq_ok.1 hnew
    unfold planRows at h
    simp only [hmode] at h
    cases h
    obtain ⟨hshows, hlinks, hleft⟩ :=
      planLiveRows_spec base hids rows (.ofCap options.maxHyperlinks)
    rw [ReportOptions.offers, hmode, hleft]
    refine ⟨hshows, hlinks, ?_, rfl⟩
    rw [LinkBudget.spend, LinkBudget.ofCap, Nat.zero_add, List.flatMap_def]
  | static suffix =>
    obtain ⟨directory, r, hdirectory, -, rfl, hbudget, htaken, -⟩ :=
      planRows_static_spec hnew hmode h
    have hlength : (keepFirst options.maxHyperlinks
        (snapshotPlans directory suffix [] rows)).length = rows.length :=
      length_keepFirst_snapshotPlans _ _
    rw [ReportOptions.offers, hmode, hdirectory, Option.getD_some, ← List.flatMap_def,
      reduceOption_snapshotLinks, List.length_map, List.flatMap_def,
      map_columnLinks_withSnapshot hlength, ← List.flatMap_def, keepFirst_snapshotLinks]
    exact ⟨shows_withSnapshot hlength, rfl, hbudget, by rw [htaken, hbudget]⟩

end Writer

end Tagging
