import Mathlib.Data.List.Nodup
import Mathlib.Data.List.ReduceOption
import Tagging.Report.Writer

/-!
# Links up to a cap

A report takes one link after the other, as far as they fit, until its cap is reached.  So what it
takes is told by what it would take without a cap: of these links it takes the first ones, each in
its place, and as many as the cap allows.

* `keepFirst` — the first values that are there, in their places;
* `LinkBudget.spend` — the budget when so many links were asked for, `LinkBudget.take?_cases` and
  `takeFor?_cases` what asking for one comes to;
* `PlannedRow.columnLinks` — the links of a row, one for each column;
* `planCellLinks_spec`, `planLive_spec`, `planLiveRows_spec` — **a live report** takes the first of
  the links that fit, within a row and over all rows.
-/

namespace Tagging

/-! ## The first values that are there -/

section KeepFirst

variable {α : Type}

/-- The first values that are there, so many at most, each in its place. -/
def keepFirst : Nat → List (Option α) → List (Option α)
  | _, [] => []
  | n, x :: rest => (if n = 0 then none else x) :: keepFirst (n - x.toList.length) rest

@[simp] theorem keepFirst_nil (n : Nat) : keepFirst n ([] : List (Option α)) = [] := rfl

@[simp] theorem keepFirst_none (n : Nat) (rest : List (Option α)) :
    keepFirst n (none :: rest) = none :: keepFirst n rest := by
  simp [keepFirst]

@[simp] theorem keepFirst_zero_some (x : α) (rest : List (Option α)) :
    keepFirst 0 (some x :: rest) = none :: keepFirst 0 rest := rfl

@[simp] theorem keepFirst_succ_some (n : Nat) (x : α) (rest : List (Option α)) :
    keepFirst (n + 1) (some x :: rest) = some x :: keepFirst n rest := rfl

@[simp] theorem length_keepFirst (n : Nat) (l : List (Option α)) :
    (keepFirst n l).length = l.length := by
  induction l generalizing n with
  | nil => simp
  | cons x rest ih => simp [keepFirst, ih]

theorem reduceOption_cons (x : Option α) (rest : List (Option α)) :
    (x :: rest).reduceOption = x.toList ++ rest.reduceOption := by
  cases x <;> simp

/-- **The first values** are the beginning of all that are there. -/
theorem reduceOption_keepFirst (n : Nat) (l : List (Option α)) :
    (keepFirst n l).reduceOption = l.reduceOption.take n := by
  induction l generalizing n with
  | nil => simp
  | cons x rest ih =>
    cases x with
    | none => simp [ih]
    | some x => cases n <;> simp [ih]

/-- All values are kept if there are no more than so many. -/
theorem keepFirst_eq_self {n : Nat} {l : List (Option α)} (h : l.reduceOption.length ≤ n) :
    keepFirst n l = l := by
  induction l generalizing n with
  | nil => simp
  | cons x rest ih =>
    cases x with
    | none =>
      rw [List.reduceOption_cons_of_none] at h
      rw [keepFirst_none, ih h]
    | some x =>
      rw [List.reduceOption_cons_of_some, List.length_cons] at h
      cases n with
      | zero => omega
      | succ n => rw [keepFirst_succ_some, ih (by omega)]

/-- The values of the first list are kept first. -/
theorem keepFirst_append (n : Nat) (l l' : List (Option α)) :
    keepFirst n (l ++ l') = keepFirst n l ++ keepFirst (n - l.reduceOption.length) l' := by
  induction l generalizing n with
  | nil => simp
  | cons x rest ih =>
    cases x with
    | none => simp [ih]
    | some x => cases n <;> simp [ih]

/-- What is kept was there, in the same place. -/
theorem getElem?_of_keepFirst {n : Nat} {l : List (Option α)} {i : Nat} {x : α}
    (h : (keepFirst n l)[i]? = some (some x)) : l[i]? = some (some x) := by
  induction l generalizing n i with
  | nil => simp at h
  | cons y rest ih =>
    cases i with
    | zero =>
      by_cases hn : n = 0
      · simp [keepFirst, hn] at h
      · simpa [keepFirst, hn] using h
    | succ i => exact ih (by simpa [keepFirst] using h)

end KeepFirst

/-! ## Budgets -/

namespace LinkBudget

/-- The budget when so many links were asked for. -/
def spend (b : LinkBudget) (links : Nat) : LinkBudget :=
  ⟨b.remaining - links, b.used + min b.remaining links⟩

variable (b : LinkBudget)

@[simp] theorem spend_zero : b.spend 0 = b := by simp [spend]

@[simp] theorem spend_remaining (m : Nat) : (b.spend m).remaining = b.remaining - m := rfl

@[simp] theorem spend_spend (m n : Nat) : (b.spend m).spend n = b.spend (m + n) := by
  simp only [spend, mk.injEq]
  omega

/-- Where no link is left, none is spent. -/
theorem spend_eq_self (h : b.remaining = 0) (n : Nat) : b.spend n = b := by
  rcases b with ⟨remaining, used⟩
  subst h
  simp [spend]

/-- **Taking one link**: there is one to take, or none is left. -/
theorem take?_cases :
    (b.remaining ≠ 0 ∧ b.take? = some (b.spend 1)) ∨ (b.remaining = 0 ∧ b.take? = none) := by
  rcases b with ⟨_ | n, used⟩
  · exact .inr ⟨rfl, rfl⟩
  · exact .inl ⟨by simp, by simp [take?, spend]⟩

end LinkBudget

/-! ## Links by columns -/

/-- The links of a row, one for each column: the label, the path, the weights and the total. -/
def columns (label : Option String) (weights : List (Option String)) : List (Option String) :=
  label :: none :: weights ++ [none]

theorem length_columns (label : Option String) (weights : List (Option String)) :
    (columns label weights).length = weights.length + 3 := by
  simp [columns]

theorem reduceOption_columns (label : Option String) (weights : List (Option String)) :
    (columns label weights).reduceOption = label.toList ++ weights.reduceOption := by
  cases label <;> simp [columns, List.reduceOption_append]

theorem some_mem_columns_iff {label : Option String} {weights : List (Option String)}
    {url : String} :
    some url ∈ columns label weights ↔ label = some url ∨ some url ∈ weights := by
  simp [columns, eq_comm]

/-- The link of a weight, if there is a weight. -/
def PlannedRow.weightLink? (p : PlannedRow) (q : QueryId) : Option String :=
  if (p.weights.lookup q).isSome then p.cellLinks.lookup q else none

/-- The links of a row, one for each column. -/
def PlannedRow.columnLinks (queries : List NamedQuery) (p : PlannedRow) : List (Option String) :=
  columns p.fileLink (queries.map fun q => p.weightLink? q.id)

/-- The planned row differs from the row in its links only. -/
def PlannedRow.Shows (r : SortedRow) (p : PlannedRow) : Prop :=
  p = { PlannedRow.ofRow r with fileLink := p.fileLink, cellLinks := p.cellLinks }

/-! ## Live reports -/

/-- The link, if it fits. -/
def fitting (link : String) : Option String := if linkFits link then some link else none

theorem fitting_eq_some_iff {link url : String} :
    fitting link = some url ↔ link.length ≤ maxLinkLength ∧ link = url := by
  unfold fitting linkFits
  by_cases h : link.length ≤ maxLinkLength <;> simp [h]

/-- **Taking a link**: it fits and there is one to take, or no link is taken. -/
theorem takeFor?_cases (b : LinkBudget) (link : String) :
    (b.takeFor? link = some (b.spend 1) ∧ b.remaining ≠ 0 ∧ fitting link = some link) ∨
      (b.takeFor? link = none ∧ (if b.remaining = 0 then none else fitting link) = none ∧
        b.spend (fitting link).toList.length = b) := by
  unfold LinkBudget.takeFor? fitting
  by_cases hfits : linkFits link = true
  · rcases b.take?_cases with ⟨hsome, htake⟩ | ⟨hzero, htake⟩
    · left
      simp [hfits, hsome, htake]
    · right
      simp [hfits, hzero, htake, b.spend_eq_self hzero]
  · right
    simp [hfits]

/-- The links of the weights of a row that fit, one for each query. -/
def SortedRow.weightLinks (base : Url) (queries : List NamedQuery) (r : SortedRow) :
    List (Option String) :=
  queries.map fun q => if (r.weight? q.id).isSome then fitting (liveLink base r.fileId [q.id])
    else none

/-- The links of a row that fit, one for each column. -/
def SortedRow.liveLinks (base : Url) (queries : List NamedQuery) (r : SortedRow) :
    List (Option String) :=
  columns (fitting (liveLink base r.fileId r.matched)) (r.weightLinks base queries)

section Live

variable (base : Url) {queries : List NamedQuery}

theorem mem_of_mem_planCellLinks {fileId : String} {budget : LinkBudget} {id : QueryId}
    (h : id ∈ ((planCellLinks base fileId budget queries).1).map Prod.fst) :
    id ∈ queries.map NamedQuery.id := by
  induction queries generalizing budget with
  | nil => cases h
  | cons q rest ih =>
    rw [planCellLinks] at h
    dsimp only at h
    rw [List.map_cons, List.mem_cons]
    split at h
    · rcases List.mem_cons.1 h with heq | hrest
      · exact .inl heq
      · exact .inr (ih hrest)
    · exact .inr (ih h)

/-- Each link of a weight is that of its query, and fits. -/
theorem fitting_of_mem_planCellLinks {fileId : String} {budget : LinkBudget} {id : QueryId}
    {url : String} (h : (id, url) ∈ (planCellLinks base fileId budget queries).1) :
    fitting (liveLink base fileId [id]) = some url := by
  induction queries generalizing budget with
  | nil => cases h
  | cons q rest ih =>
    rw [planCellLinks] at h
    dsimp only at h
    rcases takeFor?_cases budget (liveLink base fileId [q.id]) with
      ⟨htake, -, hfit⟩ | ⟨htake, -, -⟩
    · rw [htake] at h
      rcases List.mem_cons.1 h with heq | hrest
      · cases heq
        exact hfit
      · exact ih hrest
    · rw [htake] at h
      exact ih h

/-- **The weights of a row have a link** if one of them fits and there is one to take; otherwise the
budget is what it was. -/
theorem planCellLinks_cases (fileId : String) (budget : LinkBudget) (queries : List NamedQuery) :
    (planCellLinks base fileId budget queries = ([], budget) ∧
      (budget.remaining ≠ 0 → ∀ q ∈ queries, fitting (liveLink base fileId [q.id]) = none)) ∨
    ((planCellLinks base fileId budget queries).1 ≠ [] ∧ budget.remaining ≠ 0) := by
  induction queries with
  | nil => exact .inl ⟨rfl, fun _ _ h => nomatch h⟩
  | cons q rest ih =>
    rw [planCellLinks]
    dsimp only
    rcases takeFor?_cases budget (liveLink base fileId [q.id]) with
      ⟨htake, hsome, -⟩ | ⟨htake, hnone, -⟩
    · rw [htake]
      exact .inr ⟨List.cons_ne_nil _ _, hsome⟩
    · rw [htake]
      refine ih.imp (fun h => ⟨h.1, fun hsome => List.forall_mem_cons.2 ⟨?_, h.2 hsome⟩⟩) id
      rwa [if_neg hsome] at hnone

/-- The links of the weights of a row, looked up by query. -/
def linksOfWeights (queries : List NamedQuery) (r : SortedRow) (links : List (QueryId × String)) :
    List (Option String) :=
  queries.map fun q => if (r.weight? q.id).isSome then links.lookup q.id else none

theorem linksOfWeights_cons_of_not_mem {r : SortedRow} {id : QueryId} {link : String}
    {links : List (QueryId × String)} (h : id ∉ queries.map NamedQuery.id) :
    linksOfWeights queries r ((id, link) :: links) = linksOfWeights queries r links := by
  refine List.map_congr_left fun q hq => ?_
  have hne : (q.id == id) = false := by
    rw [beq_eq_false_iff_ne]
    rintro rfl
    exact h (List.mem_map_of_mem hq)
  rw [List.lookup_cons, hne]

/-- **The weights of a row** take the first of their links that fit. -/
theorem planCellLinks_spec (hids : (queries.map NamedQuery.id).Nodup) (r : SortedRow)
    (budget : LinkBudget) :
    linksOfWeights queries r
        (planCellLinks base r.fileId budget (matchedQueries queries r)).1 =
      keepFirst budget.remaining (r.weightLinks base queries) ∧
    (planCellLinks base r.fileId budget (matchedQueries queries r)).2 =
      budget.spend (r.weightLinks base queries).reduceOption.length := by
  induction queries generalizing budget with
  | nil => simp [linksOfWeights, SortedRow.weightLinks, matchedQueries, planCellLinks]
  | cons q rest ih =>
    rw [List.map_cons, List.nodup_cons] at hids
    obtain ⟨hnew, hrest⟩ := hids
    -- no later query brings a link for the same id
    have hlater : ∀ b : LinkBudget,
        ((planCellLinks base r.fileId b (matchedQueries rest r)).1).lookup q.id = none := by
      intro b
      refine List.lookup_eq_none_iff.2 fun x hx => ?_
      have hmem := mem_of_mem_planCellLinks base (List.mem_map_of_mem (f := Prod.fst) hx)
      have hold : x.1 ∈ rest.map NamedQuery.id :=
        List.map_subset _ (List.filter_subset_self _) hmem
      simpa using fun heq : q.id = x.1 => hnew (heq ▸ hold)
    have hcons : ∀ links, linksOfWeights (q :: rest) r links =
        (if (r.weight? q.id).isSome then links.lookup q.id else none) ::
          linksOfWeights rest r links := fun _ => rfl
    have hfits : r.weightLinks base (q :: rest) =
        (if (r.weight? q.id).isSome then fitting (liveLink base r.fileId [q.id]) else none) ::
          r.weightLinks base rest := rfl
    rw [hfits]
    by_cases hweight : (r.weight? q.id).isSome = true
    case neg =>
      obtain ⟨hlinks, hleft⟩ := ih hrest budget
      have hskip : matchedQueries (q :: rest) r = matchedQueries rest r :=
        List.filter_cons_of_neg hweight
      rw [hskip, hcons, if_neg hweight, if_neg hweight, keepFirst_none,
        List.reduceOption_cons_of_none]
      exact ⟨by rw [hlinks], hleft⟩
    have htry : matchedQueries (q :: rest) r = q :: matchedQueries rest r :=
      List.filter_cons_of_pos hweight
    rw [htry, if_pos hweight, planCellLinks, keepFirst, reduceOption_cons, List.length_append,
      ← LinkBudget.spend_spend]
    dsimp only
    rcases takeFor?_cases budget (liveLink base r.fileId [q.id]) with
      ⟨htake, hsome, hfit⟩ | ⟨htake, hnone, hsame⟩
    · obtain ⟨hlinks, hleft⟩ := ih hrest (budget.spend 1)
      rw [htake, hfit, if_neg hsome, hcons, if_pos hweight,
        linksOfWeights_cons_of_not_mem hnew, hlinks, hleft]
      exact ⟨by simp, rfl⟩
    · obtain ⟨hlinks, hleft⟩ := ih hrest budget
      rw [htake, hnone, hsame, hcons, if_pos hweight, hlater, hlinks]
      refine ⟨?_, hleft⟩
      rw [← LinkBudget.spend_remaining, hsame]

/-- The links of one row after the other. -/
theorem keepFirst_columns (n : Nat) (label : Option String) (weights : List (Option String)) :
    keepFirst n (columns label weights) = columns (if n = 0 then none else label)
      (keepFirst (n - label.toList.length) weights) := by
  simp [columns, keepFirst, keepFirst_append]

/-- A row of a live report differs from the row in its links only. -/
theorem shows_planLive (queries : List NamedQuery) (r : SortedRow) (budget : LinkBudget) :
    (planLive base queries r budget).1.Shows r := by
  unfold planLive
  dsimp only
  split <;> rfl

/-- **A row of a live report** takes the first of its links that fit. -/
theorem planLive_spec (hids : (queries.map NamedQuery.id).Nodup) (r : SortedRow)
    (budget : LinkBudget) :
    (planLive base queries r budget).1.Shows r ∧
      (planLive base queries r budget).1.columnLinks queries =
        keepFirst budget.remaining (r.liveLinks base queries) ∧
      (planLive base queries r budget).2 =
        budget.spend (r.liveLinks base queries).reduceOption.length := by
  rw [SortedRow.liveLinks, keepFirst_columns, reduceOption_columns, List.length_append,
    ← LinkBudget.spend_spend]
  refine ⟨shows_planLive base queries r budget, ?_⟩
  unfold planLive
  dsimp only
  rcases takeFor?_cases budget (liveLink base r.fileId r.matched) with
    ⟨htake, hsome, hfit⟩ | ⟨htake, hnone, hsame⟩
  · obtain ⟨hlinks, hleft⟩ := planCellLinks_spec base hids r (budget.spend 1)
    rw [htake, hfit, if_neg hsome]
    refine ⟨?_, hleft⟩
    rw [PlannedRow.columnLinks]
    exact congrArg (columns _) hlinks
  · obtain ⟨hlinks, hleft⟩ := planCellLinks_spec base hids r budget
    rw [htake, hnone, hsame]
    refine ⟨?_, hleft⟩
    rw [PlannedRow.columnLinks, ← LinkBudget.spend_remaining, hsame]
    exact congrArg (columns _) hlinks

/-- **A live report** takes the first of the links of its rows that fit. -/
theorem planLiveRows_spec (hids : (queries.map NamedQuery.id).Nodup) (rows : List SortedRow)
    (budget : LinkBudget) :
    List.Forall₂ PlannedRow.Shows rows (planLiveRows base queries budget rows).1 ∧
      (planLiveRows base queries budget rows).1.flatMap (PlannedRow.columnLinks queries) =
        keepFirst budget.remaining (rows.flatMap (SortedRow.liveLinks base queries)) ∧
      (planLiveRows base queries budget rows).2 = budget.spend
        (rows.flatMap (SortedRow.liveLinks base queries)).reduceOption.length := by
  induction rows generalizing budget with
  | nil => simp [planLiveRows]
  | cons r rest ih =>
    obtain ⟨hshows, hlinks, hleft⟩ := planLive_spec base hids r budget
    obtain ⟨hshows', hlinks', hleft'⟩ := ih (planLive base queries r budget).2
    rw [planLiveRows]
    dsimp only
    rw [List.flatMap_cons, List.flatMap_cons, keepFirst_append, List.reduceOption_append,
      List.length_append, hlinks, hlinks', hleft', hleft, LinkBudget.spend_spend,
      LinkBudget.spend_remaining]
    refine ⟨.cons hshows ?_, rfl, rfl⟩
    rw [← hleft]
    exact hshows'

end Live

end Tagging
