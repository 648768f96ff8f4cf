import Tagging.Proofs.Store.Acceptance

/-!
# Kinds of refusals

How each backend refuses a call.  Tables in memory look at a whole batch before they write any of
it, and ask for the query of a score first; a database writes row by row, and asks for the key
first.  Either way it is the first score that cannot be taken which decides.

* `kindOf` — the kind of a refusal;
* `refusal`, `firstRefusal` — what a score, or a list of scores, meets where some queries are
  registered and some keys taken;
* `kindOf_checkBatch`, `kindOf_runAll_addScore` — **both backends come to the first refusal**;
* `Memory.kindOf_applyBatch`, `Relational.kindOf_applyBatch` and their like — the kind for each
  call.
-/

namespace Tagging

/-! ## Refusals of scores -/

/-- The kind of a refusal, if the result is one. -/
def kindOf {α : Type} : Except StoreError α → Option StoreError.Kind
  | .ok _ => none
  | .error e => some e.kind

/-- How a score of that query and key is refused: its query has to be registered, its key free. -/
def refusal (registered : QueryId → Bool) (taken : ScoreKey → Bool) (row : ScoreRow) :
    Option StoreError.Kind :=
  if registered row.queryId then if taken row.key then some .conflict else none
  else some .invalidArgument

/-- How the first score that cannot be taken after those before it is refused. -/
def firstRefusal (registered : QueryId → Bool) (taken : ScoreKey → Bool) :
    List ScoreRow → Option StoreError.Kind
  | [] => none
  | row :: rest =>
    (refusal registered taken row).or
      (firstRefusal registered (fun k => decide (k = row.key) || taken k) rest)

theorem refusal_kind {registered : QueryId → Bool} {taken : ScoreKey → Bool} {row : ScoreRow}
    {k : StoreError.Kind} (h : refusal registered taken row = some k) :
    k = .conflict ∨ k = .invalidArgument := by
  unfold refusal at h
  split_ifs at h
  · exact Or.inl (Option.some.inj h).symm
  · exact Or.inr (Option.some.inj h).symm

/-- A score that is refused is refused the same way where more keys are taken. -/
theorem refusal_mono {registered : QueryId → Bool} {taken taken' : ScoreKey → Bool}
    {row : ScoreRow} {k : StoreError.Kind} (h : refusal registered taken row = some k)
    (hle : ∀ key, taken key = true → taken' key = true) :
    refusal registered taken' row = some k := by
  unfold refusal at h ⊢
  split_ifs at h with hreg htaken
  · rw [if_pos hreg, if_pos (hle _ htaken)]
    exact h
  · rw [if_neg hreg]
    exact h

theorem firstRefusal_kind {registered : QueryId → Bool} {taken : ScoreKey → Bool}
    {rows : List ScoreRow} {k : StoreError.Kind} (h : firstRefusal registered taken rows = some k) :
    k = .conflict ∨ k = .invalidArgument := by
  induction rows generalizing taken with
  | nil => exact absurd h (by simp [firstRefusal])
  | cons row rest ih =>
    rw [firstRefusal] at h
    cases hr : refusal registered taken row with
    | some k' =>
      rw [hr, Option.some_or, Option.some.injEq] at h
      exact h ▸ refusal_kind hr
    | none =>
      rw [hr, Option.none_or] at h
      exact ih h

/-- The tables in memory ask for the query first and for the key afterwards. -/
theorem kindOf_checkScore (m : Memory) (row : ScoreRow) :
    kindOf (m.checkScore row) = refusal m.hasQuery (hasScore m.scores) row := by
  unfold Memory.checkScore refusal
  cases m.hasQuery row.queryId <;> cases hasScore m.scores row.key <;> rfl

/-- **The check of a batch in memory** comes to the first refusal. -/
theorem kindOf_checkBatch (m : Memory) (id : QueryId) {pending : ScoreTable}
    (hasc : Ascending keyLt pending) (rows : List ScoreRow) :
    kindOf (m.checkBatch id pending rows) =
      firstRefusal m.hasQuery (fun k => hasScore pending k || hasScore m.scores k) rows := by
  induction rows generalizing pending with
  | nil => rfl
  | cons row rest ih =>
    have hcheck := kindOf_checkScore m row
    rw [Memory.checkBatch, firstRefusal]
    cases hc : m.checkScore row with
    | error e =>
      rw [hc] at hcheck
      rw [refusal_mono hcheck.symm (fun k h => Bool.or_eq_true_iff.2 (Or.inr h)), Option.some_or]
      rfl
    | ok u =>
      obtain ⟨hreg, hstored⟩ := Memory.checkScore_eq_ok_iff.1 hc
      have hrefusal : refusal m.hasQuery (fun k => hasScore pending k || hasScore m.scores k) row =
          if hasScore pending row.key then some .conflict else none := by
        simp [refusal, hreg, hstored]
      rw [hrefusal]
      cases hp : hasScore pending row.key with
      | true => rfl
      | false =>
        simp only [Bool.false_eq_true, if_false, Option.none_or]
        have hasc' := hasc.insertBy keyOrder_keyLt row.key row.weight
        rw [@ih (insertScore row.key row.weight pending) hasc']
        congr 1
        funext k
        rw [← Bool.or_assoc]
        congr 1
        exact hasScore_insertScore hasc row.key row.weight k

/-- A database asks for the key first; but a key in use belongs to a registered query, so that the
order of these two does not show. -/
theorem kindOf_addScore {t : Tables} {row : ScoreRow} (hpos : row.weight > 0)
    (hreg : hasScore t.scores row.key = true → t.hasQuery row.queryId = true) :
    kindOf (t.addScore row) = refusal t.hasQuery (hasScore t.scores) row := by
  unfold Tables.addScore refusal
  rw [if_neg (by rw [Number.isNaN_eq_false_of_pos hpos]; simp), if_neg (by simp [hpos])]
  cases hkey : hasScore t.scores row.key with
  | true =>
    rw [hreg hkey]
    rfl
  | false => cases t.hasQuery row.queryId <;> rfl

/-- **Writing a batch row by row** comes to the first refusal, too. -/
theorem kindOf_runAll_addScore {t : Tables} {rows : List ScoreRow}
    (hasc : Ascending keyLt t.scores) (hpos : ∀ row ∈ rows, row.weight > 0)
    (hreg : ∀ key, hasScore t.scores key = true → t.hasQuery key.2 = true) :
    kindOf (runAll Tables.addScore t rows) = firstRefusal t.hasQuery (hasScore t.scores) rows := by
  induction rows generalizing t with
  | nil => rfl
  | cons row rest ih =>
    obtain ⟨hrow, hrest⟩ := List.forall_mem_cons.1 hpos
    have hkind := kindOf_addScore hrow (hreg row.key)
    rw [runAll, firstRefusal, ← hkind]
    cases hadd : t.addScore row with
    | error e => rfl
    | ok t₁ =>
      obtain ⟨-, -, hknown, rfl⟩ := addScore_eq_ok_iff.1 hadd
      have hnext : hasScore (insertScore row.key row.weight t.scores) =
          fun k => decide (k = row.key) || hasScore t.scores k :=
        funext fun k => hasScore_insertScore hasc row.key row.weight k
      have hreg₁ : ∀ key, hasScore (insertScore row.key row.weight t.scores) key = true →
          t.hasQuery key.2 = true := by
        intro key h
        rw [hnext] at h
        rcases Bool.or_eq_true_iff.1 h with heq | h
        · rw [of_decide_eq_true heq]
          exact hknown
        · exact hreg key h
      refine (ih (hasc.insertBy keyOrder_keyLt row.key row.weight) hrest hreg₁).trans ?_
      rw [hnext]
      rfl

/-- A database refuses queries for an id in use only. -/
theorem kind_of_runAll_addQuery {t : Tables} {records : List QueryRecord} {e : StoreError}
    (h : runAll Tables.addQuery t records = .error e) : e.kind = .conflict := by
  induction records generalizing t with
  | nil => exact absurd h (by simp [runAll])
  | cons q rest ih =>
    rw [runAll] at h
    cases hadd : t.addQuery q with
    | ok t' =>
      rw [hadd] at h
      exact ih h
    | error e' =>
      rw [hadd] at h
      cases h
      unfold Tables.addQuery at hadd
      split_ifs at hadd
      cases hadd
      rfl

theorem kindOf_runAll_addQuery {t : Tables} {records : List QueryRecord}
    (hdistinct : (records.map QueryRecord.id).Nodup) :
    kindOf (runAll Tables.addQuery t records) =
      if records.any (fun q => t.hasQuery q.id) then some .conflict else none := by
  cases hrun : runAll Tables.addQuery t records with
  | ok t' =>
    have hnew := (runAll_addQuery_eq_ok_iff.1 hrun).1
    rw [if_neg (by simpa using hnew)]
    rfl
  | error e =>
    have hany : records.any (fun q => t.hasQuery q.id) = true := by
      by_contra hnone
      have hnew : ∀ q ∈ records, t.hasQuery q.id = false := by simpa using hnone
      rw [runAll_addQuery_eq_ok_iff.2 ⟨hnew, hdistinct, rfl⟩] at hrun
      exact absurd hrun (by simp)
    rw [if_pos hany, kindOf, kind_of_runAll_addQuery hrun]

/-! ## Refusals of calls -/

namespace Memory

theorem kindOf_insertQueries (m : Memory) (records : List QueryRecord) :
    kindOf (m.insertQueries records).2 =
      if m.totals.isSome then some .invalidArgument
      else if records.any (fun q => m.hasQuery q.id) then some .conflict else none := by
  unfold insertQueries ensureWritable
  cases m.totals with
  | some totals => rfl
  | none =>
    cases hr : m.registered? records with
    | none =>
      have hnew := registered?_eq_none_iff.1 hr
      have hany : records.any (fun q => m.hasQuery q.id) = false := by simpa using hnew
      simp [hany, kindOf]
    | some q =>
      have hfind : records.find? (fun q => m.hasQuery q.id) = some q := hr
      have hq := List.find?_some hfind
      have hany : records.any (fun q => m.hasQuery q.id) = true :=
        List.any_eq_true.2 ⟨q, List.mem_of_find?_eq_some hfind, hq⟩
      simp [hany, kindOf, StoreError.kind]

theorem kindOf_insertScore (m : Memory) (row : ScoreRow) :
    kindOf (m.insertScore row).2 =
      if m.totals.isSome then some .invalidArgument
      else refusal m.hasQuery (hasScore m.scores) row := by
  rw [← kindOf_checkScore]
  unfold insertScore ensureWritable
  cases m.totals with
  | some totals => rfl
  | none => cases m.checkScore row <;> rfl

theorem kindOf_upsertDisplay (m : Memory) (entry : DisplayEntry) :
    kindOf (m.upsertDisplay entry).2 =
      if m.totals.isSome then some .invalidArgument else none := by
  unfold upsertDisplay ensureWritable
  cases m.totals <;> rfl

theorem kindOf_applyBatch (m : Memory) (batch : ScoreBatch) :
    kindOf (m.applyBatch batch).2 =
      if m.totals.isSome then some .invalidArgument
      else firstRefusal m.hasQuery (hasScore m.scores) batch.scores := by
  have hcheck : kindOf (m.checkBatch batch.queryId [] batch.scores) =
      firstRefusal m.hasQuery (hasScore m.scores) batch.scores :=
    kindOf_checkBatch m batch.queryId Ascending.nil batch.scores
  rw [← hcheck]
  unfold applyBatch ensureWritable
  cases m.totals with
  | some totals => rfl
  | none => cases m.checkBatch batch.queryId [] batch.scores <;> rfl

end Memory

namespace Relational

theorem kindOf_transaction (r : Relational) (body : Tables → Except StoreError Tables) :
    kindOf (r.transaction body).2 =
      if r.aggregated then some .invalidArgument else kindOf (body r.tables) := by
  unfold transaction
  cases r.aggregated with
  | true => rfl
  | false => cases body r.tables <;> rfl

theorem kindOf_insertQueries (r : Relational) {records : List QueryRecord}
    (hdistinct : (records.map QueryRecord.id).Nodup) :
    kindOf (r.insertQueries records).2 =
      if r.aggregated then some .invalidArgument
      else if records.any (fun q => r.tables.hasQuery q.id) then some .conflict else none := by
  rw [insertQueries, kindOf_transaction, kindOf_runAll_addQuery hdistinct]

theorem kindOf_insertScore (r : Relational) {row : ScoreRow} (hpos : row.weight > 0)
    (hreg : ∀ key, hasScore r.tables.scores key = true → r.tables.hasQuery key.2 = true) :
    kindOf (r.insertScore row).2 =
      if r.aggregated then some .invalidArgument
      else refusal r.tables.hasQuery (hasScore r.tables.scores) row := by
  rw [insertScore, kindOf_transaction, kindOf_addScore hpos (hreg row.key)]

theorem kindOf_upsertDisplay (r : Relational) {entry : DisplayEntry}
    (haddr : entry.address ≤ Tables.maxAddress) :
    kindOf (r.upsertDisplay entry).2 = if r.aggregated then some .invalidArgument else none := by
  rw [upsertDisplay, kindOf_transaction, Tables.putDisplay, if_neg (not_lt.2 haddr)]
  rfl

theorem kindOf_applyBatch {r : Relational} {batch : ScoreBatch}
    (hasc : Ascending keyLt r.tables.scores)
    (hpos : ∀ row ∈ batch.scores, row.weight > 0)
    (haddr : ∀ e ∈ batch.displays, e.address ≤ Tables.maxAddress)
    (hreg : ∀ key, hasScore r.tables.scores key = true → r.tables.hasQuery key.2 = true) :
    kindOf (r.applyBatch batch).2 =
      if r.aggregated then some .invalidArgument
      else firstRefusal r.tables.hasQuery (hasScore r.tables.scores) batch.scores := by
  rw [applyBatch, kindOf_transaction, runAll_putDisplay_eq_ok_iff.2 ⟨haddr, rfl⟩]
  congr 1
  exact @kindOf_runAll_addScore
    { r.tables with displays := batch.displays.foldl putDisplay r.tables.displays } _ hasc hpos hreg

end Relational

end Tagging
