import Mathlib.Data.String.Basic
import Tagging.Proofs.Keyed
import Tagging.Store.Basic

/-!
# What score tables and display entries hold

Writing to the tables, seen through what can be read from them afterwards.

* `keyOrder_keyLt` — keys of scores are in a strict total order, so that score tables are finite
  maps;
* `mem_weightsOf`, `pairwise_weightsOf` — the weights of a file are its entries of the table, by
  ascending query;
* `mem_insertScores`, `ascending_insertScores` — writing scores of new, different keys adds exactly
  these scores;
* `find?_foldl_putBy`, `nodup_foldl_putBy`, `foldl_putBy_eq_append` — records by key: **the last one
  counts**, there are never two of one key, and those of new, different keys are added in order;
* `displayOf_foldl_putDisplay` — so it is with display entries and their files.
-/

namespace Tagging

/-! ## The order of the keys -/

theorem keyLt_iff {a b : ScoreKey} : keyLt a b = true ↔ a.1 < b.1 ∨ a.1 = b.1 ∧ a.2 < b.2 := by
  unfold keyLt
  split
  · rename_i h
    exact ⟨fun _ => Or.inl h, fun _ => rfl⟩
  · rename_i h
    split
    · rename_i heq
      rw [decide_eq_true_eq]
      exact ⟨fun hlt => Or.inr ⟨heq, hlt⟩, fun hor => (hor.resolve_left h).2⟩
    · rename_i hne
      exact ⟨fun hf => absurd hf (by simp), fun hor => absurd (hor.resolve_left h).1 hne⟩

theorem keyLt_eq_false_iff {a b : ScoreKey} :
    keyLt a b = false ↔ b.1 ≤ a.1 ∧ (a.1 = b.1 → b.2 ≤ a.2) := by
  rw [← Bool.not_eq_true, keyLt_iff, not_or, not_lt, not_and]
  exact and_congr_right fun _ => forall_congr' fun _ => not_lt

/-- **Keys of scores are in a strict total order**, first by file and then by query. -/
theorem keyOrder_keyLt : KeyOrder keyLt where
  irrefl := by
    intro a
    exact keyLt_eq_false_iff.2 ⟨le_refl _, fun _ => le_refl _⟩
  trans := by
    intro a b c hab hbc
    rw [keyLt_iff] at hab hbc ⊢
    rcases hab with hab | ⟨hab, habq⟩
    · rcases hbc with hbc | ⟨hbc, -⟩
      · exact Or.inl (lt_trans hab hbc)
      · exact Or.inl (hbc ▸ hab)
    · rcases hbc with hbc | ⟨hbc, hbcq⟩
      · exact Or.inl (hab ▸ hbc)
      · exact Or.inr ⟨hab.trans hbc, lt_trans habq hbcq⟩
  connex := by
    intro a b hab hba
    obtain ⟨hba₁, hab₂⟩ := keyLt_eq_false_iff.1 hab
    obtain ⟨hab₁, hba₂⟩ := keyLt_eq_false_iff.1 hba
    have h₁ : a.1 = b.1 := le_antisymm hab₁ hba₁
    exact Prod.ext h₁ (le_antisymm (hba₂ h₁.symm) (hab₂ h₁))

/-! ## Reading scores -/

theorem hasScore_iff {table : ScoreTable} {key : ScoreKey} :
    hasScore table key = true ↔ ∃ w, (key, w) ∈ table := by
  rw [hasScore, List.any_eq_true]
  constructor
  · rintro ⟨⟨k, w⟩, hmem, heq⟩
    exact ⟨w, (of_decide_eq_true heq : k = key) ▸ hmem⟩
  · rintro ⟨w, hmem⟩
    exact ⟨(key, w), hmem, decide_eq_true rfl⟩

theorem hasScore_eq_false_iff {table : ScoreTable} {key : ScoreKey} :
    hasScore table key = false ↔ ∀ p ∈ table, p.1 ≠ key := by
  rw [← Bool.not_eq_true, hasScore_iff]
  constructor
  · rintro h ⟨k, w⟩ hp rfl
    exact h ⟨w, hp⟩
  · rintro h ⟨w, hp⟩
    exact h _ hp rfl

/-- The weights of a file are its entries of the table. -/
theorem mem_weightsOf {table : ScoreTable} {f : String} {q : QueryId} {w : Double} :
    (q, w) ∈ weightsOf table f ↔ ((f, q), w) ∈ table := by
  rw [weightsOf, List.mem_map]
  constructor
  · rintro ⟨⟨⟨g, q'⟩, w'⟩, hmem, heq⟩
    obtain ⟨hmem, hg⟩ := List.mem_filter.1 hmem
    obtain ⟨rfl, rfl⟩ := Prod.mk.inj heq
    exact (of_decide_eq_true hg : g = f) ▸ hmem
  · intro hmem
    exact ⟨((f, q), w), List.mem_filter.2 ⟨hmem, decide_eq_true rfl⟩, rfl⟩

/-- The weights of a file stand by ascending query. -/
theorem pairwise_weightsOf {table : ScoreTable} (h : Ascending keyLt table) (f : String) :
    (weightsOf table f).Pairwise (fun a b => a.1 < b.1) := by
  rw [weightsOf, List.pairwise_map]
  refine List.Pairwise.imp_of_mem ?_ (h.filter _)
  intro a b ha hb hab
  have hfa : a.1.1 = f := of_decide_eq_true (List.mem_filter.1 ha).2
  have hfb : b.1.1 = f := of_decide_eq_true (List.mem_filter.1 hb).2
  rcases keyLt_iff.1 hab with hlt | ⟨-, hlt⟩
  · rw [hfa, hfb] at hlt
    exact absurd hlt (lt_irrefl f)
  · exact hlt

theorem weightsOf_cons_self (f : String) (q : QueryId) (w : Double) (rest : ScoreTable) :
    weightsOf (((f, q), w) :: rest) f = (q, w) :: weightsOf rest f := by
  simp [weightsOf]

theorem weightsOf_cons_ne {f g : String} (h : g ≠ f) (q : QueryId) (w : Double)
    (rest : ScoreTable) : weightsOf (((g, q), w) :: rest) f = weightsOf rest f := by
  simp [weightsOf, h]

theorem weightsOf_eq_nil {table : ScoreTable} {f : String} (h : ∀ p ∈ table, p.1.1 ≠ f) :
    weightsOf table f = [] := by
  rw [weightsOf, List.map_eq_nil_iff, List.filter_eq_nil_iff]
  intro p hp heq
  exact h p hp (of_decide_eq_true heq)

/-! ## Writing scores -/

/-- A score as an entry of the table. -/
def ScoreRow.entry (r : ScoreRow) : ScoreKey × Double := (r.key, r.weight)

@[simp] theorem map_fst_map_entry (rows : List ScoreRow) :
    (rows.map ScoreRow.entry).map Prod.fst = rows.map ScoreRow.key := by
  rw [List.map_map]
  rfl

theorem ascending_insertScores (rows : List (ScoreKey × Double)) {table : ScoreTable}
    (h : Ascending keyLt table) : Ascending keyLt (insertScores table rows) :=
  h.foldl_insertBy keyOrder_keyLt rows

/-- Writing scores of new, different keys adds exactly these scores. -/
theorem mem_insertScores {rows : List (ScoreKey × Double)} {table : ScoreTable}
    (h : Ascending keyLt table) (fresh : ∀ p ∈ rows, hasScore table p.1 = false)
    (distinct : (rows.map Prod.fst).Nodup) {p : ScoreKey × Double} :
    p ∈ insertScores table rows ↔ p ∈ table ∨ p ∈ rows :=
  mem_foldl_insertBy keyOrder_keyLt h (fun x hx => hasScore_eq_false_iff.1 (fresh x hx)) distinct

theorem hasScore_insertScore {table : ScoreTable} (h : Ascending keyLt table) (key : ScoreKey)
    (w : Double) (k : ScoreKey) :
    hasScore (insertScore key w table) k = (decide (k = key) || hasScore table k) := by
  rw [Bool.eq_iff_iff, Bool.or_eq_true, decide_eq_true_eq, hasScore_iff, hasScore_iff]
  simp only [insertScore, mem_insertBy keyOrder_keyLt h]
  constructor
  · rintro ⟨w', heq | ⟨hmem, -⟩⟩
    · exact Or.inl (Prod.mk.inj heq).1
    · exact Or.inr ⟨w', hmem⟩
  · intro hor
    by_cases hk : k = key
    · subst hk
      exact ⟨w, Or.inl rfl⟩
    · obtain ⟨w', hmem⟩ := hor.resolve_left hk
      exact ⟨w', Or.inr ⟨hmem, hk⟩⟩

/-! ## Records by key -/

theorem find?_putBy {α β : Type} [DecidableEq β] (key : α → β) (x : α) (l : List α) (k : β) :
    (putBy key x l).find? (fun y => decide (key y = k)) =
      if key x = k then some x else l.find? (fun y => decide (key y = k)) := by
  induction l with
  | nil => by_cases h : key x = k <;> simp [putBy, h]
  | cons y rest ih =>
    rw [putBy]
    by_cases hy : key y = key x
    · rw [if_pos hy]
      by_cases hx : key x = k
      · simp [hx]
      · have hyk : key y ≠ k := fun h => hx (hy.symm.trans h)
        simp [hx, hyk]
    · rw [if_neg hy, List.find?_cons, List.find?_cons, ih]
      by_cases hyk : key y = k
      · have hx : key x ≠ k := fun h => hy (hyk.trans h.symm)
        simp [hyk, hx]
      · simp [hyk]

/-- Writing a record adds its key to those that occur. -/
theorem any_putBy {α β : Type} [DecidableEq β] (key : α → β) (x : α) (l : List α) (k : β) :
    (putBy key x l).any (fun y => decide (key y = k)) =
      (l.any (fun y => decide (key y = k)) || decide (key x = k)) := by
  induction l with
  | nil => simp [putBy]
  | cons y rest ih =>
    rw [putBy]
    by_cases hy : key y = key x
    · rw [if_pos hy, List.any_cons, List.any_cons, hy, Bool.or_comm, Bool.or_right_comm,
        Bool.or_assoc, Bool.or_self]
    · rw [if_neg hy, List.any_cons, List.any_cons, ih, Bool.or_assoc]

/-- **The last record of a key counts.** -/
theorem find?_foldl_putBy {α β : Type} [DecidableEq β] (key : α → β) (xs l : List α) (k : β) :
    (xs.foldl (fun ys x => putBy key x ys) l).find? (fun y => decide (key y = k)) =
      (xs.filter (fun x => decide (key x = k))).getLast?.or
        (l.find? (fun y => decide (key y = k))) := by
  induction xs generalizing l with
  | nil => rfl
  | cons x rest ih =>
    rw [List.foldl_cons, ih, find?_putBy, ← List.singleton_append, List.filter_append,
      List.getLast?_append, Option.or_assoc]
    by_cases h : key x = k <;> simp [h]

/-- Writing a record keeps the keys, and adds its own if it is new. -/
theorem map_putBy {α β : Type} [DecidableEq β] (key : α → β) (x : α) (l : List α) :
    (putBy key x l).map key = if key x ∈ l.map key then l.map key else l.map key ++ [key x] := by
  induction l with
  | nil => simp [putBy]
  | cons y rest ih =>
    rw [putBy]
    by_cases hy : key y = key x
    · simp [hy]
    · rw [if_neg hy, List.map_cons, ih, List.map_cons]
      by_cases hmem : key x ∈ rest.map key
      · rw [if_pos hmem, if_pos (List.mem_cons_of_mem _ hmem)]
      · rw [if_neg hmem, if_neg (List.not_mem_cons_of_ne_of_not_mem (Ne.symm hy) hmem),
          List.cons_append]

/-- **Records of one key are never two**, whatever is written. -/
theorem nodup_foldl_putBy {α β : Type} [DecidableEq β] (key : α → β) (xs : List α) {l : List α}
    (h : (l.map key).Nodup) : ((xs.foldl (fun ys x => putBy key x ys) l).map key).Nodup := by
  induction xs generalizing l with
  | nil => exact h
  | cons x rest ih =>
    refine ih ?_
    rw [map_putBy]
    split_ifs with hmem
    · exact h
    · exact List.nodup_append.2 ⟨h, List.nodup_singleton _, by simpa using hmem⟩

/-- A record of a new key stands behind the others. -/
theorem putBy_of_notMem {α β : Type} [DecidableEq β] {key : α → β} {x : α} {l : List α}
    (h : key x ∉ l.map key) : putBy key x l = l ++ [x] := by
  induction l with
  | nil => rfl
  | cons y rest ih =>
    rw [List.map_cons, List.mem_cons, not_or] at h
    rw [putBy, if_neg (fun heq => h.1 heq.symm), ih h.2, List.cons_append]

/-- **Records of new, different keys** stand behind the others, in their order. -/
theorem foldl_putBy_eq_append {α β : Type} [DecidableEq β] {key : α → β} {xs l : List α}
    (fresh : ∀ x ∈ xs, key x ∉ l.map key) (distinct : (xs.map key).Nodup) :
    xs.foldl (fun ys x => putBy key x ys) l = l ++ xs := by
  induction xs generalizing l with
  | nil => rw [List.foldl_nil, List.append_nil]
  | cons x rest ih =>
    obtain ⟨hx, hrest⟩ := List.forall_mem_cons.1 fresh
    rw [List.map_cons, List.nodup_cons] at distinct
    rw [List.foldl_cons, putBy_of_notMem hx, ih ?_ distinct.2, List.append_assoc,
      List.singleton_append]
    intro y hy hmem
    rw [List.map_append, List.mem_append, List.map_singleton, List.mem_singleton] at hmem
    rcases hmem with hmem | heq
    · exact hrest y hy hmem
    · exact distinct.1 (heq ▸ List.mem_map_of_mem hy)

/-! ## Display entries -/

/-- The last entry of a file among several. -/
def lastDisplay (entries : List DisplayEntry) (f : String) : Option DisplayEntry :=
  (entries.filter (fun e => e.fileId = f)).getLast?

theorem lastDisplay_append (es es' : List DisplayEntry) (f : String) :
    lastDisplay (es ++ es') f = (lastDisplay es' f).or (lastDisplay es f) := by
  rw [lastDisplay, lastDisplay, lastDisplay, List.filter_append, List.getLast?_append]

theorem mem_of_lastDisplay {entries : List DisplayEntry} {f : String} {e : DisplayEntry}
    (h : lastDisplay entries f = some e) : e ∈ entries ∧ e.fileId = f := by
  have hmem := List.mem_of_getLast? h
  exact ⟨(List.mem_filter.1 hmem).1, of_decide_eq_true (List.mem_filter.1 hmem).2⟩

theorem lastDisplay_eq_none_iff {entries : List DisplayEntry} {f : String} :
    lastDisplay entries f = none ↔ f ∉ entries.map DisplayEntry.fileId := by
  rw [lastDisplay, List.getLast?_eq_none_iff, List.filter_eq_nil_iff]
  simp [List.mem_map]

/-- **The last entry of a file counts.** -/
theorem displayOf_foldl_putDisplay (es entries : List DisplayEntry) (f : String) :
    displayOf (es.foldl putDisplay entries) f = (lastDisplay es f).or (displayOf entries f) :=
  find?_foldl_putBy DisplayEntry.fileId es entries f

end Tagging
