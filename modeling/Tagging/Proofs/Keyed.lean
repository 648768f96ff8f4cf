import Mathlib.Data.List.Nodup
import Mathlib.Order.Defs.Unbundled
import Tagging.Basic

/-!
# Lists by ascending key are finite maps

The theory of `insertBy`, for a strict total order `lt` on the keys, and what lists have in common
whose items are related one by one.

* `KeyOrder` — what an order on keys has to satisfy;
* `Ascending` — the keys of a list ascend, so that every key occurs once;
* `mem_insertBy`, `Ascending.insertBy` — writing replaces the value of one key, leaves all others
  alone, and keeps the order;
* `mem_foldl_insertBy`, `Ascending.foldl_insertBy` — writing several pairs of new, different keys
  adds exactly these pairs; of any pairs, `exists_mem_foldl_insertBy`, it adds the keys;
* `Ascending.ext` — **a list is determined by its pairs**: two ascending lists with the same pairs
  are equal;
* `exists_mem_of_forall₂` — what an item on the left is related to on the right.
-/

namespace Tagging

variable {κ ν : Type} {lt : κ → κ → Bool}

/-! ## Orders on keys -/

/-- A strict total order on keys, as a decision. -/
structure KeyOrder (lt : κ → κ → Bool) : Prop where
  /-- No key comes before itself. -/
  irrefl : ∀ a, lt a a = false
  /-- What comes before what comes before comes before. -/
  trans : ∀ {a b c}, lt a b = true → lt b c = true → lt a c = true
  /-- Two keys of which neither comes first are the same. -/
  connex : ∀ {a b}, lt a b = false → lt b a = false → a = b

theorem KeyOrder.asymm (ord : KeyOrder lt) {a b : κ} (h : lt a b = true) : lt b a = false := by
  cases hba : lt b a with
  | false => rfl
  | true =>
    have haa : lt a a = true := ord.trans h hba
    rw [ord.irrefl a] at haa
    exact haa.symm

theorem KeyOrder.ne (ord : KeyOrder lt) {a b : κ} (h : lt a b = true) : a ≠ b := by
  rintro rfl
  rw [ord.irrefl a] at h
  exact absurd h (by simp)

/-! ## Ascending lists -/

/-- Do the keys ascend? -/
def Ascending (lt : κ → κ → Bool) (l : List (κ × ν)) : Prop :=
  l.Pairwise (fun a b => lt a.1 b.1 = true)

theorem Ascending.nil : Ascending lt ([] : List (κ × ν)) := List.Pairwise.nil

/-- The keys of an ascending list are pairwise different. -/
theorem Ascending.nodup_keys (ord : KeyOrder lt) {l : List (κ × ν)} (h : Ascending lt l) :
    (l.map Prod.fst).Nodup := by
  rw [List.Nodup, List.pairwise_map]
  exact h.imp (fun hab => ord.ne hab)

theorem Ascending.nodup (ord : KeyOrder lt) {l : List (κ × ν)} (h : Ascending lt l) : l.Nodup :=
  List.Nodup.of_map Prod.fst (h.nodup_keys ord)

/-- **A list is determined by its pairs.** -/
theorem Ascending.ext (ord : KeyOrder lt) {l₁ l₂ : List (κ × ν)} (h₁ : Ascending lt l₁)
    (h₂ : Ascending lt l₂) (h : ∀ p, p ∈ l₁ ↔ p ∈ l₂) : l₁ = l₂ := by
  refine List.Perm.eq_of_pairwise ?_ h₁ h₂
    ((List.perm_ext_iff_of_nodup (h₁.nodup ord) (h₂.nodup ord)).2 h)
  intro a b _ _ hab hba
  rw [ord.asymm hab] at hba
  exact absurd hba (by simp)

/-! ## Writing one key -/

/-- Writing a key never adds a pair of another key. -/
theorem key_eq_or_mem_of_mem_insertBy {key : κ} {value : ν} {l : List (κ × ν)} {p : κ × ν}
    (h : p ∈ insertBy lt key value l) : p = (key, value) ∨ p ∈ l := by
  induction l with
  | nil => exact Or.inl (by simpa [insertBy] using h)
  | cons q rest ih =>
    obtain ⟨k, v⟩ := q
    rw [insertBy] at h
    split at h
    · exact List.mem_cons.1 h
    · split at h
      · rcases List.mem_cons.1 h with rfl | h
        · exact Or.inr (List.mem_cons_self ..)
        · exact (ih h).imp id (List.mem_cons_of_mem _)
      · exact (List.mem_cons.1 h).imp id (List.mem_cons_of_mem _)

/-- Writing a key keeps the order. -/
theorem Ascending.insertBy (ord : KeyOrder lt) (key : κ) (value : ν) {l : List (κ × ν)}
    (h : Ascending lt l) : Ascending lt (insertBy lt key value l) := by
  induction l with
  | nil => exact List.pairwise_singleton _ _
  | cons q rest ih =>
    obtain ⟨k, v⟩ := q
    obtain ⟨hk, hrest⟩ := List.pairwise_cons.1 h
    rw [Tagging.insertBy]
    split
    · rename_i hlt
      refine List.pairwise_cons.2 ⟨?_, h⟩
      intro p hp
      rcases List.mem_cons.1 hp with rfl | hp
      · exact hlt
      · exact ord.trans hlt (hk p hp)
    · rename_i hnlt
      split
      · rename_i hgt
        refine List.pairwise_cons.2 ⟨?_, ih hrest⟩
        intro p hp
        rcases key_eq_or_mem_of_mem_insertBy hp with rfl | hp
        · exact hgt
        · exact hk p hp
      · rename_i hngt
        have hkey : key = k :=
          ord.connex (Bool.eq_false_iff.2 hnlt) (Bool.eq_false_iff.2 hngt)
        subst hkey
        exact List.pairwise_cons.2 ⟨hk, hrest⟩

/-- **Writing replaces one key.**  Afterwards the list holds the new pair, and of the old pairs
those of other keys. -/
theorem mem_insertBy (ord : KeyOrder lt) {key : κ} {value : ν} {l : List (κ × ν)}
    (h : Ascending lt l) {p : κ × ν} :
    p ∈ insertBy lt key value l ↔ p = (key, value) ∨ (p ∈ l ∧ p.1 ≠ key) := by
  induction l with
  | nil => simp [insertBy]
  | cons q rest ih =>
    obtain ⟨k, v⟩ := q
    obtain ⟨hk, hrest⟩ := List.pairwise_cons.1 h
    rw [insertBy]
    split
    · -- the new key comes before all others
      rename_i hlt
      have hne : ∀ p ∈ (k, v) :: rest, p.1 ≠ key := by
        intro p hp
        rcases List.mem_cons.1 hp with rfl | hp
        · exact (ord.ne hlt).symm
        · exact (ord.ne (ord.trans hlt (hk p hp))).symm
      rw [List.mem_cons]
      exact or_congr_right ⟨fun hp => ⟨hp, hne p hp⟩, And.left⟩
    · rename_i hnlt
      split
      · -- the new key comes later
        rename_i hgt
        rw [List.mem_cons, List.mem_cons, ih hrest]
        constructor
        · rintro (rfl | rfl | ⟨hp, hne⟩)
          · exact Or.inr ⟨Or.inl rfl, ord.ne hgt⟩
          · exact Or.inl rfl
          · exact Or.inr ⟨Or.inr hp, hne⟩
        · rintro (rfl | ⟨rfl | hp, hne⟩)
          · exact Or.inr (Or.inl rfl)
          · exact Or.inl rfl
          · exact Or.inr (Or.inr ⟨hp, hne⟩)
      · -- the new key is the first one
        rename_i hngt
        have hkey : key = k :=
          ord.connex (Bool.eq_false_iff.2 hnlt) (Bool.eq_false_iff.2 hngt)
        subst hkey
        rw [List.mem_cons, List.mem_cons]
        constructor
        · rintro (rfl | hp)
          · exact Or.inl rfl
          · exact Or.inr ⟨Or.inr hp, (ord.ne (hk p hp)).symm⟩
        · rintro (rfl | ⟨rfl | hp, hne⟩)
          · exact Or.inl rfl
          · exact absurd rfl hne
          · exact Or.inr hp

/-! ## Writing several keys -/

theorem Ascending.foldl_insertBy (ord : KeyOrder lt) (pairs : List (κ × ν)) {l : List (κ × ν)}
    (h : Ascending lt l) :
    Ascending lt (pairs.foldl (fun done p => Tagging.insertBy lt p.1 p.2 done) l) := by
  induction pairs generalizing l with
  | nil => exact h
  | cons p rest ih => exact ih (h.insertBy ord p.1 p.2)

/-- Writing several pairs never adds any other pair. -/
theorem mem_or_mem_of_mem_foldl_insertBy {pairs l : List (κ × ν)} {p : κ × ν}
    (h : p ∈ pairs.foldl (fun done p => insertBy lt p.1 p.2 done) l) : p ∈ l ∨ p ∈ pairs := by
  induction pairs generalizing l with
  | nil => exact Or.inl h
  | cons x rest ih =>
    rcases ih h with hmem | hmem
    · rcases key_eq_or_mem_of_mem_insertBy hmem with rfl | hmem
      · exact Or.inr (List.mem_cons_self ..)
      · exact Or.inl hmem
    · exact Or.inr (List.mem_cons_of_mem _ hmem)

/-- Writing pairs of different keys, none of which the list has, adds exactly these pairs. -/
theorem mem_foldl_insertBy (ord : KeyOrder lt) {pairs l : List (κ × ν)} (h : Ascending lt l)
    (fresh : ∀ p ∈ pairs, ∀ q ∈ l, q.1 ≠ p.1) (distinct : (pairs.map Prod.fst).Nodup) {p : κ × ν} :
    p ∈ pairs.foldl (fun done p => insertBy lt p.1 p.2 done) l ↔ p ∈ l ∨ p ∈ pairs := by
  induction pairs generalizing l with
  | nil => simp
  | cons x rest ih =>
    obtain ⟨hx, hrest⟩ := List.nodup_cons.1 distinct
    have hold : ∀ q ∈ l, q.1 ≠ x.1 := fresh x (List.mem_cons_self ..)
    have hmem : ∀ q, q ∈ insertBy lt x.1 x.2 l ↔ q = x ∨ q ∈ l := by
      intro q
      rw [mem_insertBy ord h]
      exact or_congr_right ⟨And.left, fun hq => ⟨hq, hold q hq⟩⟩
    have hfresh : ∀ p ∈ rest, ∀ q ∈ insertBy lt x.1 x.2 l, q.1 ≠ p.1 := by
      intro p hp q hq
      rcases (hmem q).1 hq with rfl | hq
      · intro heq
        exact hx (heq ▸ List.mem_map_of_mem hp)
      · exact fresh p (List.mem_cons_of_mem _ hp) q hq
    rw [List.foldl_cons, ih (h.insertBy ord x.1 x.2) hfresh hrest, hmem, List.mem_cons]
    tauto

/-- **The keys of written pairs are there**, and no others besides those of the list. -/
theorem exists_mem_foldl_insertBy (ord : KeyOrder lt) {pairs l : List (κ × ν)}
    (h : Ascending lt l) {key : κ} :
    (∃ v, (key, v) ∈ pairs.foldl (fun done p => insertBy lt p.1 p.2 done) l) ↔
      (∃ v, (key, v) ∈ l) ∨ ∃ v, (key, v) ∈ pairs := by
  induction pairs generalizing l with
  | nil => simp
  | cons x rest ih =>
    have hone : (∃ v, (key, v) ∈ insertBy lt x.1 x.2 l) ↔ key = x.1 ∨ ∃ v, (key, v) ∈ l := by
      constructor
      · rintro ⟨v, hv⟩
        rcases (mem_insertBy ord h).1 hv with heq | ⟨hv, -⟩
        · exact Or.inl (Prod.mk.inj heq).1
        · exact Or.inr ⟨v, hv⟩
      · intro hkey
        by_cases heq : key = x.1
        · exact ⟨x.2, (mem_insertBy ord h).2 (Or.inl (by rw [heq]))⟩
        · obtain ⟨v, hv⟩ := hkey.resolve_left heq
          exact ⟨v, (mem_insertBy ord h).2 (Or.inr ⟨hv, heq⟩)⟩
    have hpairs : (∃ v, (key, v) ∈ x :: rest) ↔ key = x.1 ∨ ∃ v, (key, v) ∈ rest := by
      simp only [List.mem_cons, Prod.ext_iff, exists_or]
      exact or_congr_left ⟨fun ⟨_, hkey, _⟩ => hkey, fun hkey => ⟨x.2, hkey, rfl⟩⟩
    rw [List.foldl_cons, ih (h.insertBy ord x.1 x.2), hone, hpairs]
    tauto

/-! ## Related lists -/

/-- Of lists that are related item by item, each item on the left has one on the right. -/
theorem exists_mem_of_forall₂ {α β : Type} {R : α → β → Prop} {l : List α} {l' : List β}
    (h : List.Forall₂ R l l') : ∀ x ∈ l, ∃ y ∈ l', R x y := by
  induction h with
  | nil => simp
  | @cons x y l l' hxy _ ih =>
    refine List.forall_mem_cons.2 ⟨⟨y, List.mem_cons_self .., hxy⟩, fun x' hx' => ?_⟩
    obtain ⟨y', hy', hrel⟩ := ih x' hx'
    exact ⟨y', List.mem_cons_of_mem _ hy', hrel⟩

end Tagging
