import Mathlib.Data.Finset.Dedup
import Mathlib.Data.Finset.Empty
import Mathlib.Data.List.Induction
import Tagging.Corpus.Terms

/-!
# The words that a query text asks for

A query text asks for two sets of words: those of the pieces without a minus sign in front, and
those of the other pieces.  An index reads the first set off all pieces at once and drops repeated
words afterwards; a highlighter passes over the other pieces and never takes in a repeated word.
Both come to the same list.

* `requiredWords`, `excludedWords` — the two sets;
* `mem_firstOccurrences`, `nodup_firstOccurrences`, `firstOccurrences_concat` — repeated words;
* `SearchTerms.foldl_addPiece`, `SearchTerms.ofText?_eq_none_iff`, `SearchTerms.ofText?_eq_some` —
  **what an index looks for** are the two sets;
* `addPositive_firstOccurrences`, `positiveTerms_eq`, `mem_positiveTerms` — **what a highlighter
  marks** is what an index requires.
-/

namespace Tagging

open Text

/-! ## Two sets of words -/

/-- The words of the pieces that do not begin with a minus sign. -/
def requiredWords (text : String) : Finset String :=
  (((pieces text).filter fun piece => piece.toList.head? ≠ some '-').flatMap tokens).toFinset

/-- The words of the pieces that begin with a minus sign, without this sign. -/
def excludedWords (text : String) : Finset String :=
  (((pieces text).filter fun piece => piece.toList.head? = some '-').flatMap
    fun piece => tokens (String.ofList piece.toList.tail)).toFinset

theorem afterMinus?_eq_none {piece : String} :
    afterMinus? piece = none ↔ piece.toList.head? ≠ some '-' := by
  unfold afterMinus?
  split
  case h_1 rest h => simp [h]
  case h_2 h =>
    cases hcs : piece.toList with
    | nil => simp
    | cons c rest =>
      have hne : c ≠ '-' := by
        rintro rfl
        exact h rest hcs
      simp [hne]

theorem afterMinus?_eq_some {piece rest : String} :
    afterMinus? piece = some rest ↔
      piece.toList.head? = some '-' ∧ String.ofList piece.toList.tail = rest := by
  unfold afterMinus?
  split
  case h_1 cs h => simp [h]
  case h_2 h =>
    cases hcs : piece.toList with
    | nil => simp
    | cons c rest =>
      have hne : c ≠ '-' := by
        rintro rfl
        exact h rest hcs
      simp [hne]

/-! ## Repeated words -/

theorem mem_firstOccurrences {words : List String} {t : String} :
    t ∈ firstOccurrences words ↔ t ∈ words := by
  induction words with
  | nil => rfl
  | cons x rest ih =>
    rw [firstOccurrences, List.mem_cons, List.mem_cons, List.mem_filter, ih]
    by_cases h : t = x
    · simp [h]
    · simp [h]

theorem nodup_firstOccurrences (words : List String) : (firstOccurrences words).Nodup := by
  induction words with
  | nil => exact List.nodup_nil
  | cons x rest ih =>
    rw [firstOccurrences, List.nodup_cons]
    exact ⟨by simp, ih.filter _⟩

/-- One more word is added unless it is there. -/
theorem firstOccurrences_concat (words : List String) (t : String) :
    firstOccurrences (words ++ [t]) = addTerm (firstOccurrences words) t := by
  induction words with
  | nil => simp [firstOccurrences, addTerm]
  | cons x rest ih =>
    rw [List.cons_append, firstOccurrences, ih, firstOccurrences]
    simp only [addTerm, mem_firstOccurrences, List.mem_cons, List.mem_filter]
    by_cases hx : t = x
    · subst hx
      by_cases hrest : t ∈ rest
      · simp [hrest]
      · simp [hrest]
    · by_cases hrest : t ∈ rest
      · simp [hx, hrest]
      · simp [hx, hrest]

theorem foldl_addTerm (words more : List String) :
    more.foldl addTerm (firstOccurrences words) = firstOccurrences (words ++ more) := by
  induction more generalizing words with
  | nil => simp
  | cons t rest ih =>
    rw [List.foldl_cons, ← firstOccurrences_concat, ih]
    simp

/-! ## What an index looks for -/

namespace SearchTerms

/-- The words of all pieces, those to require and those to exclude. -/
theorem foldl_addPiece (ps : List String) (terms : SearchTerms) :
    ps.foldl addPiece terms =
      ⟨terms.required ++
          (ps.filter fun piece => piece.toList.head? ≠ some '-').flatMap tokens,
        terms.excluded ++ (ps.filter fun piece => piece.toList.head? = some '-').flatMap
          fun piece => tokens (String.ofList piece.toList.tail)⟩ := by
  induction ps generalizing terms with
  | nil => simp
  | cons piece rest ih =>
    rw [List.foldl_cons, ih, addPiece]
    cases h : afterMinus? piece with
    | none =>
      have hplain := afterMinus?_eq_none.1 h
      simp [hplain]
    | some words =>
      obtain ⟨hminus, rfl⟩ := afterMinus?_eq_some.1 h
      simp [hminus]

variable {text : String}

theorem mem_required_collect {t : String} : t ∈ (collect text).required ↔ t ∈ requiredWords text := by
  simp only [collect, foldl_addPiece, requiredWords, List.mem_toFinset, List.nil_append]

theorem mem_excluded_collect {t : String} : t ∈ (collect text).excluded ↔ t ∈ excludedWords text := by
  simp only [collect, foldl_addPiece, excludedWords, List.mem_toFinset, List.nil_append]

/-- A text asks for nothing if it has no word to require. -/
theorem ofText?_eq_none_iff : ofText? text = none ↔ requiredWords text = ∅ := by
  unfold ofText?
  dsimp only
  split_ifs with h
  · rw [List.isEmpty_iff] at h
    have hnone : ∀ t, t ∉ requiredWords text := by
      intro t
      rw [← mem_required_collect, h]
      exact List.not_mem_nil
    simp [Finset.eq_empty_iff_forall_notMem, hnone]
  · rw [List.isEmpty_iff] at h
    obtain ⟨t, ht⟩ := List.exists_mem_of_ne_nil _ h
    simp only [false_iff, ← Finset.nonempty_iff_ne_empty]
    exact ⟨t, mem_required_collect.1 ht⟩

/-- **What an index looks for** are the two sets of words, those to require each once. -/
theorem ofText?_eq_some {terms : SearchTerms} (h : ofText? text = some terms) :
    terms.required.Nodup ∧ terms.required.toFinset = requiredWords text ∧
      ∀ t, t ∈ terms.excluded ↔ t ∈ excludedWords text := by
  unfold ofText? at h
  dsimp only at h
  split_ifs at h
  obtain rfl := Option.some.inj h
  refine ⟨nodup_firstOccurrences _, ?_, fun t => mem_excluded_collect⟩
  ext t
  rw [List.mem_toFinset, mem_firstOccurrences, mem_required_collect]

end SearchTerms

/-! ## What a highlighter marks -/

/-- What a highlighter makes of one piece. -/
def addPositive (terms : List String) (piece : String) : List String :=
  match afterMinus? piece with
  | some _ => terms
  | none => (tokens piece).foldl addTerm terms

/-- **Piece by piece**, a highlighter has the words that an index requires so far, each once. -/
theorem addPositive_firstOccurrences (terms : SearchTerms) (piece : String) :
    addPositive (firstOccurrences terms.required) piece =
      firstOccurrences (terms.addPiece piece).required := by
  unfold addPositive SearchTerms.addPiece
  cases afterMinus? piece with
  | none => exact foldl_addTerm _ _
  | some rest => rfl

theorem foldl_addPositive (ps : List String) (terms : SearchTerms) :
    ps.foldl addPositive (firstOccurrences terms.required) =
      firstOccurrences (ps.foldl SearchTerms.addPiece terms).required := by
  induction ps generalizing terms with
  | nil => rfl
  | cons piece rest ih => rw [List.foldl_cons, List.foldl_cons, addPositive_firstOccurrences, ih]

/-- **What a highlighter marks** are the words that an index requires, in the same order. -/
theorem positiveTerms_eq (text : String) :
    positiveTerms text = firstOccurrences (SearchTerms.collect text).required :=
  foldl_addPositive (pieces text) ⟨[], []⟩

theorem mem_positiveTerms {text t : String} : t ∈ positiveTerms text ↔ t ∈ requiredWords text := by
  rw [positiveTerms_eq, mem_firstOccurrences, SearchTerms.mem_required_collect]

/-- A word that is required is a word of some piece. -/
theorem exists_token_of_mem_requiredWords {text t : String} (h : t ∈ requiredWords text) :
    ∃ piece, t ∈ tokens piece := by
  rw [requiredWords, List.mem_toFinset, List.mem_flatMap] at h
  obtain ⟨piece, -, ht⟩ := h
  exact ⟨piece, ht⟩

end Tagging
