import Tagging.Corpus.Basic
import Tagging.Proofs.Corpus.Terms
import Tagging.Proofs.Highlight

/-!
# Two readers of a query text

An index and a highlighter read a query text on their own.  The index takes in all words and drops
repeated ones afterwards, by a set of those that it has met; the highlighter looks through what it
has before it takes in a word.  Both have the same words in the same order, and the index gives up
on a text exactly if the highlighter finds nothing in it.

* `positiveWords`, `OnceInOrder` — the words of a text, and what it is to list them once;
* `OnceInOrder.unique`, `onceInOrder_iff` — **there is one such list**, that of first occurrences;
* `keepNew_eq` — dropping repeated words by the set of those that were met;
* `query_readers_agree` — **what the two readers make of a text**.
-/

namespace Tagging

open Text

/-! ## Words listed once -/

/-- The words of the pieces that do not begin with a minus sign, with repetitions. -/
def positiveWords (text : String) : List String :=
  ((pieces text).filter fun piece => piece.toList.head? ≠ some '-').flatMap tokens

/-- The list holds each of the words once, in the order in which they occur first. -/
structure OnceInOrder (words list : List String) : Prop where
  /-- No word is listed twice. -/
  nodup : list.Nodup
  /-- The words are listed, and nothing else. -/
  mem : ∀ t, t ∈ list ↔ t ∈ words
  /-- The words are listed by their first places. -/
  order : list.Pairwise fun s t => words.idxOf s < words.idxOf t

/-- **There is one such list** at most. -/
theorem OnceInOrder.unique {words list list' : List String} (h : OnceInOrder words list)
    (h' : OnceInOrder words list') : list = list' := by
  have hperm : list.Perm list' :=
    (List.perm_ext_iff_of_nodup h.nodup h'.nodup).2 fun t => (h.mem t).trans (h'.mem t).symm
  exact hperm.eq_of_pairwise (fun s t _ _ hst hts => absurd hst (Nat.lt_asymm hts)) h.order h'.order

/-- **The first occurrences** of words are this list. -/
theorem onceInOrder_firstOccurrences (words : List String) :
    OnceInOrder words (firstOccurrences words) := by
  refine ⟨nodup_firstOccurrences words, fun t => mem_firstOccurrences, ?_⟩
  induction words with
  | nil => exact .nil
  | cons x rest ih =>
    have hbehind : ∀ t, t ≠ x → (x :: rest).idxOf t = rest.idxOf t + 1 := fun t ht =>
      List.idxOf_cons_ne _ ht.symm
    have hne : ∀ t ∈ (firstOccurrences rest).filter (fun y => y ≠ x), t ≠ x := fun t ht =>
      of_decide_eq_true (List.mem_filter.1 ht).2
    rw [firstOccurrences, List.pairwise_cons]
    constructor
    · intro t ht
      rw [List.idxOf_cons_self, hbehind t (hne t ht)]
      exact Nat.succ_pos _
    · refine (ih.filter _).imp_of_mem fun {s t} hs ht hlt => ?_
      rw [hbehind s (hne s hs), hbehind t (hne t ht)]
      exact Nat.succ_lt_succ hlt

theorem onceInOrder_iff {words list : List String} :
    OnceInOrder words list ↔ list = firstOccurrences words := by
  constructor
  · intro h
    exact h.unique (onceInOrder_firstOccurrences words)
  · rintro rfl
    exact onceInOrder_firstOccurrences words

/-- Drops the words that were met before, with the set of those that were met so far. -/
def keepNew (met : Finset String) : List String → List String
  | [] => []
  | t :: rest => if t ∈ met then keepNew met rest else t :: keepNew (insert t met) rest

/-- **Dropping repeated words by a set** leaves the first occurrences that are not in it. -/
theorem keepNew_eq (met : Finset String) (words : List String) :
    keepNew met words = (firstOccurrences words).filter fun t => t ∉ met := by
  induction words generalizing met with
  | nil => rfl
  | cons x rest ih =>
    rw [keepNew, firstOccurrences]
    by_cases hx : x ∈ met
    · rw [if_pos hx, ih, List.filter_cons_of_neg (by simpa using hx), List.filter_filter]
      refine List.filter_congr fun t _ => ?_
      have hmet : t ∉ met → t ≠ x := by
        rintro hnot rfl
        exact hnot hx
      simpa using hmet
    · rw [if_neg hx, ih, List.filter_cons_of_pos (by simpa using hx), List.filter_filter]
      refine congrArg (x :: ·) (List.filter_congr fun t _ => ?_)
      simp [Bool.and_comm]

/-! ## The two readers -/

theorem required_collect (text : String) :
    (SearchTerms.collect text).required = positiveWords text := by
  rw [SearchTerms.collect, SearchTerms.foldl_addPiece, List.nil_append]
  rfl

theorem positiveTerms_eq_firstOccurrences (text : String) :
    positiveTerms text = firstOccurrences (positiveWords text) := by
  rw [positiveTerms_eq, required_collect]

theorem firstOccurrences_eq_nil {words : List String} : firstOccurrences words = [] ↔ words = [] := by
  cases words with
  | nil => exact iff_of_true rfl rfl
  | cons x rest => exact iff_of_false (List.cons_ne_nil _ _) (List.cons_ne_nil _ _)

/-- **What an index makes of a text**: nothing if there is no word, and else the words of a
highlighter and what it excludes. -/
theorem ofText?_eq (text : String) : SearchTerms.ofText? text =
    if positiveTerms text = [] then none
    else some ⟨positiveTerms text, (SearchTerms.collect text).excluded⟩ := by
  simp only [SearchTerms.ofText?, List.isEmpty_iff, positiveTerms_eq, firstOccurrences_eq_nil]

/-- **What the two readers make of a text.**  The highlighter has the words of the pieces without a
minus sign, each once, in the order in which they occur first: there is no other such list.  The
index gives up on the text, be it for counting or for searching and over whatever documents, exactly
if this list is empty.  Otherwise it requires exactly the words of this list, in the same order, as
they are left when repeated ones are dropped by a set; and these are the words that a page of any
query with this text is marked with. -/
theorem query_readers_agree (text : String) :
    (∀ list, OnceInOrder (positiveWords text) list ↔ list = positiveTerms text) ∧
    (SearchTerms.ofText? text = none ↔ positiveTerms text = []) ∧
    (∀ (c : Corpus) (limit : Nat),
      (positiveTerms text = [] → c.count text = .error (.noPositiveTerms text) ∧
        c.search text limit = .error (.noPositiveTerms text)) ∧
      (positiveTerms text ≠ [] → (c.count text).isOk = true ∧
        (c.search text limit).isOk = true)) ∧
    ∀ terms, SearchTerms.ofText? text = some terms →
      terms.required = positiveTerms text ∧
      terms.required = keepNew ∅ (positiveWords text) ∧
      ∀ q : NamedQuery, q.text = text → (HighlightQuery.ofNamed q).terms = terms.required ∧
        loweredTerms [HighlightQuery.ofNamed q] = [terms.required] := by
  have hnone : SearchTerms.ofText? text = none ↔ positiveTerms text = [] := by
    rw [ofText?_eq]
    simp
  have honce : ∀ list, OnceInOrder (positiveWords text) list ↔ list = positiveTerms text := by
    intro list
    rw [positiveTerms_eq_firstOccurrences]
    exact onceInOrder_iff
  refine ⟨honce, hnone, fun c limit => ⟨fun h => ?_, fun h => ?_⟩, fun terms hterms => ?_⟩
  · rw [Corpus.count, Corpus.search, hnone.2 h]
    exact ⟨rfl, rfl⟩
  · obtain ⟨terms, hterms⟩ := Option.ne_none_iff_exists'.1 (mt hnone.1 h)
    rw [Corpus.count, Corpus.search, hterms]
    exact ⟨rfl, rfl⟩
  · rw [ofText?_eq] at hterms
    split_ifs at hterms
    obtain rfl := Option.some.inj hterms
    refine ⟨rfl, ?_, ?_⟩
    · rw [keepNew_eq, positiveTerms_eq_firstOccurrences]
      simp
    · rintro q rfl
      exact ⟨rfl, loweredTerms_ofNamed [q]⟩

-- a repeated word, an exclusion, and a piece of two words
example : positiveTerms "Alpha -beta alpha gamma-delta" = ["alpha", "gamma", "delta"] := by
  decide +kernel

end Tagging
