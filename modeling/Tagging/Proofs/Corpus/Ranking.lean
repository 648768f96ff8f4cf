import Mathlib.Algebra.BigOperators.Group.Finset.Basic
import Mathlib.Algebra.Ring.Nat
import Tagging.Proofs.Corpus.Search
import Tagging.Proofs.Corpus.Terms
import Tagging.Proofs.Number

/-!
# What a corpus finds

A document matches a query text when its texts together hold every required word and no excluded
one.  A corpus finds all of these documents, the best first.  So a text has no other hits when its
words stand in another order or are repeated.

* `Document.holds`, `Document.wordCount` — a document as the words of its texts;
* `Document.Matches`, `Document.scoreFor` — what a query text asks of a document;
* `IndexedDocument.score?_eq_some_iff` — **a document has a score when it matches**, and the score
  counts the required words;
* `HitBefore`, `Ranking` — the list of all matches, best first;
* `Corpus.ranking` — a corpus sorts its matches into this list;
* `corpus_ranks_matches` — **what counting and searching answer**.
-/

namespace Tagging

open Text

/-! ## Documents as words -/

/-- The texts of a document that are searched. -/
def Document.texts (d : Document) : List String := d.displayName :: d.fields.map Prod.snd

/-- A word occurs in one of the texts. -/
def Document.Holds (d : Document) (word : String) : Prop := ∃ text ∈ d.texts, word ∈ tokens text

/-- The word stands in the name or in a field. -/
theorem Document.Holds.cases {d : Document} {word : String} (h : d.Holds word) :
    word ∈ tokens d.displayName ∨ ∃ field ∈ d.fields, word ∈ tokens field.2 := by
  obtain ⟨text, htext, hword⟩ := h
  rw [Document.texts, List.mem_cons, List.mem_map] at htext
  rcases htext with rfl | ⟨field, hfield, rfl⟩
  · exact .inl hword
  · exact .inr ⟨field, hfield, hword⟩

/-- How often a word occurs in the texts together. -/
def Document.wordCount (d : Document) (word : String) : Nat :=
  (d.texts.map fun text => (tokens text).count word).sum

/-- The document holds every required word and no excluded one. -/
structure Document.Matches (d : Document) (text : String) : Prop where
  /-- The words to require. -/
  required : ∀ word ∈ requiredWords text, d.Holds word
  /-- The words to exclude. -/
  excluded : ∀ word ∈ excludedWords text, ¬ d.Holds word

/-- How often the required words occur together, up to the greatest score. -/
def Document.scoreFor (d : Document) (text : String) : Nat :=
  min (∑ word ∈ requiredWords text, d.wordCount word) IndexedDocument.maxScore

namespace IndexedDocument

variable {d : Document} {word : String}

/-- The words of a document are those of its texts. -/
theorem words_ofDocument (d : Document) : (ofDocument d).words = d.texts.flatMap tokens := by
  rw [ofDocument, Document.texts, List.flatMap_cons, List.flatMap_map]

theorem occurrences_ofDocument (d : Document) (word : String) :
    (ofDocument d).occurrences word = d.wordCount word := by
  rw [occurrences, words_ofDocument, List.count_flatMap, Document.wordCount]
  rfl

/-- An indexed word is one that some text holds. -/
theorem occurrences_ne_zero : (ofDocument d).occurrences word ≠ 0 ↔ d.Holds word := by
  rw [occurrences, Nat.ne_zero_iff_zero_lt, List.count_pos_iff, words_ofDocument,
    List.mem_flatMap, Document.Holds]

/-! ## Scores -/

/-- Sums that are cut at the greatest score in each step are cut there once. -/
theorem min_add_min (a b bound : Nat) : min (min a bound + b) bound = min (a + b) bound := by
  omega

/-- A total is there when every word occurs, and is the sum, cut once. -/
theorem total?_eq_some_iff {e : IndexedDocument} {words : List String} {sum s : Nat}
    (hsum : sum ≤ maxScore) : e.total? sum words = some s ↔
      (∀ word ∈ words, e.occurrences word ≠ 0) ∧
        s = min (sum + (words.map e.occurrences).sum) maxScore := by
  induction words generalizing sum with
  | nil =>
    have hself : min sum maxScore = sum := Nat.min_eq_left hsum
    simp [total?, hself, eq_comm]
  | cons word rest ih =>
    rw [total?]
    by_cases h : e.occurrences word = 0
    · simp [h]
    · rw [if_neg h, ih (Nat.min_le_right _ _), min_add_min, List.map_cons, List.sum_cons,
        Nat.add_assoc, List.forall_mem_cons]
      simp [h]

/-- **A document has a score when it matches**, and the score counts the required words. -/
theorem score?_eq_some_iff {text : String} {terms : SearchTerms} {s : Nat}
    (h : SearchTerms.ofText? text = some terms) :
    (ofDocument d).score? terms = some s ↔ d.Matches text ∧ s = d.scoreFor text := by
  obtain ⟨hnodup, hrequired, hexcluded⟩ := SearchTerms.ofText?_eq_some h
  have hmem : ∀ word, word ∈ terms.required ↔ word ∈ requiredWords text := by
    intro word
    rw [← hrequired, List.mem_toFinset]
  have hsum : (terms.required.map (ofDocument d).occurrences).sum =
      ∑ word ∈ requiredWords text, d.wordCount word := by
    rw [← hrequired, List.sum_toFinset _ hnodup,
      List.map_congr_left fun word _ => occurrences_ofDocument d word]
  have hno : (terms.excluded.any fun term => (ofDocument d).occurrences term ≠ 0) = true ↔
      ¬ ∀ word ∈ excludedWords text, ¬ d.Holds word := by
    simp only [List.any_eq_true, decide_eq_true_eq, occurrences_ne_zero, hexcluded]
    grind
  rw [score?]
  split_ifs with hany
  · have hnot : ¬ d.Matches text := fun hmatches => hno.1 hany hmatches.excluded
    simp [hnot]
  · have hnone : ∀ word ∈ excludedWords text, ¬ d.Holds word := by
      by_contra hcon
      exact hany (hno.2 hcon)
    rw [total?_eq_some_iff (Nat.zero_le _), Nat.zero_add, hsum]
    simp only [occurrences_ne_zero, hmem]
    exact and_congr_left fun _ => ⟨fun hall => ⟨hall, hnone⟩, fun hmatches => hmatches.required⟩

end IndexedDocument

/-! ## Rankings -/

/-- A hit comes before another if its score is greater, or if the scores are equal and its address
is less. -/
def HitBefore (a b : Address × Nat) : Prop := b.2 < a.2 ∨ a.2 = b.2 ∧ a.1 < b.1

/-- The list of all matches with their scores, best first. -/
structure Ranking (documents : List Document) (text : String) (ranked : List (Address × Nat)) :
    Prop where
  /-- The hits are the documents that match. -/
  mem : ∀ address score, (address, score) ∈ ranked ↔
    ∃ d, documents[address]? = some d ∧ d.Matches text ∧ score = d.scoreFor text
  /-- They are in order. -/
  ordered : ranked.Pairwise HitBefore

theorem hitBefore_iff {a b : Nat × Nat} : HitBefore a b ↔ b.2 < a.2 ∨ a.2 = b.2 ∧ a.1 < b.1 :=
  Iff.rfl

theorem hitLe_eq_true {a b : Nat × Nat} :
    hitLe a b = true ↔ b.2 < a.2 ∨ a.2 = b.2 ∧ a.1 ≤ b.1 := by
  unfold hitLe
  split_ifs with hlt heq
  · simp [hlt]
  · simp [heq]
  · simp [hlt, heq]

theorem hitLe_trans (a b c : Address × Nat) (hab : hitLe a b = true) (hbc : hitLe b c = true) :
    hitLe a c = true := by
  rw [hitLe_eq_true] at hab hbc ⊢
  omega

theorem hitLe_total (a b : Address × Nat) : (hitLe a b || hitLe b a) = true := by
  rw [Bool.or_eq_true, hitLe_eq_true, hitLe_eq_true]
  omega

namespace Corpus

/-- The matches are the documents with a score, at their addresses. -/
theorem mem_matchesFrom {terms : SearchTerms} {start address : Address} {score : Nat}
    {entries : List IndexedDocument} :
    (address, score) ∈ matchesFrom terms start entries ↔
      ∃ i e, address = start + i ∧ entries[i]? = some e ∧ e.score? terms = some score := by
  induction entries generalizing start with
  | nil => simp [matchesFrom]
  | cons d rest ih =>
    -- the first document is at the start, and every other one is one further than in the rest
    have hrest : (address, score) ∈ matchesFrom terms (start + 1) rest ↔
        ∃ i e, address = start + (i + 1) ∧ rest[i]? = some e ∧ e.score? terms = some score := by
      rw [ih]
      simp only [Nat.add_assoc, Nat.add_comm 1]
    have hsplit : (∃ i e, address = start + i ∧ (d :: rest)[i]? = some e ∧
        e.score? terms = some score) ↔
          (address = start ∧ d.score? terms = some score) ∨
          (address, score) ∈ matchesFrom terms (start + 1) rest := by
      rw [hrest]
      constructor
      · rintro ⟨i, e, haddress, he, hscore⟩
        cases i with
        | zero =>
          obtain rfl : d = e := by simpa using he
          exact .inl ⟨haddress, hscore⟩
        | succ i => exact .inr ⟨i, e, haddress, by simpa using he, hscore⟩
      · rintro (⟨haddress, hscore⟩ | ⟨i, e, haddress, he, hscore⟩)
        · exact ⟨0, d, haddress, rfl, hscore⟩
        · exact ⟨i + 1, e, haddress, by simpa using he, hscore⟩
    rw [hsplit, matchesFrom]
    cases h : d.score? terms with
    | none => simp
    | some s => simp [eq_comm]

/-- No document is found twice. -/
theorem pairwise_matchesFrom (terms : SearchTerms) (start : Address)
    (entries : List IndexedDocument) :
    (matchesFrom terms start entries).Pairwise fun a b => a.1 ≠ b.1 := by
  induction entries generalizing start with
  | nil => exact List.Pairwise.nil
  | cons d rest ih =>
    rw [matchesFrom]
    cases d.score? terms with
    | none => exact ih (start + 1)
    | some s =>
      refine List.pairwise_cons.2 ⟨?_, ih (start + 1)⟩
      rintro ⟨address, score⟩ hmem
      obtain ⟨i, -, haddress, -, -⟩ := mem_matchesFrom.1 hmem
      show start ≠ address
      rw [haddress, Nat.add_assoc, Nat.add_comm 1]
      exact Nat.ne_of_lt (Nat.lt_add_of_pos_right (Nat.succ_pos i))

/-- A corpus sorts its matches into a ranking. -/
theorem ranking {text : String} {terms : SearchTerms} (documents : List Document)
    (h : SearchTerms.ofText? text = some terms) :
    Ranking documents text ((matchesFrom terms 0 (ofDocuments documents).entries).mergeSort hitLe)
      where
  mem := by
    intro address score
    rw [List.mem_mergeSort, mem_matchesFrom]
    simp only [Nat.zero_add, ofDocuments, List.getElem?_map, Option.map_eq_some_iff]
    constructor
    · rintro ⟨_, _, rfl, ⟨d, hd, rfl⟩, hscore⟩
      exact ⟨d, hd, (IndexedDocument.score?_eq_some_iff h).1 hscore⟩
    · rintro ⟨d, hd, hmatches⟩
      exact ⟨address, _, rfl, ⟨d, hd, rfl⟩, (IndexedDocument.score?_eq_some_iff h).2 hmatches⟩
  ordered := by
    have hsorted := List.pairwise_mergeSort hitLe_trans hitLe_total
      (matchesFrom terms 0 (ofDocuments documents).entries)
    have hdistinct : ((matchesFrom terms 0 (ofDocuments documents).entries).mergeSort
        hitLe).Pairwise fun a b => a.1 ≠ b.1 :=
      ((List.mergeSort_perm _ _).pairwise_iff fun hne => hne.symm).2 (pairwise_matchesFrom _ _ _)
    refine (hsorted.and hdistinct).imp ?_
    rintro a b ⟨hle, hne⟩
    rw [hitLe_eq_true] at hle
    rw [hitBefore_iff]
    rcases hle with hlt | ⟨heq, hle⟩
    · exact .inl hlt
    · exact .inr ⟨heq, Nat.lt_of_le_of_ne hle hne⟩

/-- A text with a word to require has the ranking for its answer; every other text fails. -/
theorem count_search_eq (documents : List Document) (text : String) :
    (requiredWords text = ∅ ∧
      (ofDocuments documents).count text = .error (.noPositiveTerms text) ∧
      ∀ limit, (ofDocuments documents).search text limit = .error (.noPositiveTerms text)) ∨
    (requiredWords text ≠ ∅ ∧ ∃ ranked, Ranking documents text ranked ∧
      (ofDocuments documents).count text = .ok ranked.length ∧
      ∀ limit, (ofDocuments documents).search text limit =
        .ok ((ranked.take limit).map fun hit => (hit.1, Number.roundToSingle hit.2))) := by
  cases h : SearchTerms.ofText? text with
  | none =>
    refine .inl ⟨SearchTerms.ofText?_eq_none_iff.1 h, ?_, fun limit => ?_⟩
    · rw [count, h]
    · rw [search, h]
  | some terms =>
    have hwords : requiredWords text ≠ ∅ := by
      rw [Ne, ← SearchTerms.ofText?_eq_none_iff, h]
      exact Option.some_ne_none _
    refine .inr ⟨hwords, _, ranking documents h, ?_, fun limit => ?_⟩
    · rw [count, h, List.length_mergeSort, length_matchesFrom]
    · rw [search, h]

end Corpus

/-! ## What follows from a ranking -/

namespace Ranking

variable {documents : List Document} {text text' : String} {ranked ranked' : List (Address × Nat)}

theorem nodup (h : Ranking documents text ranked) : ranked.Nodup := by
  refine h.ordered.imp ?_
  rintro a b hbefore rfl
  rw [hitBefore_iff] at hbefore
  omega

/-- There is one ranking for texts that ask for the same words. -/
theorem unique (h : Ranking documents text ranked) (h' : Ranking documents text' ranked')
    (hrequired : requiredWords text' = requiredWords text)
    (hexcluded : excludedWords text' = excludedWords text) : ranked' = ranked := by
  have hmatches : ∀ d : Document, d.Matches text' ↔ d.Matches text := by
    intro d
    constructor
    · intro hd
      exact ⟨hrequired ▸ hd.required, hexcluded ▸ hd.excluded⟩
    · intro hd
      exact ⟨hrequired ▸ hd.required, hexcluded ▸ hd.excluded⟩
  have hscore : ∀ d : Document, d.scoreFor text' = d.scoreFor text := by
    intro d
    rw [Document.scoreFor, hrequired, ← Document.scoreFor]
  have hperm : ranked'.Perm ranked := by
    rw [List.perm_ext_iff_of_nodup h'.nodup h.nodup]
    rintro ⟨address, score⟩
    rw [h'.mem, h.mem]
    simp only [hmatches, hscore]
  refine List.Perm.eq_of_pairwise ?_ h'.ordered h.ordered hperm
  intro a b _ _ hab hba
  rw [hitBefore_iff] at hab hba
  omega

/-- Each hit is a document of the corpus. -/
theorem exists_document (h : Ranking documents text ranked) {address : Address} {score : Nat}
    (hhit : (address, score) ∈ ranked) : ∃ d, documents[address]? = some d ∧
      (Corpus.ofDocuments documents).document address = .ok d := by
  obtain ⟨d, hd, -, -⟩ := (h.mem address score).1 hhit
  refine ⟨d, hd, ?_⟩
  simp [Corpus.document, Corpus.ofDocuments, IndexedDocument.ofDocument, hd]

/-- No hit is followed by one of a greater score, and rounding does not change that. -/
theorem scores_antitone (h : Ranking documents text ranked) :
    (ranked.map fun hit => (hit.1, Number.roundToSingle hit.2)).Pairwise
      fun a b => b.2 ≤ a.2 := by
  refine List.pairwise_map.2 (h.ordered.imp ?_)
  intro a b hbefore
  rw [hitBefore_iff] at hbefore
  exact Number.roundToSingle_mono (by omega)

end Ranking

namespace Corpus

variable {documents : List Document} {text text' : String}

/-- Only a text with a ranking has hits. -/
theorem exists_ranking_of_search {limit : Nat} {hits : List (Address × Nat)}
    (h : (ofDocuments documents).search text limit = .ok hits) :
    ∃ ranked, Ranking documents text ranked ∧
      ∀ limit, (ofDocuments documents).search text limit =
        .ok ((ranked.take limit).map fun hit => (hit.1, Number.roundToSingle hit.2)) := by
  rcases count_search_eq documents text with ⟨-, -, hsearch⟩ | ⟨-, ranked, hranking, -, hsearch⟩
  · rw [hsearch] at h
    cases h
  · exact ⟨ranked, hranking, hsearch⟩

/-- A document that is found matches. -/
theorem matches_of_mem_search {limit : Nat} {hits : List (Address × Nat)} {address : Address}
    {d : Document} (h : (ofDocuments documents).search text limit = .ok hits)
    (hhit : address ∈ hits.map Prod.fst) (hd : documents[address]? = some d) : d.Matches text := by
  obtain ⟨ranked, hranking, hsearch⟩ := exists_ranking_of_search h
  obtain rfl := Except.ok.inj ((hsearch limit).symm.trans h)
  rw [List.map_map] at hhit
  obtain ⟨⟨address, score⟩, hmem, rfl⟩ := List.mem_map.1 hhit
  obtain ⟨d', hd', hmatches, -⟩ := (hranking.mem address score).1 (List.mem_of_mem_take hmem)
  obtain rfl : d' = d := Option.some.inj (hd'.symm.trans hd)
  exact hmatches

/-- **Hits** can be read, are in the order of their scores, and begin with the hits under any lesser
limit. -/
theorem hits_of_search {limit : Nat} {hits : List (Address × Nat)}
    (h : (ofDocuments documents).search text limit = .ok hits) :
    (∀ hit ∈ hits, ∃ d, documents[hit.1]? = some d ∧
      (ofDocuments documents).document hit.1 = .ok d) ∧
    (hits.Pairwise fun a b => b.2 ≤ a.2) ∧
    ∀ limit' hits', limit' ≤ limit →
      (ofDocuments documents).search text limit' = .ok hits' → hits' <+: hits := by
  obtain ⟨ranked, hranking, hsearch⟩ := exists_ranking_of_search h
  obtain rfl := Except.ok.inj ((hsearch limit).symm.trans h)
  refine ⟨?_, ?_, ?_⟩
  · intro hit hhit
    obtain ⟨⟨address, score⟩, hmem, rfl⟩ := List.mem_map.1 hhit
    exact hranking.exists_document (List.mem_of_mem_take hmem)
  · rw [List.map_take]
    exact hranking.scores_antitone.sublist (List.take_sublist _ _)
  · intro limit' hits' hle h'
    obtain rfl := Except.ok.inj ((hsearch limit').symm.trans h')
    exact (List.take_prefix_take_left hle).map _

/-- Two texts that ask for the same words have the same count and the same hits, or none. -/
theorem toOption_congr (hrequired : requiredWords text' = requiredWords text)
    (hexcluded : excludedWords text' = excludedWords text) :
    ((ofDocuments documents).count text').toOption =
        ((ofDocuments documents).count text).toOption ∧
      ∀ limit, ((ofDocuments documents).search text' limit).toOption =
        ((ofDocuments documents).search text limit).toOption := by
  rcases count_search_eq documents text with
    ⟨hnone, hcount, hsearch⟩ | ⟨hsome, ranked, hranking, hcount, hsearch⟩
  · rcases count_search_eq documents text' with ⟨-, hcount', hsearch'⟩ | ⟨hsome', -⟩
    · rw [hcount, hcount']
      refine ⟨rfl, fun limit => ?_⟩
      rw [hsearch, hsearch']
      rfl
    · exact absurd (hrequired.trans hnone) hsome'
  · rcases count_search_eq documents text' with
      ⟨hnone', -⟩ | ⟨-, ranked', hranking', hcount', hsearch'⟩
    · exact absurd (hrequired.symm.trans hnone') hsome
    · obtain rfl := hranking.unique hranking' hrequired hexcluded
      rw [hcount, hcount']
      refine ⟨rfl, fun limit => ?_⟩
      rw [hsearch, hsearch']

end Corpus

/-- **What counting and searching answer.**  A text without a word to require fails.  Every other
text has one list of all matches, sorted by score and then by address: its length is the count, and
a search gives its beginning with the scores in single precision.  So every hit can be read, no
score is followed by a greater one, a lesser limit leaves hits out at the end only, and two texts
that ask for the same words have the same hits. -/
theorem corpus_ranks_matches (documents : List Document) (text : String) :
    let c := Corpus.ofDocuments documents
    (requiredWords text = ∅ → c.count text = .error (.noPositiveTerms text) ∧
      ∀ limit, c.search text limit = .error (.noPositiveTerms text)) ∧
    (requiredWords text ≠ ∅ → ∃ ranked, Ranking documents text ranked ∧
      c.count text = .ok ranked.length ∧
      ∀ limit, c.search text limit =
        .ok ((ranked.take limit).map fun hit => (hit.1, Number.roundToSingle hit.2))) ∧
    (∀ limit hits, c.search text limit = .ok hits →
      (∀ hit ∈ hits, ∃ d, documents[hit.1]? = some d ∧ c.document hit.1 = .ok d) ∧
      (hits.Pairwise fun a b => b.2 ≤ a.2) ∧
      ∀ limit' hits', limit' ≤ limit → c.search text limit' = .ok hits' → hits' <+: hits) ∧
    ∀ text', requiredWords text' = requiredWords text → excludedWords text' = excludedWords text →
      (c.count text').toOption = (c.count text).toOption ∧
      ∀ limit, (c.search text' limit).toOption = (c.search text limit).toOption := by
  intro c
  have hfailure : requiredWords text = ∅ → c.count text = .error (.noPositiveTerms text) ∧
      ∀ limit, c.search text limit = .error (.noPositiveTerms text) := by
    intro hnone
    rcases Corpus.count_search_eq documents text with ⟨-, hanswers⟩ | ⟨hsome, -⟩
    · exact hanswers
    · exact absurd hnone hsome
  have hranking : requiredWords text ≠ ∅ → ∃ ranked, Ranking documents text ranked ∧
      c.count text = .ok ranked.length ∧ ∀ limit, c.search text limit =
        .ok ((ranked.take limit).map fun hit => (hit.1, Number.roundToSingle hit.2)) := by
    intro hsome
    rcases Corpus.count_search_eq documents text with ⟨hnone, -⟩ | ⟨-, hanswers⟩
    · exact absurd hnone hsome
    · exact hanswers
  refine ⟨hfailure, hranking, ?_, ?_⟩
  · intro limit hits h
    exact Corpus.hits_of_search h
  · intro text' hrequired hexcluded
    exact Corpus.toOption_congr hrequired hexcluded

end Tagging
