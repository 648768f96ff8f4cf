import Tagging.Corpus.Basic

/-!
# Counting and ranking

A corpus counts the same documents that it ranks, and a search gives the first of them.  So a limit
that reaches the number of hits, or another limit, leaves nothing out that the other one shows.

* `Corpus.length_matchesFrom`, `Corpus.count_cases` — **a corpus ranks what it counts**, or fails in
  one way whatever it is asked;
* `take_retrievalLimit` — a cap narrowed by the number of hits cuts where the cap does;
* `Corpus.search_retrievalLimit`, `Corpus.count_eq_error_iff` — the same about corpora;
* `SearchIndex.Ranks`, `Corpus.ranks_index` — indexes that rank what they count;
* `SearchIndex.SameHits`, `SearchIndex.Ranks.sameHits` — limits that make no difference;
* `SearchIndex.KeepsOrder`, `Corpus.keepsOrder_index` — indexes that keep their order.
-/

namespace Tagging

/-! ## Corpora -/

namespace Corpus

/-- As many documents match as are counted, wherever the addresses begin. -/
theorem length_matchesFrom (terms : SearchTerms) (address : Address)
    (entries : List IndexedDocument) : (matchesFrom terms address entries).length =
      entries.countP fun d => (d.score? terms).isSome := by
  induction entries generalizing address with
  | nil => rfl
  | cons d rest ih =>
    rw [matchesFrom, List.countP_cons, ← ih (address + 1)]
    cases d.score? terms <;> rfl

/-- **A corpus ranks what it counts**: a search gives the first hits of a ranking as long as the
count; or else the query text fails, however it is asked about. -/
theorem count_cases (c : Corpus) (text : String) :
    (∃ ranked : List (Address × Nat), c.count text = .ok ranked.length ∧
      ∀ limit, c.search text limit = .ok (ranked.take limit)) ∨
    ∃ e, c.count text = .error e ∧ ∀ limit, c.search text limit = .error e := by
  unfold count search
  cases SearchTerms.ofText? text with
  | none => exact .inr ⟨_, rfl, fun _ => rfl⟩
  | some terms =>
    refine .inl ⟨((matchesFrom terms 0 c.entries).mergeSort hitLe).map
      fun hit => (hit.1, Number.roundToSingle hit.2), ?_, fun limit => ?_⟩
    · rw [List.length_map, List.length_mergeSort, length_matchesFrom]
    · rw [← List.map_take]

end Corpus

/-! ## Narrowed limits -/

section Narrowed

variable {α : Type} {q : NamedQuery} {ceiling : Nat}

/-- **Narrowing a cap** by the number of hits, where no hits count as one, leaves out nothing that
the cap does not leave out. -/
theorem take_retrievalLimit (hits : List α) :
    hits.take (retrievalLimit q ceiling (some hits.length)) = hits.take (q.hitCap ceiling) := by
  rw [List.take_eq_take_iff, retrievalLimit]
  omega

/-- A corpus finds the same under a cap and under the cap narrowed by its count. -/
theorem Corpus.search_retrievalLimit {c : Corpus} {n : Nat} (h : c.count q.text = .ok n) :
    c.search q.text (retrievalLimit q ceiling (some n)) =
      c.search q.text (q.hitCap ceiling) := by
  rcases c.count_cases q.text with ⟨ranked, hcount, hsearch⟩ | ⟨e, hcount, -⟩
  · obtain rfl : ranked.length = n := Except.ok.inj (hcount.symm.trans h)
    rw [hsearch, hsearch, take_retrievalLimit]
  · rw [hcount] at h
    cases h

/-- **A corpus counts** the hits of a query text unless it fails to search for it. -/
theorem Corpus.count_eq_error_iff {c : Corpus} {text : String} {limit : Nat} {e : CorpusError} :
    c.count text = .error e ↔ c.search text limit = .error e := by
  rcases c.count_cases text with ⟨ranked, hcount, hsearch⟩ | ⟨e', hcount, hsearch⟩
  · rw [hcount, hsearch]
    exact iff_of_false (fun h => nomatch h) fun h => nomatch h
  · rw [hcount, hsearch, Except.error.injEq, Except.error.injEq]

end Narrowed

/-! ## Indexes -/

namespace SearchIndex

/-- An index ranks what it counts under a query: a search gives the first hits of a ranking as long
as the count, or the query fails however it is asked about. -/
inductive Ranks (index : SearchIndex) (q : NamedQuery) : Prop where
  /-- There is a ranking. -/
  | hits {ranked : List Address} (counted : index.count q = .answer ranked.length)
      (found : ∀ limit, index.search q limit = .answer (ranked.take limit))
  /-- There is none. -/
  | failure {message : String} (counted : index.count q = .failure message)
      (found : ∀ limit, index.search q limit = .failure message)

/-- Two limits lead to the same reply, and to the same part of it that is looked at. -/
structure SameHits (index : SearchIndex) (q : NamedQuery) (limit limit' : Nat) : Prop where
  /-- The reply. -/
  search : index.search q limit = index.search q limit'
  /-- The hits that are looked at. -/
  looked : ∀ hits, index.search q limit = .answer hits → hits.take limit = hits.take limit'

/-- The order of the hits is stable, as it has to be while a run is executed: those that are asked
for under any limit are the first ones of one ranking. -/
def KeepsOrder (index : SearchIndex) (q : NamedQuery) : Prop :=
  ∃ ranking : List Address, ∀ limit hits, index.search q limit = .answer hits →
    hits.take limit = ranking.take limit

variable {index : SearchIndex} {q : NamedQuery} {ceiling : Nat} {hint hint' : Option Nat}

/-- **A known count makes no difference** to an index that ranks what it counts: with it or without
it the hits are those under the cap. -/
theorem Ranks.search_retrievalLimit (h : index.Ranks q)
    (hhint : ∀ n, hint = some n → index.count q = .answer n) :
    index.search q (retrievalLimit q ceiling hint) = index.search q (q.hitCap ceiling) := by
  cases hint with
  | none => rfl
  | some n =>
    cases h with
    | hits counted found =>
      obtain rfl := Reply.answer.inj (counted.symm.trans (hhint n rfl))
      rw [found, found, take_retrievalLimit]
    | failure counted found => rw [found, found]

theorem Ranks.sameHits_of_search {limit limit' : Nat} (h : index.Ranks q)
    (hsearch : index.search q limit = index.search q limit') : index.SameHits q limit limit' := by
  refine ⟨hsearch, fun hits hhits => ?_⟩
  have hhits' := hsearch.symm.trans hhits
  cases h with
  | failure counted found =>
    rw [found] at hhits
    cases hhits
  | hits counted found =>
    -- either limit already cuts the ranking to these hits
    rw [found] at hhits hhits'
    have hself : hits.take limit = hits := by
      rw [← Reply.answer.inj hhits, List.take_take, Nat.min_self]
    have hself' : hits.take limit' = hits := by
      rw [← Reply.answer.inj hhits', List.take_take, Nat.min_self]
    rw [hself, hself']

/-- Two hints that are right lead to the same hits. -/
theorem Ranks.sameHits (h : index.Ranks q)
    (hhint : ∀ n, hint = some n → index.count q = .answer n)
    (hhint' : ∀ n, hint' = some n → index.count q = .answer n) :
    index.SameHits q (retrievalLimit q ceiling hint) (retrievalLimit q ceiling hint') :=
  h.sameHits_of_search
    ((h.search_retrievalLimit hhint).trans (h.search_retrievalLimit hhint').symm)

end SearchIndex

/-- **A corpus is an index that ranks what it counts.** -/
theorem Corpus.ranks_index (c : Corpus) (q : NamedQuery) : c.index.Ranks q := by
  have hcount : c.index.count q = reply (c.count q.text) := rfl
  have hsearch : ∀ limit, c.index.search q limit =
      reply ((c.search q.text limit).map fun hits => hits.map Prod.fst) := fun _ => rfl
  rcases c.count_cases q.text with ⟨ranked, hcounted, hfound⟩ | ⟨e, hcounted, hfound⟩
  · have hanswer : c.index.count q = .answer (ranked.map Prod.fst).length := by
      rw [hcount, hcounted, reply, List.length_map]
    refine .hits hanswer fun limit => ?_
    rw [hsearch, hfound, Except.map, reply, List.map_take]
  · have hfailure : c.index.count q = .failure e.message := by rw [hcount, hcounted, reply]
    refine .failure hfailure fun limit => ?_
    rw [hsearch, hfound, Except.map, reply]

end Tagging
