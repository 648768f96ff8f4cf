import Mathlib.Data.List.Induction
import Mathlib.Data.List.Nodup
import Mathlib.Data.List.Perm.Basic
import Tagging.Estimate.Basic

/-!
# What an estimate accounts for

Counting takes the queries one by one from those that wait to those under way, and from there to
those that have ended; only then is there a result.  So at any moment every query is in one of three
places, and the results tell exactly which have ended, and how.

* `mem_idSet`, `pairwise_idSet`, `pairwise_sortIds` — ids in ascending order;
* `SearchIndex.hits?`, `Tally.ofEnded`, `Tally.ofEnded_eq` — the results of counts that have ended;
* `Counting.Balanced`, `Counting.Reachable.balanced` — **every move keeps every query**, in one
  place;
* `Estimate.Accounts`, `accounts_of_ended` — what an estimate says about every query;
* `Counting.Reachable.accounts` — **every estimate that counting can come to** accounts for every
  query;
* `Counting.Reachable.length_underWay` — how many counts are under way.
-/

namespace Tagging

/-! ## Ids in ascending order -/

section Ids

variable {ids : List QueryId} {queries : List NamedQuery} {x id : QueryId}

theorem mem_insertId : x ∈ insertId id ids ↔ x = id ∨ x ∈ ids := by
  induction ids with
  | nil => simp [insertId]
  | cons y rest ih =>
    rw [insertId]
    split_ifs with hlt heq
    · rw [List.mem_cons]
    · subst heq
      simp
    · rw [List.mem_cons, List.mem_cons, ih]
      tauto

theorem pairwise_insertId (h : ids.Pairwise (· < ·)) : (insertId id ids).Pairwise (· < ·) := by
  induction ids with
  | nil => exact List.pairwise_singleton _ _
  | cons y rest ih =>
    obtain ⟨hy, hrest⟩ := List.pairwise_cons.1 h
    rw [insertId]
    split_ifs with hlt heq
    · refine List.pairwise_cons.2 ⟨fun z hz => ?_, h⟩
      rcases List.mem_cons.1 hz with rfl | hz
      · exact hlt
      · exact Int.lt_trans hlt (hy z hz)
    · exact h
    · refine List.pairwise_cons.2 ⟨fun z hz => ?_, ih hrest⟩
      rcases mem_insertId.1 hz with rfl | hz
      · exact Int.lt_iff_le_and_ne.2 ⟨Int.not_lt.1 hlt, Ne.symm heq⟩
      · exact hy z hz

theorem mem_idSet : x ∈ idSet queries ↔ x ∈ queries.map NamedQuery.id := by
  induction queries with
  | nil => rfl
  | cons q rest ih =>
    rw [idSet, List.foldr_cons, mem_insertId, List.map_cons, List.mem_cons, ← ih, idSet]

/-- **The ids of queries** ascend. -/
theorem pairwise_idSet (queries : List NamedQuery) : (idSet queries).Pairwise (· < ·) := by
  induction queries with
  | nil => exact List.Pairwise.nil
  | cons q rest ih => exact pairwise_insertId ih

theorem sortIds_perm (ids : List QueryId) : (sortIds ids).Perm ids := List.mergeSort_perm ids _

/-- Different ids ascend once they are sorted. -/
theorem pairwise_sortIds (h : ids.Nodup) : (sortIds ids).Pairwise (· < ·) := by
  have hsorted : (sortIds ids).Pairwise fun a b => decide (a ≤ b) = true := by
    refine List.pairwise_mergeSort (fun a b c hab hbc => ?_) (fun a b => ?_) ids
    · simp only [decide_eq_true_eq] at hab hbc ⊢
      exact Int.le_trans hab hbc
    · simp only [Bool.or_eq_true, decide_eq_true_eq]
      exact Int.le_total a b
  have hnodup : (sortIds ids).Pairwise (· ≠ ·) := (sortIds_perm ids).nodup_iff.2 h
  refine (hsorted.and hnodup).imp fun ⟨hle, hne⟩ => ?_
  exact Int.lt_iff_le_and_ne.2 ⟨of_decide_eq_true hle, hne⟩

end Ids

/-! ## Results of counts that have ended -/

/-- The number of hits that the index gives for a query. -/
def SearchIndex.hits? (index : SearchIndex) (q : NamedQuery) : Option Nat :=
  match index.count q with
  | .answer hits => some hits
  | _ => none

theorem SearchIndex.hits?_eq_some {index : SearchIndex} {q : NamedQuery} {n : Nat} :
    index.hits? q = some n ↔ index.count q = .answer n := by
  unfold hits?
  cases index.count q <;> simp

namespace Tally

variable (index : SearchIndex) (queries ended : List NamedQuery)

/-- The results when the counts of some queries have ended, in this order. -/
def ofEnded : Tally :=
  ended.foldl (fun t q => t.record q.id (CountEnd.ofReply (index.count q))) (start queries)

/-- One result. -/
theorem record_ofReply (t : Tally) (q : NamedQuery) :
    t.record q.id (CountEnd.ofReply (index.count q)) =
      ⟨t.pending.filter fun id => id ≠ q.id, ((index.hits? q).map (q.id, ·)).toList ++ t.counts,
        if (index.hits? q).isNone then q.id :: t.failed else t.failed⟩ := by
  unfold SearchIndex.hits?
  cases index.count q <;> rfl

/-- **The results**: the ids that are left, the hits that the index gives, and the queries for which
it gives none. -/
theorem ofEnded_eq : ofEnded index queries ended =
    ⟨(idSet queries).filter fun id => id ∉ ended.map NamedQuery.id,
      (ended.filterMap fun q => (index.hits? q).map (q.id, ·)).reverse,
      ((ended.filter fun q => (index.hits? q).isNone).map NamedQuery.id).reverse⟩ := by
  induction ended using List.reverseRecOn with
  | nil => simp [ofEnded, start]
  | append_singleton ended q ih =>
    have hlast : ofEnded index queries (ended ++ [q]) =
        (ofEnded index queries ended).record q.id (CountEnd.ofReply (index.count q)) := by
      rw [ofEnded, List.foldl_concat, ofEnded]
    rw [hlast, ih, record_ofReply]
    congr 1
    · rw [List.filter_filter]
      refine List.filter_congr fun id _ => ?_
      rw [List.map_append, List.map_singleton, ← Bool.decide_and, decide_eq_decide, List.mem_append,
        List.mem_singleton, not_or, and_comm]
    · rw [List.filterMap_append, List.reverse_append]
      cases hq : index.hits? q <;> simp [hq]
    · rw [List.filter_append, List.map_append, List.reverse_append]
      cases hq : index.hits? q <;> simp [hq]

end Tally

/-! ## Counts that wait, are under way and have ended -/

namespace Counting

variable {index : SearchIndex} {queries ended : List NamedQuery} {threads permits : Nat}
  {c c' : Counting} {m : Move}

/-- Every query is in one of three places: it waits, is under way, or has ended, and the results are
those of the queries that have ended. -/
structure Balanced (c : Counting) (index : SearchIndex) (queries ended : List NamedQuery) :
    Prop where
  /-- The results. -/
  tally : c.tally = Tally.ofEnded index queries ended
  /-- The places. -/
  places : (ended ++ c.underWay ++ c.waiting).Perm queries

theorem perm_of_getElem? {l : List NamedQuery} {i : Nat} {q : NamedQuery} (h : l[i]? = some q) :
    (q :: l.eraseIdx i).Perm l := by
  obtain ⟨hi, rfl⟩ := List.getElem?_eq_some_iff.1 h
  exact List.getElem_cons_eraseIdx_perm hi

/-- **Every move** takes one query from its place to the next one. -/
theorem Balanced.move (h : c.Balanced index queries ended)
    (hmove : c.move index permits m = some c') : ∃ ended', c'.Balanced index queries ended' := by
  cases m with
  | start i =>
    rw [Counting.move] at hmove
    split at hmove
    case h_2 => cases hmove
    rename_i q hq
    split_ifs at hmove
    cases hmove
    refine ⟨ended, h.tally, List.Perm.trans ?_ h.places⟩
    have hperm := perm_of_getElem? hq
    simp only [List.append_assoc]
    exact ((hperm.append_left c.underWay).append_left ended)
  | finish i =>
    rw [Counting.move] at hmove
    split at hmove
    case h_2 => cases hmove
    rename_i q hq
    cases hmove
    refine ⟨ended ++ [q], ?_, List.Perm.trans ?_ h.places⟩
    · rw [h.tally, Tally.ofEnded, Tally.ofEnded, List.foldl_concat]
    · have hperm := perm_of_getElem? hq
      rw [List.append_assoc ended [q]]
      exact (hperm.append_left ended).append_right c.waiting

/-- **No query is lost** in any state that counting can come to. -/
theorem Reachable.balanced (h : Reachable index queries threads c) :
    ∃ ended, c.Balanced index queries ended := by
  induction h with
  | initial => exact ⟨[], rfl, List.Perm.refl queries⟩
  | step _ hmove ih =>
    obtain ⟨ended, hbalanced⟩ := ih
    exact hbalanced.move hmove

/-- No move takes more permits than there are. -/
theorem length_underWay_move (hmove : c.move index permits m = some c')
    (h : c.underWay.length ≤ permits) : c'.underWay.length ≤ permits := by
  cases m with
  | start i =>
    rw [Counting.move] at hmove
    split at hmove
    case h_2 => cases hmove
    split_ifs at hmove with hfree
    cases hmove
    rw [List.length_append, List.length_singleton]
    exact hfree
  | finish i =>
    rw [Counting.move] at hmove
    split at hmove
    case h_2 => cases hmove
    cases hmove
    exact Nat.le_trans (List.length_eraseIdx_le ..) h

/-- **As many counts are under way** as may be, and never more than there are queries. -/
theorem Reachable.length_underWay (h : Reachable index queries threads c) :
    c.underWay.length ≤ min queries.length (max threads 1) := by
  have hpermits : c.underWay.length ≤ countPermits queries threads := by
    induction h with
    | initial => exact Nat.zero_le _
    | step _ hmove ih => exact length_underWay_move hmove ih
  obtain ⟨ended, hbalanced⟩ := h.balanced
  have hlength := hbalanced.places.length_eq
  simp only [List.length_append] at hlength
  rw [countPermits] at hpermits
  omega

end Counting

/-! ## What an estimate says -/

/-- The queries that were not finished in time. -/
def Outcome.timedOut : Outcome → List QueryId
  | .complete => []
  | .incomplete timedOut _ => timedOut

/-- The queries whose counting failed. -/
def Outcome.failed : Outcome → List QueryId
  | .complete => []
  | .incomplete _ failed => failed

/-- An estimate accounts for every query of a list, when the counts of some of them are not
finished. -/
structure Estimate.Accounts (e : Estimate) (index : SearchIndex)
    (queries unfinished : List NamedQuery) : Prop where
  /-- Every query has a count, has failed or was not finished in time, and only one of these. -/
  once : (e.counts.map Prod.fst ++ e.outcome.failed ++ e.outcome.timedOut).Perm
    (queries.map NamedQuery.id)
  /-- Failures ascend. -/
  failed_ascend : e.outcome.failed.Pairwise (· < ·)
  /-- So do those that were not finished. -/
  timedOut_ascend : e.outcome.timedOut.Pairwise (· < ·)
  /-- A count is known if it is finished and the index gives it. -/
  counted : ∀ q ∈ queries, ∀ n, e.hint q.id = some n ↔ q ∉ unfinished ∧ index.count q = .answer n
  /-- It has failed if it is finished and the index gives none. -/
  failed : ∀ q ∈ queries,
    q.id ∈ e.outcome.failed ↔ q ∉ unfinished ∧ ∀ n, index.count q ≠ .answer n
  /-- Otherwise it was not finished in time. -/
  timedOut : ∀ q ∈ queries, q.id ∈ e.outcome.timedOut ↔ q ∈ unfinished
  /-- It is complete if every count is known. -/
  complete : e.outcome = .complete ↔ ∀ q ∈ queries, (e.hint q.id).isSome = true

/-- Completeness follows from the rest. -/
theorem Estimate.Accounts.ofParts {e : Estimate} {index : SearchIndex}
    {queries unfinished : List NamedQuery}
    (hcomplete : e.outcome = .complete ↔ e.outcome.failed = [] ∧ e.outcome.timedOut = [])
    (honce : (e.counts.map Prod.fst ++ e.outcome.failed ++ e.outcome.timedOut).Perm
      (queries.map NamedQuery.id))
    (hfailed : e.outcome.failed.Pairwise (· < ·)) (htimedOut : e.outcome.timedOut.Pairwise (· < ·))
    (hcount : ∀ q ∈ queries, ∀ n,
      e.hint q.id = some n ↔ q ∉ unfinished ∧ index.count q = .answer n)
    (hfail : ∀ q ∈ queries,
      q.id ∈ e.outcome.failed ↔ q ∉ unfinished ∧ ∀ n, index.count q ≠ .answer n)
    (htime : ∀ q ∈ queries, q.id ∈ e.outcome.timedOut ↔ q ∈ unfinished) :
    e.Accounts index queries unfinished := by
  refine ⟨honce, hfailed, htimedOut, hcount, hfail, htime, ?_⟩
  rw [hcomplete]
  constructor
  · rintro ⟨hnone, hall⟩ q hq
    have hended : q ∉ unfinished := by
      rw [← htime q hq, hall]
      exact List.not_mem_nil
    have hanswer : ¬ ∀ n, index.count q ≠ .answer n := by
      intro hno
      have hmem := (hfail q hq).2 ⟨hended, hno⟩
      rw [hnone] at hmem
      exact List.not_mem_nil hmem
    obtain ⟨n, hn⟩ := not_forall_not.1 hanswer
    rw [(hcount q hq n).2 ⟨hended, hn⟩]
    rfl
  · intro hknown
    have hin : ∀ id ∈ e.outcome.failed ++ e.outcome.timedOut, ∃ q ∈ queries, q.id = id := by
      intro id hid
      refine List.mem_map.1 (honce.mem_iff.1 ?_)
      rw [List.append_assoc]
      exact List.mem_append_right _ hid
    constructor
    · refine List.eq_nil_iff_forall_not_mem.2 fun id hid => ?_
      obtain ⟨q, hq, rfl⟩ := hin id (List.mem_append_left _ hid)
      obtain ⟨n, hn⟩ := Option.isSome_iff_exists.1 (hknown q hq)
      exact ((hfail q hq).1 hid).2 n ((hcount q hq n).1 hn).2
    · refine List.eq_nil_iff_forall_not_mem.2 fun id hid => ?_
      obtain ⟨q, hq, rfl⟩ := hin id (List.mem_append_right _ hid)
      obtain ⟨n, hn⟩ := Option.isSome_iff_exists.1 (hknown q hq)
      exact ((hcount q hq n).1 hn).1 ((htime q hq).1 hid)

/-- What is settled: the counts, the failures in order, and what is left if the deadline came. -/
theorem Tally.settle_spec {t : Tally} {unfinished : List NamedQuery}
    (h : t.pending = [] ↔ unfinished = []) :
    let e := t.settle (!unfinished.isEmpty)
    e.counts = t.counts ∧ e.outcome.failed = sortIds t.failed ∧ e.outcome.timedOut = t.pending ∧
      (e.outcome = .complete ↔ e.outcome.failed = [] ∧ e.outcome.timedOut = []) := by
  cases unfinished with
  | nil =>
    have hpending := h.2 rfl
    simp only [List.isEmpty_nil, Bool.not_true, settle, Bool.false_eq_true, if_false, hpending,
      List.append_nil]
    split_ifs with hempty
    · rw [List.isEmpty_iff] at hempty
      simp [Outcome.failed, Outcome.timedOut, hempty]
    · rw [List.isEmpty_iff] at hempty
      simp [Outcome.failed, Outcome.timedOut, hempty]
  | cons q rest =>
    have hpending : t.pending ≠ [] := fun hnil => by simpa using h.1 hnil
    simp [settle, Outcome.failed, Outcome.timedOut, hpending]

/-- What is looked up under a key that no other pair has. -/
theorem lookup_eq_some_iff_of_nodup {l : List (QueryId × Nat)} (h : (l.map Prod.fst).Nodup)
    {id : QueryId} {n : Nat} : l.lookup id = some n ↔ (id, n) ∈ l := by
  induction l with
  | nil => simp
  | cons p rest ih =>
    obtain ⟨key, m⟩ := p
    obtain ⟨hkey, hrest⟩ := List.nodup_cons.1 h
    rw [List.lookup_cons, List.mem_cons, Prod.mk.injEq]
    by_cases heq : id = key
    · subst heq
      have hnot : (id, n) ∉ rest := fun hmem => hkey (List.mem_map.2 ⟨_, hmem, rfl⟩)
      simp [hnot, eq_comm]
    · have hother : (id == key) = false := by simpa using heq
      simp [hother, heq, ih hrest]

/-! ## Accounts of counts that have ended -/

namespace Estimate

section Ended

variable {index : SearchIndex} {queries ended unfinished : List NamedQuery}

/-- Those of the ended queries that have a count. -/
theorem map_fst_filterMap_hits (index : SearchIndex) (ended : List NamedQuery) :
    (ended.filterMap fun q => (index.hits? q).map (q.id, ·)).map Prod.fst =
      (ended.filter fun q => !(index.hits? q).isNone).map NamedQuery.id := by
  induction ended with
  | nil => rfl
  | cons q rest ih =>
    rw [List.filterMap_cons, List.filter_cons]
    cases hq : index.hits? q with
    | none => simpa using ih
    | some n => simpa using ih

variable (hids : (queries.map NamedQuery.id).Nodup) (hperm : (ended ++ unfinished).Perm queries)
include hids hperm

theorem eq_of_id_eq {p q : NamedQuery} (hp : p ∈ ended ∨ p ∈ unfinished)
    (hq : q ∈ queries) (h : p.id = q.id) : p = q :=
  List.inj_on_of_nodup_map hids (hperm.mem_iff.1 (List.mem_append.2 hp)) hq h

theorem mem_ended_iff {q : NamedQuery} (hq : q ∈ queries) : q ∈ ended ↔ q ∉ unfinished := by
  have hnodup : (ended ++ unfinished).Nodup := hperm.nodup_iff.2 (List.Nodup.of_map _ hids)
  constructor
  · exact fun hend hopen => List.disjoint_of_nodup_append hnodup hend hopen
  · exact fun hopen => (List.mem_append.1 (hperm.mem_iff.2 hq)).resolve_right hopen

/-- An id is taken by a query that has ended, or by one that is unfinished. -/
theorem id_mem_ended_iff {q : NamedQuery} (hq : q ∈ queries) :
    q.id ∈ ended.map NamedQuery.id ↔ q ∉ unfinished := by
  rw [← mem_ended_iff hids hperm hq, List.mem_map]
  constructor
  · rintro ⟨p, hp, heq⟩
    rwa [← eq_of_id_eq hids hperm (.inl hp) hq heq]
  · exact fun hend => ⟨q, hend, rfl⟩

/-- **What is left** are the ids of the unfinished queries. -/
theorem pending_perm : ((idSet queries).filter fun id => id ∉ ended.map NamedQuery.id).Perm
    (unfinished.map NamedQuery.id) := by
  have hset : (idSet queries).Nodup := (pairwise_idSet queries).imp fun h => Int.ne_of_lt h
  have hopen : (unfinished.map NamedQuery.id).Nodup := by
    have hall := (hperm.map NamedQuery.id).nodup_iff.2 hids
    rw [List.map_append] at hall
    exact hall.of_append_right
  refine (List.perm_ext_iff_of_nodup (hset.filter _) hopen).2 fun id => ?_
  rw [List.mem_filter, mem_idSet, decide_eq_true_iff]
  constructor
  · rintro ⟨hid, hnot⟩
    obtain ⟨q, hq, rfl⟩ := List.mem_map.1 hid
    rw [id_mem_ended_iff hids hperm hq, not_not] at hnot
    exact List.mem_map_of_mem hnot
  · intro hid
    obtain ⟨q, hopen, rfl⟩ := List.mem_map.1 hid
    have hq : q ∈ queries := hperm.mem_iff.1 (List.mem_append_right _ hopen)
    refine ⟨List.mem_map_of_mem hq, ?_⟩
    rw [id_mem_ended_iff hids hperm hq, not_not]
    exact hopen

/-- The counts are those that the index gives for ended queries. -/
theorem mem_counts_iff {q : NamedQuery} (hq : q ∈ queries) {n : Nat} :
    (q.id, n) ∈ (ended.filterMap fun q => (index.hits? q).map (q.id, ·)) ↔
      q ∉ unfinished ∧ index.count q = .answer n := by
  rw [List.mem_filterMap, ← mem_ended_iff hids hperm hq, ← SearchIndex.hits?_eq_some]
  constructor
  · rintro ⟨p, hend, hp⟩
    obtain ⟨m, hm, heq⟩ := Option.map_eq_some_iff.1 hp
    obtain ⟨hid, rfl⟩ := Prod.mk.inj heq
    obtain rfl := eq_of_id_eq hids hperm (.inl hend) hq hid
    exact ⟨hend, hm⟩
  · rintro ⟨hend, hn⟩
    exact ⟨q, hend, by rw [hn, Option.map_some]⟩

/-- The failures are the ended queries for which it gives none. -/
theorem mem_failures_iff {q : NamedQuery} (hq : q ∈ queries) :
    q.id ∈ (ended.filter fun q => (index.hits? q).isNone).map NamedQuery.id ↔
      q ∉ unfinished ∧ ∀ n, index.count q ≠ .answer n := by
  have hnone : (index.hits? q).isNone = true ↔ ∀ n, index.count q ≠ .answer n := by
    rw [Option.isNone_iff_eq_none, Option.eq_none_iff_forall_ne_some]
    exact forall_congr' fun n => not_congr SearchIndex.hits?_eq_some
  rw [List.mem_map, ← mem_ended_iff hids hperm hq, ← hnone]
  constructor
  · rintro ⟨p, hp, heq⟩
    obtain ⟨hend, hp⟩ := List.mem_filter.1 hp
    obtain rfl := eq_of_id_eq hids hperm (.inl hend) hq heq
    exact ⟨hend, hp⟩
  · exact fun hend => ⟨q, List.mem_filter.2 hend, rfl⟩

/-- **An estimate accounts for every query** if the queries whose counts have ended, and those
whose counts have not, are all there are. -/
theorem accounts_of_ended :
    ((Tally.ofEnded index queries ended).settle (!unfinished.isEmpty)).Accounts index queries
      unfinished := by
  have hpending := pending_perm hids hperm
  set e := (Tally.ofEnded index queries ended).settle (!unfinished.isEmpty) with he
  have hnil : (Tally.ofEnded index queries ended).pending = [] ↔ unfinished = [] := by
    rw [Tally.ofEnded_eq, ← List.length_eq_zero_iff, hpending.length_eq, List.length_map,
      List.length_eq_zero_iff]
  have hspec := Tally.settle_spec hnil
  rw [← he, Tally.ofEnded_eq] at hspec
  obtain ⟨hcounts, hfailed, htimedOut, hcomplete⟩ := hspec
  have hkeys : (e.counts.map Prod.fst).Perm
      ((ended.filter fun q => !(index.hits? q).isNone).map NamedQuery.id) := by
    rw [hcounts, List.map_reverse, map_fst_filterMap_hits]
    exact List.reverse_perm _
  have hfails : e.outcome.failed.Perm
      ((ended.filter fun q => (index.hits? q).isNone).map NamedQuery.id) := by
    rw [hfailed]
    exact (sortIds_perm _).trans (List.reverse_perm _)
  have honce : (e.counts.map Prod.fst ++ e.outcome.failed ++ e.outcome.timedOut).Perm
      (queries.map NamedQuery.id) := by
    rw [htimedOut]
    refine ((hkeys.append hfails).append hpending).trans ?_
    rw [← List.map_append, ← List.map_append]
    refine List.Perm.map NamedQuery.id (List.Perm.trans ?_ hperm)
    exact (List.perm_append_comm.trans (List.filter_append_perm _ ended)).append_right unfinished
  have hnodup := honce.nodup_iff.2 hids
  refine .ofParts hcomplete honce ?_ ?_ (fun q hq n => ?_) (fun q hq => ?_) (fun q hq => ?_)
  · rw [hfailed]
    refine pairwise_sortIds ?_
    rw [← (sortIds_perm _).nodup_iff, ← hfailed]
    exact hnodup.of_append_left.of_append_right
  · rw [htimedOut]
    exact (pairwise_idSet queries).filter _
  · rw [hint, lookup_eq_some_iff_of_nodup hnodup.of_append_left.of_append_left, hcounts,
      List.mem_reverse, mem_counts_iff hids hperm hq]
  · rw [hfails.mem_iff, mem_failures_iff hids hperm hq]
  · rw [htimedOut, List.mem_filter, mem_idSet, decide_eq_true_iff, id_mem_ended_iff hids hperm hq,
      not_not]
    exact and_iff_right (List.mem_map_of_mem hq)

end Ended

end Estimate

/-- **Every estimate accounts for every query**, whatever order the counts start and end in, and
whenever the deadline comes: unfinished are those that wait or are under way. -/
theorem Counting.Reachable.accounts {index : SearchIndex} {queries : List NamedQuery}
    {threads : Nat} {c : Counting} (h : Reachable index queries threads c)
    (hids : (queries.map NamedQuery.id).Nodup) :
    c.estimate.Accounts index queries (c.waiting ++ c.underWay) := by
  obtain ⟨ended, htally, hplaces⟩ := h.balanced
  have hperm : (ended ++ (c.waiting ++ c.underWay)).Perm queries := by
    refine List.Perm.trans (List.perm_append_comm.append_left ended) ?_
    rwa [← List.append_assoc]
  have hexpired : (!(c.waiting.isEmpty && c.underWay.isEmpty)) =
      !(c.waiting ++ c.underWay).isEmpty := by
    cases c.waiting <;> rfl
  rw [Counting.estimate, htally, hexpired]
  exact Estimate.accounts_of_ended hids hperm

end Tagging
