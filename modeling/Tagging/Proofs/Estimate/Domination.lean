import Mathlib.Data.List.Forall2
import Tagging.Proofs.Estimate.Timeline
import Tagging.Proofs.Keyed
import Tagging.Run.Options

/-!
# More permits and more time

With another permit a query waits for the end of other counts than before, so the two timelines
cannot be compared permit by permit.  What can be compared is how many permits have become free by
a time: with more permits these are never fewer, at any time, and that stays so whatever the next
count takes.

* `FreeSooner` — by every time, no fewer permits are free;
* `FreeSooner.least_le`, `FreeSooner.next` — **one query**: it starts no later, and the permits
  compare as before once it has taken its permit;
* `CountSpan.NoLater`, `FreeSooner.spansFrom` — **all queries**: each starts and ends no later;
* `Estimate.KnownIn`, `Estimate.Accounts.knownIn` — what fewer unfinished queries leave known;
* `estimate_improves` — **more permits and a longer budget** lose no count;
* `longer_budget_loses_count` — unless the deadline is no instant any more.
-/

namespace Tagging

/-! ## Permits that become free sooner -/

/-- By every time, no fewer permits of `free'` than of `free` have become free. -/
def FreeSooner (free' free : List Nat) : Prop :=
  ∀ t, free.countP (fun x => x ≤ t) ≤ free'.countP (fun x => x ≤ t)

/-- The permits that are free by a time, without the first one. -/
theorem countP_takeLeast {free others : List Nat} {least : Nat} (hne : free ≠ [])
    (h : takeLeast free = (least, others)) (t : Nat) :
    free.countP (fun x => x ≤ t) =
      others.countP (fun x => x ≤ t) + if least ≤ t then 1 else 0 := by
  obtain ⟨hperm, -⟩ := takeLeast_spec hne h
  rw [← hperm.countP_eq, List.countP_cons]
  simp

/-- Before the first permit is free, none is. -/
theorem countP_eq_zero_of_lt {free others : List Nat} {least t : Nat} (hne : free ≠ [])
    (h : takeLeast free = (least, others)) (ht : t < least) :
    free.countP (fun x => x ≤ t) = 0 := by
  obtain ⟨-, hle⟩ := takeLeast_spec hne h
  rw [List.countP_eq_zero]
  intro x hx
  have hlate := hle x hx
  simp only [decide_eq_true_eq]
  omega

namespace FreeSooner

/-- More permits, all of them free from the beginning. -/
theorem replicate {n n' : Nat} (h : n ≤ n') :
    FreeSooner (List.replicate n' 0) (List.replicate n 0) := by
  intro t
  simp [List.countP_replicate, h]

variable {free free' others others' : List Nat} {least least' : Nat}

/-- The first permit is free no later. -/
theorem least_le (hsooner : FreeSooner free' free) (hne : free ≠ []) (hne' : free' ≠ [])
    (h : takeLeast free = (least, others)) (h' : takeLeast free' = (least', others')) :
    least' ≤ least := by
  by_contra hlt
  have hone := countP_takeLeast hne h least
  rw [if_pos (Nat.le_refl least)] at hone
  have hnone := countP_eq_zero_of_lt hne' h' (Nat.lt_of_not_le hlt)
  have hmore := hsooner least
  omega

/-- **One query** takes the first permit for the same time on both sides: the permits compare as
before. -/
theorem next (hsooner : FreeSooner free' free) (hne : free ≠ []) (hne' : free' ≠ [])
    (h : takeLeast free = (least, others)) (h' : takeLeast free' = (least', others'))
    (length : Nat) : FreeSooner ((least' + length) :: others') ((least + length) :: others) := by
  intro t
  have hleast := hsooner.least_le hne hne' h h'
  have hmore := hsooner t
  have hall := countP_takeLeast hne h t
  have hall' := countP_takeLeast hne' h' t
  simp only [List.countP_cons, decide_eq_true_eq]
  by_cases ht : least ≤ t
  · -- both have given their first permit away, and the one given back counts on the sooner side
    have ht' : least' ≤ t := Nat.le_trans hleast ht
    rw [if_pos ht] at hall
    rw [if_pos ht'] at hall'
    split_ifs <;> omega
  · -- nothing is free yet on the later side
    have hnone := countP_eq_zero_of_lt hne h (Nat.lt_of_not_le ht)
    rw [if_neg (by omega : ¬ least + length ≤ t)]
    omega

end FreeSooner

/-! ## Counts that end no later -/

/-- The same query is counted, and its counting starts and ends no later. -/
structure CountSpan.NoLater (s' s : CountSpan) : Prop where
  /-- The query. -/
  query : s'.query = s.query
  /-- The start. -/
  start : s'.start ≤ s.start
  /-- The end. -/
  finish : s'.finish ≤ s.finish

/-- **All queries** start and end no later when permits become free sooner. -/
theorem FreeSooner.spansFrom {free free' : List Nat} (hsooner : FreeSooner free' free)
    (hne : free ≠ []) (hne' : free' ≠ []) (index : SearchIndex) (queries : List NamedQuery) :
    List.Forall₂ CountSpan.NoLater (spansFrom index free' queries)
      (spansFrom index free queries) := by
  -- by induction on the queries: what carries it is how many permits are free by a time
  induction queries generalizing free free' with
  | nil => exact .nil
  | cons q rest ih =>
    rcases h : takeLeast free with ⟨least, others⟩
    rcases h' : takeLeast free' with ⟨least', others'⟩
    have hleast := hsooner.least_le hne hne' h h'
    have hnext := hsooner.next hne hne' h h' (index.countTime q)
    rw [Tagging.spansFrom, Tagging.spansFrom, h, h']
    apply List.Forall₂.cons
    · exact ⟨rfl, hleast, Nat.add_le_add_right hleast _⟩
    · exact ih hnext (by simp) (by simp)

theorem countPermits_mono (queries : List NamedQuery) {threads threads' : Nat}
    (h : threads ≤ threads') : countPermits queries threads ≤ countPermits queries threads' := by
  unfold countPermits
  omega

theorem replicate_countPermits_ne_nil (queries : List NamedQuery) (threads : Nat) :
    List.replicate (countPermits queries threads) 0 ≠ [] := by
  rw [Ne, List.replicate_eq_nil_iff, countPermits]
  omega

/-- With more permits every query is counted no later. -/
theorem timeline_noLater (index : SearchIndex) (queries : List NamedQuery)
    {threads threads' : Nat} (h : threads ≤ threads') :
    List.Forall₂ CountSpan.NoLater (timeline index queries threads')
      (timeline index queries threads) := by
  rw [timeline_eq, timeline_eq]
  apply (FreeSooner.replicate (countPermits_mono queries h)).spansFrom
  · exact replicate_countPermits_ne_nil queries threads
  · exact replicate_countPermits_ne_nil queries threads'

/-! ## What stays known -/

/-- What an estimate knows of any query, another one knows as well. -/
structure Estimate.KnownIn (e e' : Estimate) : Prop where
  /-- Counts, with their value. -/
  counted : ∀ id n, e.hint id = some n → e'.hint id = some n
  /-- Failures. -/
  failed : ∀ id ∈ e.outcome.failed, id ∈ e'.outcome.failed
  /-- What the other one does not know for want of time, neither does this one. -/
  timedOut : ∀ id ∈ e'.outcome.timedOut, id ∈ e.outcome.timedOut

/-- **Fewer unfinished queries** leave all known that was. -/
theorem Estimate.Accounts.knownIn {index : SearchIndex}
    {queries unfinished unfinished' : List NamedQuery} {e e' : Estimate}
    (h : e.Accounts index queries unfinished) (h' : e'.Accounts index queries unfinished')
    (hfewer : ∀ q ∈ unfinished', q ∈ unfinished) : e.KnownIn e' where
  counted := by
    intro id n hn
    obtain ⟨q, hq, rfl⟩ := h.exists_query_of_hint hn
    obtain ⟨hended, hcount⟩ := (h.counted q hq n).1 hn
    exact (h'.counted q hq n).2 ⟨fun hopen => hended (hfewer q hopen), hcount⟩
  failed := by
    intro id hid
    obtain ⟨q, hq, rfl⟩ := h.exists_query (.inr (.inl hid))
    obtain ⟨hended, hfail⟩ := (h.failed q hq).1 hid
    exact (h'.failed q hq).2 ⟨fun hopen => hended (hfewer q hopen), hfail⟩
  timedOut := by
    intro id hid
    obtain ⟨q, hq, rfl⟩ := h'.exists_query (.inr (.inr hid))
    exact (h.timedOut q hq).2 (hfewer q ((h'.timedOut q hq).1 hid))

/-- A query that is unfinished after the longer budget, and is counted no later, was unfinished
after the shorter one. -/
theorem mem_unfinished_of_noLater {spans spans' : List CountSpan} {budget budget' : Nat}
    (hspans : List.Forall₂ CountSpan.NoLater spans' spans) (hbudget : budget ≤ budget')
    {q : NamedQuery}
    (hq : q ∈ (spans'.filter fun s => budget' < s.finish).map CountSpan.query) :
    q ∈ (spans.filter fun s => budget < s.finish).map CountSpan.query := by
  simp only [List.mem_map, List.mem_filter, decide_eq_true_eq] at hq ⊢
  obtain ⟨s', ⟨hs', hlate⟩, rfl⟩ := hq
  obtain ⟨s, hs, hno⟩ := exists_mem_of_forall₂ hspans s' hs'
  have hfinish := hno.finish
  exact ⟨s, ⟨hs, by omega⟩, hno.query.symm⟩

/-- A clock that reaches the end of a time reaches that of a shorter one. -/
theorem Clock.Reaches.mono {clock : Clock} {budget budget' : Nat} (h : clock.Reaches budget')
    (hbudget : budget ≤ budget') : clock.Reaches budget :=
  Nat.le_trans (Nat.add_le_add_left (Nat.mul_le_mul_left _ hbudget) _) h

/-- **More permits and a longer budget lose no count**, whatever the counts come to and however long
each of them takes, as long as the deadline is an instant; and they lose every count if it is none.
Every query starts and ends no later; there is an estimate for the longer budget just if its
deadline is an instant, and then there was one for the shorter budget: every query that was counted
or had failed within that one is counted with the same result or has failed, and none is unfinished
that was not unfinished before. -/
theorem estimate_improves (clock : Clock) (index : SearchIndex) {queries : List NamedQuery}
    {threads threads' budget budget' : Nat} (hids : (queries.map NamedQuery.id).Nodup)
    (hthreads : threads ≤ threads') (hbudget : budget ≤ budget') :
    List.Forall₂ CountSpan.NoLater (timeline index queries threads')
      (timeline index queries threads) ∧
    ((estimate clock index queries threads' budget').isSome = true ↔ clock.Reaches budget') ∧
    (clock.Reaches budget' → ∃ e e', estimate clock index queries threads budget = some e ∧
      estimate clock index queries threads' budget' = some e' ∧ e.KnownIn e') := by
  have hspans := timeline_noLater index queries hthreads
  refine ⟨hspans, ?_, fun hreaches => ?_⟩
  · rw [estimate, Option.isSome_map, Clock.isSome_deadline?]
  · refine ⟨_, _, estimate_of_reaches (hreaches.mono hbudget), estimate_of_reaches hreaches, ?_⟩
    have haccounts := accounts_estimateWithin index threads budget hids
    have haccounts' := accounts_estimateWithin index threads' budget' hids
    exact haccounts.knownIn haccounts' fun q hq => mem_unfinished_of_noLater hspans hbudget hq

/-- With a second permit, two queries that waited or were too slow are done in time: one counted,
one failed. -/
theorem estimate_improves_second_permit :
    let index : SearchIndex :=
      Script.index ⟨[], [(1, [0]), (3, [0, 1])], [(1, 2), (2, 6), (3, 5)], [2], [], [], [], false⟩
    let queries : List NamedQuery :=
      [⟨1, "Q1", "q1", -1, -1⟩, ⟨2, "Q2", "q2", -1, -1⟩, ⟨3, "Q3", "q3", -1, -1⟩]
    List.Forall₂ CountSpan.NoLater (timeline index queries 2) (timeline index queries 1) ∧
    ∃ e e', estimate .started index queries 1 7 = some e ∧ e = ⟨[(1, 1)], .incomplete [2, 3] []⟩ ∧
      estimate .started index queries 2 8 = some e' ∧
      e' = ⟨[(3, 2), (1, 1)], .incomplete [] [2]⟩ ∧ e.KnownIn e' := by
  intro index queries
  have hreaches : ∀ budget ≤ 8, Clock.started.Reaches budget := by decide
  have hone : estimateWithin index queries 1 7 = ⟨[(1, 1)], .incomplete [2, 3] []⟩ := by
    decide +kernel
  -- with two permits all counts end, and in the order of the list
  have hended : endedWithin 8 (timeline index queries 2) = timeline index queries 2 :=
    List.mergeSort_of_pairwise (by decide +kernel)
  have htwo : estimateWithin index queries 2 8 = ⟨[(3, 2), (1, 1)], .incomplete [] [2]⟩ := by
    rw [estimateWithin, hended]
    decide +kernel
  obtain ⟨hspans, -, hknown⟩ := estimate_improves .started index
    (by decide : (queries.map NamedQuery.id).Nodup) (by decide : 1 ≤ 2) (by decide : 7 ≤ 8)
  obtain ⟨e, e', he, he', hknown⟩ := hknown (hreaches 8 (by decide))
  obtain rfl := (estimate_eq_some_iff.1 he).2
  obtain rfl := (estimate_eq_some_iff.1 he').2
  exact ⟨hspans, _, _, he, hone, he', htwo, hknown⟩

/-- **A longer budget loses every count**: one whose deadline is no instant.  The settings accept so
many seconds. -/
theorem longer_budget_loses_count :
    let index : SearchIndex := Script.index ⟨[], [(1, [0])], [], [], [], [], [], false⟩
    let queries : List NamedQuery := [⟨1, "Q1", "q1", -1, -1⟩]
    let short := 1 * RunOptions.secondLength
    let long := 9223372036854775807 * RunOptions.secondLength
    short ≤ long ∧ estimate .started index queries 1 short = some ⟨[(1, 1)], .complete⟩ ∧
      estimate .started index queries 1 long = none := by
  decide +kernel

end Tagging
