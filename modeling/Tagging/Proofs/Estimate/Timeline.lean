import Tagging.Estimate.Timeline
import Tagging.Index
import Tagging.Proofs.Estimate.Accounting

/-!
# The timeline is one course of counting

When permits are given in list order and every count takes its own time, a query starts as soon as
the first permit is free.  At every time, the counts are then in a state that counting in any order
can come to; so the estimate that a budget leaves accounts for every query.

* `takeLeast_spec` — the permit that is free first;
* `spansFrom`, `timeline_eq` — the timeline, one query after the other;
* `Counting.Reachable.finish` — counts under way may end in any order;
* `Counting.Reachable.follow` — **the course of counting** follows the timeline up to a time;
* `Estimate.Accounts.unique` — what accounts for every query says one thing only;
* `exists_reachable_of_budget` — **the estimate of a budget** is one that counting can come to;
* `estimate_eq_some_iff` — there is one just if its deadline is an instant;
* `estimate_accounts_for_queries` — **every estimate** accounts for every query once;
* `estimate_of_no_time_and_of_too_much` — where a deadline is now, and where it is no instant.
-/

namespace Tagging

/-! ## The timeline, one query after the other -/

/-- **The permit that is free first**, and the others. -/
theorem takeLeast_spec {free : List Nat} (hne : free ≠ []) {least : Nat} {others : List Nat}
    (h : takeLeast free = (least, others)) :
    (least :: others).Perm free ∧ ∀ x ∈ free, least ≤ x := by
  induction free generalizing least others with
  | nil => exact absurd rfl hne
  | cons x rest ih =>
    cases rest with
    | nil =>
      cases h
      simp
    | cons y rest =>
      rw [takeLeast] at h
      rcases hrest : takeLeast (y :: rest) with ⟨m, left⟩
      obtain ⟨hperm, hle⟩ := ih (by simp) hrest
      rw [hrest] at h
      dsimp only at h
      split_ifs at h with hx
      · cases h
        refine ⟨.refl _, fun z hz => ?_⟩
        rcases List.mem_cons.1 hz with rfl | hz
        · exact Nat.le_refl _
        · exact Nat.le_trans hx (hle z hz)
      · cases h
        refine ⟨(List.Perm.swap x least left).trans (hperm.cons x), fun z hz => ?_⟩
        rcases List.mem_cons.1 hz with rfl | hz
        · omega
        · exact hle z hz

/-- The counts of queries, when `free` holds the times at which the permits become free. -/
def spansFrom (index : SearchIndex) (free : List Nat) : List NamedQuery → List CountSpan
  | [] => []
  | q :: rest =>
    let (start, others) := takeLeast free
    ⟨q, start, start + index.countTime q⟩ ::
      spansFrom index ((start + index.countTime q) :: others) rest

theorem zip_startTimes (index : SearchIndex) (free : List Nat) (queries : List NamedQuery) :
    (queries.zip ((startTimes free (queries.map index.countTime)).zip
      (queries.map index.countTime))).map (fun (q, start, length) => ⟨q, start, start + length⟩) =
      spansFrom index free queries := by
  induction queries generalizing free with
  | nil => rfl
  | cons q rest ih =>
    simp only [List.map_cons, startTimes, spansFrom, List.zip_cons_cons, ih]

/-- The timeline begins with all permits free. -/
theorem timeline_eq (index : SearchIndex) (queries : List NamedQuery) (threads : Nat) :
    timeline index queries threads =
      spansFrom index (List.replicate (countPermits queries threads) 0) queries :=
  zip_startTimes index _ queries

theorem map_query_spansFrom (index : SearchIndex) (free : List Nat) (queries : List NamedQuery) :
    (spansFrom index free queries).map CountSpan.query = queries := by
  induction queries generalizing free with
  | nil => rfl
  | cons q rest ih => rw [spansFrom, List.map_cons, ih]

/-- No count starts before the first permit is free. -/
theorem le_start_of_mem_spansFrom {index : SearchIndex} {free : List Nat}
    {queries : List NamedQuery} (hne : free ≠ []) {t : Nat} (hfree : ∀ x ∈ free, t ≤ x)
    {s : CountSpan} (hs : s ∈ spansFrom index free queries) : t ≤ s.start ∧ s.start ≤ s.finish := by
  induction queries generalizing free with
  | nil => cases hs
  | cons q rest ih =>
    rcases hleast : takeLeast free with ⟨least, others⟩
    obtain ⟨hperm, -⟩ := takeLeast_spec hne hleast
    have hmem : ∀ x ∈ least :: others, t ≤ x := fun x hx => hfree x (hperm.mem_iff.1 hx)
    rw [spansFrom, hleast] at hs
    rcases List.mem_cons.1 hs with rfl | hs
    · exact ⟨hmem least (List.mem_cons_self ..), Nat.le_add_right ..⟩
    · refine ih (by simp) (fun x hx => ?_) hs
      rcases List.mem_cons.1 hx with rfl | hx
      · exact Nat.le_trans (hmem least (List.mem_cons_self ..)) (Nat.le_add_right ..)
      · exact hmem x (List.mem_cons_of_mem _ hx)

/-- Is the count under way at a time? -/
def CountSpan.runsAt (t : Nat) (s : CountSpan) : Bool := s.start ≤ t && t < s.finish

/-! ## The course of counting -/

/-- Counts that end when the first permit is free give theirs back: the others hold one each. -/
theorem exists_idle {held idle free others : List Nat} {least : Nat}
    (hfree : (held ++ idle).Perm free) (hleast : (least :: others).Perm free) :
    ∃ idle', ((held.filter fun x => least < x) ++ idle').Perm others := by
  have hlate := (hfree.trans hleast.symm).filter fun x => least < x
  rw [List.filter_append, List.filter_cons_of_neg (by simp)] at hlate
  refine ⟨(idle.filter fun x => least < x) ++ others.filter fun x => !decide (least < x), ?_⟩
  rw [← List.append_assoc]
  exact (hlate.append_right _).trans (List.filter_append_perm _ others)

/-- The counts of `running` are under way, the rest waits, and `free` holds the times at which the
permits become free, those under way among them. -/
structure Counting.Holds (c : Counting) (permits : Nat) (running : List CountSpan)
    (free : List Nat) (rest : List NamedQuery) : Prop where
  /-- What waits, in the order of the list. -/
  waiting : c.waiting = rest
  /-- What is under way. -/
  underWay : c.underWay.Perm (running.map CountSpan.query)
  /-- Each count under way holds a permit. -/
  idle : ∃ idle, (running.map CountSpan.finish ++ idle).Perm free
  /-- There are so many permits. -/
  permits : free.length = permits

namespace Counting.Reachable

variable {index : SearchIndex} {queries : List NamedQuery} {threads : Nat} {c : Counting}

/-- **Counts under way may end** while the others go on. -/
theorem finish {done left : List NamedQuery} (h : Reachable index queries threads c)
    (hunderWay : c.underWay.Perm (done ++ left)) :
    ∃ c', Reachable index queries threads c' ∧ c'.waiting = c.waiting ∧ c'.underWay.Perm left := by
  induction done generalizing c with
  | nil => exact ⟨c, h, rfl, hunderWay⟩
  | cons q done ih =>
    have hmem : q ∈ c.underWay := hunderWay.mem_iff.2 (List.mem_cons_self ..)
    obtain ⟨i, hi⟩ := List.getElem?_of_mem hmem
    have hmove : c.move index (countPermits queries threads) (.finish i) =
        some { c with
          underWay := c.underWay.eraseIdx i
          tally := c.tally.record q.id (CountEnd.ofReply (index.count q)) } := by
      rw [Counting.move, hi]
    have hrest := ((perm_of_getElem? hi).trans hunderWay).cons_inv
    obtain ⟨c', hc', hwaiting, hleft⟩ := ih (Reachable.step h hmove) hrest
    exact ⟨c', hc', hwaiting, hleft⟩

/-- A query that waits may start if there is a permit. -/
theorem start {q : NamedQuery} {rest : List NamedQuery} (h : Reachable index queries threads c)
    (hwaiting : c.waiting = q :: rest) (hfree : c.underWay.length < countPermits queries threads) :
    Reachable index queries threads { c with waiting := rest, underWay := c.underWay ++ [q] } := by
  refine .step (m := .start 0) h ?_
  rw [Counting.move, hwaiting]
  dsimp only [List.getElem?_cons_zero]
  rw [if_pos hfree]
  rfl

variable {running : List CountSpan}

/-- Some time later, the counts that end by then have ended. -/
theorem finishUntil (h : Reachable index queries threads c)
    (hunderWay : c.underWay.Perm (running.map CountSpan.query)) (t : Nat) :
    ∃ c', Reachable index queries threads c' ∧ c'.waiting = c.waiting ∧
      c'.underWay.Perm ((running.filter fun s => t < s.finish).map CountSpan.query) := by
  have hsplit : (running.map CountSpan.query).Perm
      ((running.filter fun s => !decide (t < s.finish)).map CountSpan.query ++
        (running.filter fun s => t < s.finish).map CountSpan.query) := by
    rw [← List.map_append]
    exact ((List.filter_append_perm _ running).symm.trans List.perm_append_comm).map _
  exact h.finish (hunderWay.trans hsplit)

/-- **The next query starts** when the first permit is free. -/
theorem startNext {free others : List Nat} {q : NamedQuery} {rest : List NamedQuery} {least : Nat}
    (h : Reachable index queries threads c)
    (hholds : c.Holds (countPermits queries threads) running free (q :: rest))
    (hleast : (least :: others).Perm free) :
    ∃ c', Reachable index queries threads c' ∧ c'.Holds (countPermits queries threads)
      ((running.filter fun s => least < s.finish) ++
        [⟨q, least, least + index.countTime q⟩])
      ((least + index.countTime q) :: others) rest := by
  obtain ⟨hwaiting, hunderWay, ⟨idle, hidle⟩, hpermits⟩ := hholds
  obtain ⟨c', hc', hwait, hleft⟩ := h.finishUntil hunderWay least
  obtain ⟨idle', hidle'⟩ := exists_idle hidle hleast
  rw [List.filter_map] at hidle'
  have hothers : others.length + 1 = countPermits queries threads := by
    rw [← hpermits, ← hleast.length_eq, List.length_cons]
  have hpermit : c'.underWay.length < countPermits queries threads := by
    have hlength := hidle'.length_eq
    rw [List.length_append, List.length_map] at hlength
    rw [hleft.length_eq, List.length_map, ← hothers, Nat.lt_succ_iff, ← hlength]
    exact Nat.le_add_right _ _
  refine ⟨_, hc'.start (hwait.trans hwaiting) hpermit, rfl, ?_, ⟨idle', ?_⟩, ?_⟩
  · rw [List.map_append]
    exact hleft.append_right _
  · rw [List.map_append, List.map_singleton, List.append_assoc, List.singleton_append]
    exact List.perm_middle.trans (hidle'.cons _)
  · rw [List.length_cons, hothers]

theorem filter_runsAt {spans : List CountSpan} {t : Nat} (h : ∀ s ∈ spans, s.start ≤ t) :
    spans.filter (CountSpan.runsAt t) = spans.filter fun s => t < s.finish :=
  List.filter_congr fun s hs => by simp [CountSpan.runsAt, h s hs]

/-- **Counting follows the timeline** up to a time: what runs at that time is under way, and what
starts later waits. -/
theorem follow {free : List Nat} {rest : List NamedQuery} {t : Nat}
    (h : Reachable index queries threads c)
    (hholds : c.Holds (countPermits queries threads) running free rest)
    (hrunning : ∀ s ∈ running, s.start ≤ t) :
    ∃ c', Reachable index queries threads c' ∧
      c'.waiting = ((spansFrom index free rest).filter fun s => t < s.start).map CountSpan.query ∧
      c'.underWay.Perm (((running ++ spansFrom index free rest).filter
        (CountSpan.runsAt t)).map CountSpan.query) := by
  -- by induction on the queries that wait: the next one starts if its time has come
  induction rest generalizing c free running with
  | nil =>
    obtain ⟨c', hc', hwait, hleft⟩ := h.finishUntil hholds.underWay t
    refine ⟨c', hc', hwait.trans hholds.waiting, ?_⟩
    rw [spansFrom, List.append_nil, filter_runsAt hrunning]
    exact hleft
  | cons q rest ih =>
    have hne : free ≠ [] := by
      rw [← List.length_pos_iff, hholds.permits, countPermits]
      omega
    rcases htake : takeLeast free with ⟨least, others⟩
    obtain ⟨hleast, hle⟩ := takeLeast_spec hne htake
    by_cases htime : least ≤ t
    · obtain ⟨c', hc', hnext⟩ := h.startNext hholds hleast
      have hstarted : ∀ s ∈ (running.filter fun s => least < s.finish) ++
          [⟨q, least, least + index.countTime q⟩], s.start ≤ t := by
        intro s hs
        rcases List.mem_append.1 hs with hs | hs
        · exact hrunning s (List.mem_of_mem_filter hs)
        · rw [List.mem_singleton.1 hs]
          exact htime
      -- who has ended by then does not run at the later time either
      have hagain : (running.filter fun s => least < s.finish).filter (CountSpan.runsAt t) =
          running.filter (CountSpan.runsAt t) := by
        rw [List.filter_filter]
        refine List.filter_congr fun s _ => ?_
        simp only [CountSpan.runsAt, Bool.and_eq_left_iff_imp, Bool.and_eq_true, decide_eq_true_eq,
          and_imp]
        omega
      obtain ⟨c'', hc'', hwaiting, hunderWay⟩ := ih hc' hnext hstarted
      refine ⟨c'', hc'', ?_, ?_⟩
      · rw [spansFrom, htake]
        dsimp only
        rw [List.filter_cons_of_neg (by simpa using htime)]
        exact hwaiting
      · rw [List.append_assoc, List.filter_append, hagain, ← List.filter_append] at hunderWay
        rw [spansFrom, htake]
        exact hunderWay
    · -- no count starts any more
      have hahead : ∀ s ∈ spansFrom index free (q :: rest), t < s.start := fun s hs =>
        Nat.lt_of_lt_of_le (Nat.lt_of_not_le htime) (le_start_of_mem_spansFrom hne hle hs).1
      have hnone : (spansFrom index free (q :: rest)).filter (CountSpan.runsAt t) = [] :=
        List.filter_eq_nil_iff.2 fun s hs => by
          simp [CountSpan.runsAt, Nat.not_le.2 (hahead s hs)]
      obtain ⟨c', hc', hwait, hleft⟩ := h.finishUntil hholds.underWay t
      refine ⟨c', hc', ?_, ?_⟩
      · rw [List.filter_eq_self.2 fun s hs => decide_eq_true (hahead s hs), map_query_spansFrom,
          hwait, hholds.waiting]
      · rw [List.filter_append, filter_runsAt hrunning, hnone, List.append_nil]
        exact hleft

end Counting.Reachable

/-- **At every time**, the timeline is in a state that counting can come to. -/
theorem exists_reachable_at (index : SearchIndex) (queries : List NamedQuery) (threads t : Nat) :
    ∃ c, Counting.Reachable index queries threads c ∧
      c.waiting = ((timeline index queries threads).filter fun s => t < s.start).map
        CountSpan.query ∧
      c.underWay.Perm (((timeline index queries threads).filter (CountSpan.runsAt t)).map
        CountSpan.query) := by
  have hholds : (Counting.initial queries).Holds (countPermits queries threads) []
      (List.replicate (countPermits queries threads) 0) queries :=
    ⟨rfl, .refl _, ⟨_, .refl _⟩, List.length_replicate ..⟩
  rw [timeline_eq]
  exact Counting.Reachable.initial.follow hholds (List.forall_mem_nil _)

/-! ## The estimate of a budget -/

/-- Ascending ids of queries are told by the queries. -/
theorem eq_of_ascending {queries : List NamedQuery} {ids ids' : List QueryId}
    (h : ids.Pairwise (· < ·)) (h' : ids'.Pairwise (· < ·))
    (hids : ∀ id ∈ ids, ∃ q ∈ queries, q.id = id) (hids' : ∀ id ∈ ids', ∃ q ∈ queries, q.id = id)
    (hsame : ∀ q ∈ queries, q.id ∈ ids ↔ q.id ∈ ids') : ids = ids' := by
  have hmem : ∀ id, id ∈ ids ↔ id ∈ ids' := by
    refine fun id => ⟨fun hid => ?_, fun hid => ?_⟩
    · obtain ⟨q, hq, rfl⟩ := hids id hid
      exact (hsame q hq).1 hid
    · obtain ⟨q, hq, rfl⟩ := hids' id hid
      exact (hsame q hq).2 hid
  refine List.Perm.eq_of_pairwise (fun a b _ _ hab hba => ?_) h h' ?_
  · exact absurd (Int.lt_trans hab hba) (Int.lt_irrefl a)
  · exact (List.perm_ext_iff_of_nodup (h.imp Int.ne_of_lt) (h'.imp Int.ne_of_lt)).2 hmem

namespace Estimate.Accounts

variable {index : SearchIndex} {queries unfinished unfinished' : List NamedQuery} {e e' : Estimate}
  {id : QueryId}

/-- No estimate speaks of any other query. -/
theorem exists_query (h : e.Accounts index queries unfinished)
    (hid : id ∈ e.counts.map Prod.fst ∨ id ∈ e.outcome.failed ∨ id ∈ e.outcome.timedOut) :
    ∃ q ∈ queries, q.id = id := by
  refine List.mem_map.1 (h.once.mem_iff.1 ?_)
  rw [List.append_assoc, List.mem_append, List.mem_append]
  exact hid

theorem exists_query_of_hint (h : e.Accounts index queries unfinished) {n : Nat}
    (hn : e.hint id = some n) : ∃ q ∈ queries, q.id = id := by
  obtain ⟨front, back, hcounts, -⟩ := List.lookup_eq_some_iff.1 hn
  refine h.exists_query (.inl ?_)
  rw [hcounts]
  simp

/-- **What accounts for every query** says one thing only, given the unfinished ones. -/
theorem unique (h : e.Accounts index queries unfinished)
    (h' : e'.Accounts index queries unfinished') (hsame : ∀ q, q ∈ unfinished ↔ q ∈ unfinished') :
    e.outcome = e'.outcome ∧ ∀ id, e.hint id = e'.hint id := by
  have hhint : ∀ id, e.hint id = e'.hint id := by
    have hknown : ∀ q ∈ queries, ∀ n, e.hint q.id = some n ↔ e'.hint q.id = some n := by
      intro q hq n
      rw [h.counted q hq, h'.counted q hq, hsame]
    refine fun id => Option.ext fun n => ⟨fun hn => ?_, fun hn => ?_⟩
    · obtain ⟨q, hq, rfl⟩ := h.exists_query_of_hint hn
      exact (hknown q hq n).1 hn
    · obtain ⟨q, hq, rfl⟩ := h'.exists_query_of_hint hn
      exact (hknown q hq n).2 hn
  have hfailed : e.outcome.failed = e'.outcome.failed := by
    refine eq_of_ascending h.failed_ascend h'.failed_ascend
      (fun id hid => h.exists_query (.inr (.inl hid)))
      (fun id hid => h'.exists_query (.inr (.inl hid))) fun q hq => ?_
    rw [h.failed q hq, h'.failed q hq, hsame]
  have htimedOut : e.outcome.timedOut = e'.outcome.timedOut := by
    refine eq_of_ascending h.timedOut_ascend h'.timedOut_ascend
      (fun id hid => h.exists_query (.inr (.inr hid)))
      (fun id hid => h'.exists_query (.inr (.inr hid))) fun q hq => ?_
    rw [h.timedOut q hq, h'.timedOut q hq, hsame]
  have hcomplete : e.outcome = .complete ↔ e'.outcome = .complete := by
    rw [h.complete, h'.complete]
    exact forall₂_congr fun q _ => by rw [hhint]
  refine ⟨?_, hhint⟩
  cases hleft : e.outcome with
  | complete => exact (hcomplete.1 hleft).symm
  | incomplete timedOut failed =>
    cases hright : e'.outcome with
    | complete =>
      rw [hcomplete.2 hright] at hleft
      cases hleft
    | incomplete timedOut' failed' =>
      rw [hleft, hright] at hfailed htimedOut
      exact congrArg₂ Outcome.incomplete htimedOut hfailed

end Estimate.Accounts

section Budget

variable (index : SearchIndex) {queries : List NamedQuery} (threads budget : Nat)
  (hids : (queries.map NamedQuery.id).Nodup)
include hids

/-- **The estimate of a budget** accounts for every query: those are unfinished whose counts end
later. -/
theorem accounts_estimateWithin :
    (estimateWithin index queries threads budget).Accounts index queries
      (((timeline index queries threads).filter fun s => budget < s.finish).map
        CountSpan.query) := by
  set spans := timeline index queries threads with hspans
  have hqueries : spans.map CountSpan.query = queries := by
    rw [hspans, timeline_eq, map_query_spansFrom]
  have hlate : (spans.filter fun s => !decide (s.finish ≤ budget)) =
      spans.filter fun s => budget < s.finish :=
    List.filter_congr fun s _ => by rw [← decide_not, decide_eq_decide, Nat.not_le]
  have hperm : ((endedWithin budget spans).map CountSpan.query ++
      (spans.filter fun s => budget < s.finish).map CountSpan.query).Perm queries := by
    refine List.Perm.trans ?_ (List.Perm.of_eq hqueries)
    rw [← List.map_append, ← hlate]
    exact (((List.mergeSort_perm ..).append_right _).trans (List.filter_append_perm _ spans)).map _
  have hexpired : spans.any (fun s => budget < s.finish) =
      !((spans.filter fun s => budget < s.finish).map CountSpan.query).isEmpty := by
    rw [Bool.eq_iff_iff]
    simp
  have haccounts : Estimate.Accounts _ index queries _ := Estimate.accounts_of_ended hids hperm
  rw [Tally.ofEnded, List.foldl_map, ← hexpired] at haccounts
  exact haccounts

/-- **The estimate of a budget** is one that counting can come to: what is unfinished at that time
is still under way, or waits. -/
theorem exists_reachable_of_budget :
    ∃ c, Counting.Reachable index queries threads c ∧
      c.underWay.Perm (((timeline index queries threads).filter (CountSpan.runsAt budget)).map
        CountSpan.query) ∧
      c.estimate.outcome = (estimateWithin index queries threads budget).outcome ∧
      ∀ id, c.estimate.hint id = (estimateWithin index queries threads budget).hint id := by
  obtain ⟨c, hreachable, hwaiting, hunderWay⟩ := exists_reachable_at index queries threads budget
  refine ⟨c, hreachable, hunderWay, (hreachable.accounts hids).unique
    (accounts_estimateWithin index threads budget hids) fun q => ?_⟩
  have horder : ∀ s ∈ timeline index queries threads, s.start ≤ s.finish := by
    intro s hs
    have hne : List.replicate (countPermits queries threads) 0 ≠ [] := by
      rw [Ne, List.replicate_eq_nil_iff, countPermits]
      omega
    rw [timeline_eq] at hs
    exact (le_start_of_mem_spansFrom hne (fun x _ => Nat.zero_le x) hs).2
  simp only [List.mem_append, hwaiting, hunderWay.mem_iff, List.mem_map, List.mem_filter,
    CountSpan.runsAt, Bool.and_eq_true, decide_eq_true_eq]
  constructor
  · rintro (⟨s, ⟨hs, hahead⟩, rfl⟩ | ⟨s, ⟨hs, -, hlate⟩, rfl⟩)
    · exact ⟨s, ⟨hs, Nat.lt_of_lt_of_le hahead (horder s hs)⟩, rfl⟩
    · exact ⟨s, ⟨hs, hlate⟩, rfl⟩
  · rintro ⟨s, ⟨hs, hlate⟩, rfl⟩
    rcases Nat.lt_or_ge budget s.start with hahead | hbegun
    · exact .inl ⟨s, ⟨hs, hahead⟩, rfl⟩
    · exact .inr ⟨s, ⟨hs, hbegun, hlate⟩, rfl⟩

end Budget

/-! ## Deadlines -/

section Deadline

variable {clock : Clock} {index : SearchIndex} {queries : List NamedQuery} {threads budget : Nat}

theorem Clock.isSome_deadline? : (clock.deadline? budget).isSome = true ↔ clock.Reaches budget := by
  rw [deadline?]
  split_ifs with h
  · exact iff_of_true rfl h
  · exact iff_of_false Bool.false_ne_true h

theorem estimate_of_reaches (h : clock.Reaches budget) :
    estimate clock index queries threads budget =
      some (estimateWithin index queries threads budget) := by
  rw [estimate, Clock.deadline?, if_pos h, Option.map_some]

/-- **There is an estimate** just if its deadline is an instant; then it is that of the budget. -/
theorem estimate_eq_some_iff {e : Estimate} :
    estimate clock index queries threads budget = some e ↔
      clock.Reaches budget ∧ estimateWithin index queries threads budget = e := by
  by_cases h : clock.Reaches budget
  · rw [estimate_of_reaches h, Option.some.injEq]
    exact (and_iff_right h).symm
  · rw [estimate, Clock.deadline?, if_neg h, Option.map_none]
    exact iff_of_false nofun fun hreaches => h hreaches.1

end Deadline

/-- **An estimate accounts for every query once**, whatever order the counts start and end in, and
whenever it finds that the deadline has come: a query has the count that the index gives if its
count ended by then, has failed if it ended without one, and was not finished if it still waits or
is under way.  Never are more counts under way than may be.  If the deadline of a budget is an
instant there is an estimate, and it is one of these: the counts that do not end later are taken in,
and those are under way that run at that time. -/
theorem estimate_accounts_for_queries (index : SearchIndex) {queries : List NamedQuery}
    (threads : Nat) (hids : (queries.map NamedQuery.id).Nodup) :
    (∀ c, Counting.Reachable index queries threads c →
      c.estimate.Accounts index queries (c.waiting ++ c.underWay) ∧
        c.underWay.length ≤ min queries.length (max threads 1)) ∧
    ∀ (clock : Clock) (budget : Nat), clock.Reaches budget →
      ∃ e, estimate clock index queries threads budget = some e ∧
        e.Accounts index queries (((timeline index queries threads).filter
          fun s => budget < s.finish).map CountSpan.query) ∧
        ∃ c, Counting.Reachable index queries threads c ∧
          c.underWay.Perm (((timeline index queries threads).filter
            (CountSpan.runsAt budget)).map CountSpan.query) ∧
          c.estimate.outcome = e.outcome ∧ ∀ id, c.estimate.hint id = e.hint id :=
  ⟨fun _ h => ⟨h.accounts hids, h.length_underWay⟩, fun _ budget hreaches =>
    ⟨_, estimate_of_reaches hreaches, accounts_estimateWithin index threads budget hids,
      exists_reachable_of_budget index threads budget hids⟩⟩

/-- One query breaks down, one is counted, and one is still under way when the deadline comes, after
some moves or after eight milliseconds. -/
theorem estimate_accounts_for_three_queries :
    let index : SearchIndex :=
      Script.index ⟨[], [(3, [0, 1])], [(3, 5), (2, 9)], [], [1], [], [], false⟩
    let queries : List NamedQuery :=
      [⟨3, "Q3", "q3", -1, -1⟩, ⟨1, "Q1", "q1", -1, -1⟩, ⟨2, "Q2", "q2", -1, -1⟩]
    (∃ c, Counting.Reachable index queries 2 c ∧ c.estimate = ⟨[(3, 2)], .incomplete [2] [1]⟩ ∧
      c.estimate.Accounts index queries (c.waiting ++ c.underWay)) ∧
    ∃ e, estimate .started index queries 2 8 = some e ∧
      e.Accounts index queries [⟨2, "Q2", "q2", -1, -1⟩] := by
  intro index queries
  have hids : (queries.map NamedQuery.id).Nodup := by decide
  have hreachable : Counting.Reachable index queries 2 _ :=
    .step (m := .finish 0) (.step (m := .start 0) (.step (m := .finish 1)
      (.step (m := .start 0) (.step (m := .start 0) .initial rfl) rfl) rfl) rfl) rfl
  obtain ⟨hreached, hestimate⟩ := estimate_accounts_for_queries index 2 hids
  obtain ⟨e, he, haccounts, -⟩ := hestimate .started 8 (by decide)
  exact ⟨⟨_, hreachable, by decide +kernel, (hreached _ hreachable).1⟩, e, he, haccounts⟩

/-- **Results are taken in before the clock is looked at**: a count that takes no time is known also
if there is no time at all, so that it does not end before the deadline.  And if the deadline is no
instant, nothing is known of any query. -/
theorem estimate_of_no_time_and_of_too_much :
    let index : SearchIndex := Script.index ⟨[], [(1, [0])], [], [], [], [], [], false⟩
    let queries : List NamedQuery := [⟨1, "Q1", "q1", -1, -1⟩]
    (timeline index queries 1).map CountSpan.finish = [0] ∧
      estimate .started index queries 1 0 = some ⟨[(1, 1)], .complete⟩ ∧
      estimate .started index queries 1 9223372036854775807000 = none := by
  decide +kernel

end Tagging
