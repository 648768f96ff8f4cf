import Tagging.Proofs.Report.Locations

/-!
# The search for a free place

If the place of a snapshot is taken, places with a tag are tried until one of them is free: first
with the id of the file, then with a counter behind it.  Nothing else ends the search, and the
counter has 32 bits.  But the places of one row are all different, so that each round that fails
has found another one of the places that are taken.

* `FreeSearch.round` — one round of the search, `FreeSearch.Ends` — a search that comes to its end;
* `FreeSearch.round_of_taken`, `FreeSearch.round_of_free` — **what one round does**;
* `FreeSearch.ends_of_taken`, `FreeSearch.Ends.unique` — the rounds together;
* `search_for_free_place_ends` — **the search ends**, at the place that a row is planned with.
-/

namespace Tagging

/-- The greatest value of the counter. -/
def maxAttempt : Nat := Nat.pow 2 31 - 1

/-- What a search goes on with. -/
structure FreeSearch where
  /-- The tag to try. -/
  tag : String
  /-- The counter. -/
  attempt : Nat

/-- What comes of one round. -/
inductive FreeSearch.Round where
  /-- The place is free. -/
  | found (location : Path)
  /-- It is taken, and another tag is to be tried. -/
  | next (search : FreeSearch)
  /-- It is taken, and the counter is at its greatest value. -/
  | overflow

namespace FreeSearch

section Search

variable (taken : List (List Component)) (relativePath fileId suffix : String)

/-- **One round of the search**: the place with the tag, unless it is taken; then the counter goes
up, and the next tag is made with it. -/
def round (s : FreeSearch) : Round :=
  let location := snapshotLocation relativePath fileId suffix (some s.tag)
  if taken.contains location.components then
    if s.attempt = maxAttempt then .overflow
    else .next ⟨fileId ++ "-" ++ toString (s.attempt + 1), s.attempt + 1⟩
  else .found location

/-- The search ends after some rounds at a place. -/
inductive Ends : FreeSearch → Nat → Path → Prop
  /-- This round finds it. -/
  | found {s : FreeSearch} {location : Path}
      (free : s.round taken relativePath fileId suffix = .found location) : Ends s 1 location
  /-- This round does not, but one of those after it. -/
  | next {s s' : FreeSearch} {rounds : Nat} {location : Path}
      (step : s.round taken relativePath fileId suffix = .next s') (rest : Ends s' rounds location) :
      Ends s (rounds + 1) location

/-- The search in front of an attempt: the first tag is the id of the file. -/
def before (attempt : Nat) : FreeSearch := ⟨attemptTag fileId attempt, attempt + 1⟩

/-- The place of an attempt. -/
def place (attempt : Nat) : Path :=
  snapshotLocation relativePath fileId suffix (some (attemptTag fileId attempt))

end Search

variable {taken : List (List Component)} {relativePath fileId suffix : String}

/-- **A round at a place that is free** finds it. -/
theorem round_of_free {attempt : Nat}
    (h : (place relativePath fileId suffix attempt).components ∉ taken) :
    (before fileId attempt).round taken relativePath fileId suffix =
      .found (place relativePath fileId suffix attempt) :=
  if_neg (mt List.contains_iff_mem.1 h)

/-- **A round at a place that is taken** goes on to the next attempt. -/
theorem round_of_taken {attempt : Nat}
    (h : (place relativePath fileId suffix attempt).components ∈ taken)
    (hcount : attempt + 1 < maxAttempt) :
    (before fileId attempt).round taken relativePath fileId suffix =
      .next (before fileId (attempt + 1)) := by
  have hless : (before fileId attempt).attempt ≠ maxAttempt := Nat.ne_of_lt hcount
  refine (if_pos (List.contains_iff_mem.2 h)).trans ?_
  rw [if_neg hless]
  rfl

/-- **Rounds together**: a search goes on as long as places are taken, and ends at the first one
that is not. -/
theorem ends_of_taken {attempt last : Nat} (hle : attempt ≤ last)
    (htaken : ∀ k < last, (place relativePath fileId suffix k).components ∈ taken)
    (hfree : (place relativePath fileId suffix last).components ∉ taken)
    (hcount : last < maxAttempt) :
    Ends taken relativePath fileId suffix (before fileId attempt) (last - attempt + 1)
      (place relativePath fileId suffix last) := by
  induction hle using Nat.decreasingInduction with
  | self =>
    rw [Nat.sub_self]
    exact .found (round_of_free hfree)
  | of_succ attempt hless ih =>
    rw [show last - attempt = last - (attempt + 1) + 1 by omega]
    exact .next (round_of_taken (htaken attempt hless) (by omega)) ih

/-- **A search ends once**: the rounds and the place are told by where it begins. -/
theorem Ends.unique {s : FreeSearch} {rounds rounds' : Nat} {location location' : Path}
    (h : Ends taken relativePath fileId suffix s rounds location)
    (h' : Ends taken relativePath fileId suffix s rounds' location') :
    rounds = rounds' ∧ location = location' := by
  induction h generalizing rounds' with
  | found free =>
    cases h' with
    | found free' =>
      rw [free] at free'
      cases free'
      exact ⟨rfl, rfl⟩
    | next step' =>
      rw [free] at step'
      cases step'
  | next step _ ih =>
    cases h' with
    | found free' =>
      rw [step] at free'
      cases free'
    | next step' rest' =>
      rw [step] at step'
      cases step'
      obtain ⟨rfl, rfl⟩ := ih rest'
      exact ⟨rfl, rfl⟩

/-- No attempt has the place without a tag. -/
theorem place_ne_plain (attempt : Nat) :
    (place relativePath fileId suffix attempt).components ≠
      (snapshotLocation relativePath fileId suffix none).components := by
  intro heq
  exact Nat.succ_ne_zero attempt (injective_candidates heq)

end FreeSearch

/-! ## The place of a row -/

open FreeSearch (Ends place)

/-- **The search for a free place ends.**  Take any places that are taken, fewer than the counter
can count, and any row and suffix.  The place that the row is planned with is free.  It is the one
without a tag if this is free; otherwise the search ends there, after no more rounds than there are
places taken and without an overflow of the counter, and it ends nowhere else.  All places that the
search can try are different, from one another and from the one without a tag. -/
theorem search_for_free_place_ends {taken : List (List Component)}
    (hcount : taken.toFinset.card < maxAttempt) (relativePath fileId suffix : String) :
    let plain := snapshotLocation relativePath fileId suffix none
    let chosen := firstFreeLocation taken relativePath fileId suffix
    chosen.components ∉ taken ∧
    (plain.components ∉ taken → chosen = plain) ∧
    (plain.components ∈ taken → ∃ rounds ≤ taken.toFinset.card,
      Ends taken relativePath fileId suffix ⟨fileId, 1⟩ rounds chosen ∧
      ∀ rounds' location, Ends taken relativePath fileId suffix ⟨fileId, 1⟩ rounds' location →
        rounds' = rounds ∧ location = chosen) ∧
    (∀ attempt, (place relativePath fileId suffix attempt).components ≠ plain.components) ∧
    Function.Injective fun attempt => (place relativePath fileId suffix attempt).components := by
  intro plain chosen
  refine ⟨firstFreeLocation_not_mem taken, fun hplain => if_neg hplain, fun hplain => ?_,
    FreeSearch.place_ne_plain, injective_attempts⟩
  -- the place without a tag is the first one that the row can have, and those of the attempts follow
  have hcandidates : Function.Injective fun n =>
      (snapshotLocation relativePath fileId suffix (candidateTag fileId n)).components :=
    injective_candidates
  obtain ⟨n, hcard, hfree, htaken⟩ := exists_first_free taken hcandidates
  cases n with
  | zero => exact absurd hplain hfree
  | succ k =>
    have hbefore : ∀ j < k, (place relativePath fileId suffix j).components ∈ taken := fun j hj =>
      htaken (j + 1) (Nat.succ_lt_succ hj)
    have hlength : k ≤ 0 + taken.length := by
      have := List.toFinset_card_le taken
      omega
    have hchosen : chosen = place relativePath fileId suffix k :=
      (if_pos hplain).trans (firstFreeAttempt_eq hbefore hfree (Nat.zero_le k) hlength)
    have hends := FreeSearch.ends_of_taken (Nat.zero_le k) hbefore hfree (by omega)
    rw [← hchosen] at hends
    exact ⟨k + 1, hcard, hends, fun rounds' location h => h.unique hends⟩

/-- Two places of a row are taken, that without a tag and that of the first attempt. -/
theorem search_for_free_place_ends_third :
    let taken : List (List Component) := [[.name "docs", .name "a.html"],
      [.name "docs", .name "a~f_1.html"]]
    let chosen := firstFreeLocation taken "docs/a" "f#1" ".html"
    taken.toFinset.card < maxAttempt ∧
      chosen.components = [.name "docs", .name "a~f_1-2.html"] ∧
      ∃ rounds ≤ 2, Ends taken "docs/a" "f#1" ".html" ⟨"f#1", 1⟩ rounds chosen := by
  intro taken chosen
  have htwo : taken.toFinset.card = 2 := by decide +kernel
  have hcount : taken.toFinset.card < maxAttempt := by
    rw [htwo]
    decide
  have hplain : (snapshotLocation "docs/a" "f#1" ".html" none).components ∈ taken := by
    decide +kernel
  obtain ⟨-, -, hends, -, -⟩ := search_for_free_place_ends hcount "docs/a" "f#1" ".html"
  obtain ⟨rounds, hrounds, hend, -⟩ := hends hplain
  exact ⟨hcount, by decide +kernel, rounds, htwo ▸ hrounds, hend⟩

end Tagging
