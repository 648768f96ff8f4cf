import Tagging.Index

/-!
# Estimates

Before a run retrieves hits it counts them, as far as the time allows.  Every query ends up in one
of three places: its count is known, its counting failed, or it was still under way at the
deadline.

* `CountEnd`, `Tally`, `Tally.record` — results as they come in;
* `Outcome`, `Estimate`, `Tally.settle` — what is known in the end;
* `Counting`, `Counting.Move`, `Counting.move` — counting under a bound on how many counts are
  under way, in any order.
-/

namespace Tagging

/-! ## Results -/

/-- How the counting of one query ends. -/
inductive CountEnd where
  /-- With a count. -/
  | counted (hits : Nat)
  /-- With a failure or a breakdown. -/
  | failed
  deriving DecidableEq, Repr, Inhabited

/-- The end that a reply of the index makes. -/
def CountEnd.ofReply : Reply Nat → CountEnd
  | .answer hits => .counted hits
  | .failure _ => .failed
  | .breakdown => .failed

/-- What an estimate says about its own completeness. -/
inductive Outcome where
  /-- Every count is known. -/
  | complete
  /-- Some queries were not finished in time, and some failed; both by ascending id. -/
  | incomplete (timedOut failed : List QueryId)
  deriving DecidableEq, Repr, Inhabited

/-- The known counts, and which are not known. -/
structure Estimate where
  /-- The counts; of one query the first counts. -/
  counts : List (QueryId × Nat)
  /-- What is not known. -/
  outcome : Outcome
  deriving Repr, DecidableEq, Inhabited

/-- The count of a query, if it is known. -/
def Estimate.hint (e : Estimate) (id : QueryId) : Option Nat := e.counts.lookup id

/-- Is every count known? -/
def Estimate.isComplete (e : Estimate) : Bool := e.outcome = .complete

/-- The results so far. -/
structure Tally where
  /-- The queries without a result, by ascending id. -/
  pending : List QueryId
  /-- The counts, latest first. -/
  counts : List (QueryId × Nat)
  /-- The failures, latest first. -/
  failed : List QueryId
  deriving Repr, DecidableEq, Inhabited

/-- Ascending ids with one added, unless it is there. -/
def insertId (id : QueryId) : List QueryId → List QueryId
  | [] => [id]
  | x :: rest => if id < x then id :: x :: rest else if id = x then x :: rest else x :: insertId id rest

/-- The ids of queries, ascending, each once. -/
def idSet (queries : List NamedQuery) : List QueryId :=
  queries.foldr (fun q ids => insertId q.id ids) []

/-- Ids in ascending order. -/
def sortIds (ids : List QueryId) : List QueryId := ids.mergeSort (fun a b => a ≤ b)

namespace Tally

/-- No result yet. -/
def start (queries : List NamedQuery) : Tally := ⟨idSet queries, [], []⟩

/-- Takes in the end of one count. -/
def record (t : Tally) (id : QueryId) : CountEnd → Tally
  | .counted hits =>
    { t with pending := t.pending.filter (fun x => x ≠ id), counts := (id, hits) :: t.counts }
  | .failed => { t with pending := t.pending.filter (fun x => x ≠ id), failed := id :: t.failed }

/-- The estimate when every count has ended, or when the deadline comes first. -/
def settle (t : Tally) (expired : Bool) : Estimate :=
  if expired then ⟨t.counts, .incomplete t.pending (sortIds t.failed)⟩
  else
    let failed := sortIds (t.failed ++ t.pending)
    ⟨t.counts, if failed.isEmpty then .complete else .incomplete [] failed⟩

end Tally

/-! ## Counting in any order -/

/-- How many counts may be under way. -/
def countPermits (queries : List NamedQuery) (threads : Nat) : Nat :=
  max (min queries.length (max threads 1)) 1

/-- Counts that wait, counts under way, and results. -/
structure Counting where
  /-- The queries that wait for a permit. -/
  waiting : List NamedQuery
  /-- The queries that are being counted. -/
  underWay : List NamedQuery
  /-- The results. -/
  tally : Tally
  deriving Repr, Inhabited

namespace Counting

/-- What can happen next. -/
inductive Move where
  /-- The `i`-th waiting query gets a permit. -/
  | start (i : Nat)
  /-- The counting of the `i`-th query under way ends. -/
  | finish (i : Nat)
  deriving DecidableEq, Repr

/-- All queries wait. -/
def initial (queries : List NamedQuery) : Counting := ⟨queries, [], Tally.start queries⟩

/-- What a move makes of a state, nothing if it cannot happen there. -/
def move (index : SearchIndex) (permits : Nat) (c : Counting) : Move → Option Counting
  | .start i =>
    match c.waiting[i]? with
    | some q =>
      if c.underWay.length < permits then
        some { c with waiting := c.waiting.eraseIdx i, underWay := c.underWay ++ [q] }
      else none
    | none => none
  | .finish i =>
    match c.underWay[i]? with
    | some q =>
      some { c with
        underWay := c.underWay.eraseIdx i
        tally := c.tally.record q.id (CountEnd.ofReply (index.count q)) }
    | none => none

/-- The states that counting can come to. -/
inductive Reachable (index : SearchIndex) (queries : List NamedQuery) (threads : Nat) :
    Counting → Prop
  /-- The beginning. -/
  | initial : Reachable index queries threads (initial queries)
  /-- One move further. -/
  | step {c c' : Counting} {m : Move} : Reachable index queries threads c →
      c.move index (countPermits queries threads) m = some c' → Reachable index queries threads c'

/-- The estimate in a state: the deadline has come unless nothing waits or is under way. -/
def estimate (c : Counting) : Estimate :=
  c.tally.settle (!(c.waiting.isEmpty && c.underWay.isEmpty))

end Counting

end Tagging
