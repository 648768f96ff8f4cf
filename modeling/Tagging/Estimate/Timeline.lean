import Tagging.Estimate.Basic

/-!
# The timeline of an estimate

When each count starts and ends if permits are given in list order and every count takes its own
time, and the estimate that a budget leaves.

* `Clock`, `Clock.deadline?` — instants, which come to an end;
* `startTimes` — a query starts as soon as one of the permits is free;
* `CountSpan`, `timeline` — start and end of every count;
* `estimateWithin` — the counts that end within the budget;
* `estimate` — the same, if the end of the budget is an instant;
* `countsBegun` — the queries whose counting begins within it.
-/

namespace Tagging

/-- What a clock shows, and how far it goes. -/
structure Clock where
  /-- The present instant, in nanoseconds. -/
  now : Nat
  /-- The last instant of all, in nanoseconds. -/
  last : Nat
  deriving Repr, DecidableEq, Inhabited

namespace Clock

/-- The nanoseconds of a millisecond. -/
def millisecondLength : Nat := 1000000

/-- A clock that tells the seconds by a number of 64 bits with a sign, one second after it was
started. -/
def started : Clock := ⟨1000 * millisecondLength, Nat.pow 2 63 * (1000 * millisecondLength) - 1⟩

/-- The instant at which a time in milliseconds will be over is not behind the end of the clock. -/
def Reaches (c : Clock) (budget : Nat) : Prop := c.now + millisecondLength * budget ≤ c.last

instance (c : Clock) (budget : Nat) : Decidable (c.Reaches budget) :=
  inferInstanceAs (Decidable (_ ≤ _))

/-- The instant at which a time in milliseconds will be over, if there is one. -/
def deadline? (c : Clock) (budget : Nat) : Option Nat :=
  if c.Reaches budget then some (c.now + millisecondLength * budget) else none

end Clock

/-- Removes one least element. -/
def takeLeast : List Nat → Nat × List Nat
  | [] => (0, [])
  | [x] => (x, [])
  | x :: y :: rest =>
    let (least, others) := takeLeast (y :: rest)
    if x ≤ least then (x, y :: rest) else (least, x :: others)

/-- The times at which counts of the given lengths start, when `free` holds the times at which the
permits become free. -/
def startTimes (free : List Nat) : List Nat → List Nat
  | [] => []
  | length :: rest =>
    let (start, others) := takeLeast free
    start :: startTimes ((start + length) :: others) rest

/-- One count on the timeline. -/
structure CountSpan where
  /-- The query. -/
  query : NamedQuery
  /-- When counting starts, in milliseconds. -/
  start : Nat
  /-- When it ends. -/
  finish : Nat
  deriving Repr, Inhabited

/-- The counts of all queries in list order, with as many permits as may be given. -/
def timeline (index : SearchIndex) (queries : List NamedQuery) (threads : Nat) : List CountSpan :=
  let lengths := queries.map index.countTime
  let starts := startTimes (List.replicate (countPermits queries threads) 0) lengths
  (queries.zip (starts.zip lengths)).map (fun (q, start, length) => ⟨q, start, start + length⟩)

/-- The counts that end within a budget, in the order in which they end. -/
def endedWithin (budget : Nat) (spans : List CountSpan) : List CountSpan :=
  (spans.filter (fun s => s.finish ≤ budget)).mergeSort (fun a b => a.finish ≤ b.finish)

/-- The estimate under a bound on counts under way and a budget in milliseconds, once counting has
begun. -/
def estimateWithin (index : SearchIndex) (queries : List NamedQuery) (threads budget : Nat) :
    Estimate :=
  let spans := timeline index queries threads
  let tally := (endedWithin budget spans).foldl
    (fun t s => t.record s.query.id (CountEnd.ofReply (index.count s.query))) (Tally.start queries)
  tally.settle (spans.any (fun s => budget < s.finish))

/-- The estimate under a bound on counts under way and a budget in milliseconds.  Its deadline is
computed before counting begins; if there is no such instant, that breaks down. -/
def estimate (clock : Clock) (index : SearchIndex) (queries : List NamedQuery)
    (threads budget : Nat) : Option Estimate :=
  (clock.deadline? budget).map fun _ => estimateWithin index queries threads budget

/-- The queries whose counting begins within the budget, in the order of the list. -/
def countsBegun (index : SearchIndex) (queries : List NamedQuery) (threads budget : Nat) :
    List QueryId :=
  ((timeline index queries threads).filter (fun s => s.start ≤ budget)).map (fun s => s.query.id)

end Tagging
