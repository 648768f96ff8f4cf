import Tagging.Number.Double
import Tagging.Text.Blank
import Tagging.Text.Quoted

/-!
# Queries and what they weigh

What a run is about: saved queries, each with an id, a name for its column, a text that only the
index interprets, and limits; and how much a query adds to the total of a file, from the rank at
which the file was first seen and the priority of the query.

* `insertBy`, `ofPairsBy` — lists of pairs by ascending key, which serve as finite maps, since two
  of them with the same pairs are equal;
* `NamedQuery`, `NamedQuery.hitCap` — the query, and how many hits it may retrieve;
* `retrievalLimit` — the cap narrowed by an estimated hit count;
* `QueryFault` — what can be wrong with a query of a list;
* `Policy`, `Policy.name`, `Policy.ofName?` — the weighting policies and their names in settings;
* `Policy.weight` — the weight, never below `minWeight`.
-/

namespace Tagging

/-! ## Lists by ascending key -/

/-- The list with the value of a key replaced or added, for keys in the order `lt`. -/
def insertBy {κ ν : Type} (lt : κ → κ → Bool) (key : κ) (value : ν) : List (κ × ν) → List (κ × ν)
  | [] => [(key, value)]
  | (k, v) :: rest =>
    if lt key k then (key, value) :: (k, v) :: rest
    else if lt k key then (k, v) :: insertBy lt key value rest
    else (key, value) :: rest

/-- The list of given pairs, of which the last one of a key counts. -/
def ofPairsBy {κ ν : Type} (lt : κ → κ → Bool) (pairs : List (κ × ν)) : List (κ × ν) :=
  pairs.foldl (fun done p => insertBy lt p.1 p.2 done) []

/-! ## Queries -/

/-- Identifies a query within a run. -/
abbrev QueryId := Int

/-- A saved query with its cap and priority. -/
structure NamedQuery where
  /-- Unique within a run. -/
  id : QueryId
  /-- Heads the query's column in the report. -/
  name : String
  /-- What is searched for. -/
  text : String
  /-- The most hits to retrieve; negative for no limit of its own. -/
  maxHits : Int
  /-- Weighs the query under some policies; `-1` when none was given. -/
  priority : Int
  deriving Repr, DecidableEq, Inhabited

/-- The query's own cap, or `ceiling` when it has none. -/
def NamedQuery.hitCap (q : NamedQuery) (ceiling : Nat) : Nat :=
  if q.maxHits < 0 then ceiling else q.maxHits.toNat

/-- How many hits to ask for: the cap, narrowed by the estimated count when there is one, which is
never taken as less than one. -/
def retrievalLimit (q : NamedQuery) (ceiling : Nat) (hint : Option Nat) : Nat :=
  match hint with
  | some count => min (q.hitCap ceiling) (max count 1)
  | none => q.hitCap ceiling

/-- What is wrong with one query of a list. -/
inductive QueryFault where
  /-- An earlier query has the id. -/
  | repeatedId (id : QueryId)
  /-- The name is blank. -/
  | blankName (id : QueryId)
  /-- The text is blank. -/
  | blankText (id : QueryId)
  /-- The cap is neither absent nor positive. -/
  | badMaxHits (id : QueryId)
  /-- The priority is neither absent nor zero or more. -/
  | badPriority (id : QueryId)
  deriving Repr, DecidableEq, Inhabited

/-- The fault as it is shown. -/
def QueryFault.message : QueryFault → String
  | repeatedId id => "Query id " ++ toString id ++ " is used more than once."
  | blankName id => "Query " ++ toString id ++ " must have a non-empty name."
  | blankText id => "Query " ++ toString id ++ " must have a non-empty query."
  | badMaxHits id => "Query " ++ toString id ++ " max_hits must be -1 or greater than zero."
  | badPriority id => "Query " ++ toString id ++ " priority must be -1 or zero or greater."

/-! ## Weights -/

/-- Ways to turn a rank and a priority into a weight. -/
inductive Policy where
  /-- Every match counts one. -/
  | one
  /-- The reciprocal of the rank. -/
  | inverseRank
  /-- The reciprocal of the square root of the rank. -/
  | weightedInverseRank
  /-- The reciprocal of a positive priority, one otherwise. -/
  | inversePriority
  deriving DecidableEq, Repr, Inhabited

namespace Policy

/-- Every policy. -/
def all : List Policy := [one, inverseRank, weightedInverseRank, inversePriority]

/-- The name of a policy in settings. -/
def name : Policy → String
  | one => "one"
  | inverseRank => "inverse_rank"
  | weightedInverseRank => "weighted_inverse_rank"
  | inversePriority => "inverse_priority"

/-- The policy of a name, in any case and with blanks around it. -/
def ofName? (s : String) : Option Policy := all.find? (fun p => p.name = Text.keyword s)

/-- A weight at or below zero would read as no match, so none is below this. -/
def minWeight : Float := 0.001

/-- The number, or the floor where the number is below it or is none. -/
def atLeast (floor x : Float) : Float := if floor ≤ x then x else floor

/-- The weight before the floor is applied. -/
def rawWeight (p : Policy) (rank : Nat) (priority : Int) : Float :=
  match p with
  | one => 1.0
  | inverseRank => 1.0 / Float.ofNat (max rank 1)
  | weightedInverseRank => 1.0 / Float.sqrt (Float.ofNat (max rank 1))
  | inversePriority => if 0 < priority then 1.0 / Float.ofInt priority else 1.0

/-- The weight of a file that a query of this priority first saw at `rank`, counted from one; a
rank of zero counts as one. -/
def weight (p : Policy) (rank : Nat) (priority : Int) : Double :=
  .ofFloat (atLeast minWeight (p.rawWeight rank priority))

end Policy

end Tagging
