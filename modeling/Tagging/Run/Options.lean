import Tagging.Basic
import Tagging.Config.Basic
import Tagging.Failure

/-!
# Run options

How a run counts, retrieves and adds up.

* `RunOptions` — the options;
* `RunOptions.ofSettings` — the options that settings ask for.
-/

namespace Tagging

/-- How a run is to work. -/
structure RunOptions where
  /-- The most counts under way. -/
  estimatorThreads : Nat
  /-- How long counting may take, in milliseconds. -/
  estimatorBudget : Nat
  /-- The most active workers. -/
  maxWorkers : Nat
  /-- The cap of queries without one of their own. -/
  hardHitCeiling : Nat
  /-- The weights. -/
  policy : Policy
  /-- The kind of tables. -/
  backend : Backend
  /-- Where the scratch directory is created. -/
  scratchRoot : Option Path
  /-- How often progress is noted, in milliseconds. -/
  statusLogInterval : Nat
  deriving Repr, DecidableEq, Inhabited

namespace RunOptions

/-- The milliseconds of a second. -/
def secondLength : Nat := 1000

/-- The options that settings ask for; their names have to be known. -/
def ofSettings (s : Settings) : Except RequestFault RunOptions :=
  match Backend.ofName? s.aggregator.scratchBackend, Policy.ofName? s.aggregator.normalization with
  | none, _ => .error (.unknownBackend (Text.keyword s.aggregator.scratchBackend))
  | some _, none => .error (.unknownPolicy (Text.keyword s.aggregator.normalization))
  | some backend, some policy => .ok
      { estimatorThreads := s.estimator.maxThreads
        estimatorBudget := s.estimator.maxSeconds * secondLength
        maxWorkers := s.aggregator.maxWorkers
        hardHitCeiling := s.aggregator.hardHitCeiling
        policy := policy
        backend := backend
        scratchRoot := s.aggregator.scratchRoot
        statusLogInterval := s.aggregator.statusLogInterval }

end RunOptions

end Tagging
