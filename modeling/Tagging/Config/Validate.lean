import Tagging.Basic
import Tagging.Config.Decode
import Tagging.Store.Basic
import Tagging.Text.Blank

/-!
# Valid settings

Names in settings are compared without regard to case and outer blanks, and an empty or zero
setting may stand for a missing one; after that every setting has to make sense on its own.

* `Settings.normalize` — the settings with names in their plain form;
* `Settings.validate`, `validateQuerySet` — the first fault, if there is one;
* `Settings.load`, `loadQuerySet` — the settings and queries of a file's text.
-/

namespace Tagging

open Text (isBlankText keyword)

/-- The names of the report modes. -/
def reportModes : List String := ["live", "static"]

/-- The path, unless it is empty. -/
def nonEmptyPath (p : Path) : Option Path := if p.text = "" then none else some p

/-- The number, unless it is zero. -/
def nonZero (n : Nat) : Option Nat := if n = 0 then none else some n

namespace Settings

/-- The settings with names in lower case and without outer blanks, an empty scratch root left out,
and zero rows meaning all rows. -/
def normalize (s : Settings) : Settings :=
  { s with
    aggregator := { s.aggregator with
      scratchRoot := s.aggregator.scratchRoot.bind nonEmptyPath
      normalization := keyword s.aggregator.normalization
      scratchBackend := keyword s.aggregator.scratchBackend }
    report := { s.report with
      topN := s.report.topN.bind nonZero
      mode := keyword s.report.mode } }

/-- The first fault of the settings. -/
def fault? (s : Settings) : Option SettingFault :=
  if isBlankText s.logLevel then some (.empty "service.log_level")
  else if s.estimator.maxThreads = 0 then some (.zero "estimator.max_threads")
  else if s.estimator.maxSeconds = 0 then some (.zero "estimator.max_seconds")
  else if s.aggregator.maxWorkers = 0 then some (.zero "aggregator.max_workers")
  else if s.aggregator.hardHitCeiling = 0 then some (.zero "aggregator.hard_hit_ceiling")
  else if s.aggregator.normalization ∉ Policy.all.map Policy.name then
    some (.unknownName "aggregator.normalization"
      "one, inverse_rank, weighted_inverse_rank, or inverse_priority")
  else if s.aggregator.scratchBackend ∉ Backend.all.map Backend.name then
    some (.unknownName "aggregator.scratch_backend" "sqlite or memory")
  else if s.aggregator.statusLogInterval = 0 then
    some (.zero "aggregator.status_log_interval_ms")
  else if s.report.mode ∉ reportModes then some (.unknownName "report.mode" "live or static")
  else if s.report.output.text = "" then some (.empty "report.output")
  else if s.report.output.fileStem?.isNone then some .unnamedOutput
  else if s.report.mode = "live" && isBlankText s.report.liveBaseUrl then
    some (.emptyInMode "report.live_base_url" "live")
  else if s.report.mode = "static" && isBlankText s.report.snapshotSuffix then
    some (.emptyInMode "report.snapshot_suffix" "static")
  else none

/-- Accepts settings without a fault. -/
def validate (s : Settings) : Except ConfigError Unit :=
  match s.fault? with
  | some fault => .error (.invalid fault)
  | none => .ok ()

/-- The settings of a file, given its text. -/
def load (path : Path) (text : Option String) : Except ConfigError Settings :=
  match text with
  | none => .error (.unreadable path)
  | some text =>
    match Settings.ofText? text with
    | none => .error (.malformed path)
    | some s =>
      match s.normalize.validate with
      | .ok () => .ok s.normalize
      | .error e => .error e

end Settings

/-- The first fault of queries that follow those with the ids `seen`. -/
def querySetFault? (seen : List QueryId) : List NamedQuery → Option QueryFault
  | [] => none
  | q :: rest =>
    if q.id ∈ seen then some (.repeatedId q.id)
    else if isBlankText q.name then some (.blankName q.id)
    else if isBlankText q.text then some (.blankText q.id)
    else if q.maxHits ≠ -1 && q.maxHits < 1 then some (.badMaxHits q.id)
    else if q.priority < -1 then some (.badPriority q.id)
    else querySetFault? (q.id :: seen) rest

/-- Accepts a query set that is not empty and has no fault. -/
def validateQuerySet (queries : List NamedQuery) : Except ConfigError Unit :=
  if queries.isEmpty then .error (.invalid .noQueries)
  else match querySetFault? [] queries with
    | some fault => .error (.invalid (.query fault))
    | none => .ok ()

/-- The queries of a file, given its text. -/
def loadQuerySet (path : Path) (text : Option String) : Except ConfigError (List NamedQuery) :=
  match text with
  | none => .error (.unreadable path)
  | some text =>
    match querySetOfText? text with
    | none => .error (.malformed path)
    | some queries =>
      match validateQuerySet queries with
      | .ok () => .ok queries
      | .error e => .error e

end Tagging
