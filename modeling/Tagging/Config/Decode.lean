import Tagging.Config.Basic
import Tagging.Toml.Document

/-!
# From values to settings

The settings that the values of a file stand for.  A group of settings is a table, whose unknown
keys mean nothing, or an array with the settings in their fixed order, of which those with a value
of their own may be left out at the end.

* `Group`, `Group.required`, `Group.optional`, `Group.defaulted` — looking a setting up;
* `Settings.ofText?`, `querySetOfText?` — the settings and the queries that a text holds.
-/

namespace Tagging

/-- Where the settings of a group are found. -/
inductive Group where
  /-- By key. -/
  | named (entries : Entries)
  /-- By position. -/
  | listed (items : List TomlValue)
  deriving Repr, Inhabited

namespace Group

/-- The group that a value stands for. -/
def ofValue? : TomlValue → Option Group
  | .table _ entries => some (named entries)
  | .array _ items => some (listed items)
  | _ => none

/-- The value of a setting. -/
def find? (g : Group) (position : Nat) (key : String) : Option TomlValue :=
  match g with
  | named entries => entries.lookup key
  | listed items => items[position]?

/-- A setting that must be there. -/
def required {α : Type} (g : Group) (position : Nat) (key : String)
    (read : TomlValue → Option α) : Option α :=
  (g.find? position key).bind read

/-- A setting that may be missing from a table. -/
def optional {α : Type} (g : Group) (position : Nat) (key : String)
    (read : TomlValue → Option α) : Option (Option α) :=
  match g.find? position key, g with
  | some v, _ => (read v).map some
  | none, named _ => some none
  | none, listed _ => none

/-- A setting with a value of its own when it is missing. -/
def defaulted {α : Type} (g : Group) (position : Nat) (key : String)
    (read : TomlValue → Option α) (value : α) : Option α :=
  match g.find? position key with
  | some v => read v
  | none => some value

end Group

namespace TomlValue

/-- The text of a value. -/
def text? : TomlValue → Option String
  | .string s => some s
  | _ => none

/-- The path that a text stands for. -/
def path? (v : TomlValue) : Option Path := v.text?.map Path.mk

/-- The whole number of a value between two bounds. -/
def between? (low high : Int) : TomlValue → Option Int
  | .integer n => if low ≤ n && n ≤ high then some n else none
  | _ => none

/-- A number of 32 bits. -/
def word32? (v : TomlValue) : Option Nat := (v.between? 0 (Int.pow 2 32 - 1)).map Int.toNat

/-- A number of 64 bits. -/
def word64? (v : TomlValue) : Option Nat := (v.between? 0 (Int.pow 2 64 - 1)).map Int.toNat

/-- A signed number of 64 bits. -/
def signed64? (v : TomlValue) : Option Int := v.between? (-(Int.pow 2 63)) (Int.pow 2 63 - 1)

end TomlValue

open TomlValue (text? path? word32? word64? signed64?)

/-- The settings of counting. -/
def EstimatorSettings.ofGroup? (g : Group) : Option EstimatorSettings := do
  let maxThreads ← g.required 0 "max_threads" word32?
  let maxSeconds ← g.required 1 "max_seconds" word64?
  return ⟨maxThreads, maxSeconds⟩

/-- The settings of retrieval. -/
def AggregatorSettings.ofGroup? (g : Group) : Option AggregatorSettings := do
  let maxWorkers ← g.defaulted 0 "max_workers" word32? Settings.defaultMaxWorkers
  let ceiling ← g.defaulted 1 "hard_hit_ceiling" word32? Settings.defaultHardHitCeiling
  let normalization ← g.required 2 "normalization" text?
  let backend ← g.defaulted 3 "scratch_backend" text? Settings.defaultBackend
  let root ← g.optional 4 "scratch_root" path?
  let interval ← g.defaulted 5 "status_log_interval_ms" word64? Settings.defaultStatusLogInterval
  return ⟨maxWorkers, ceiling, normalization, backend, root, interval⟩

/-- The settings of the report. -/
def ReportSettings.ofGroup? (g : Group) : Option ReportSettings := do
  let mode ← g.required 0 "mode" text?
  let output ← g.required 1 "output" path?
  let topN ← g.optional 2 "top_n" word32?
  let links ← g.defaulted 3 "max_hyperlinks" word32? Settings.defaultMaxHyperlinks
  let url ← g.required 4 "live_base_url" text?
  let suffix ← g.defaulted 5 "snapshot_suffix" text? Settings.defaultSnapshotSuffix
  return ⟨mode, output, topN, links, url, suffix⟩

/-- The settings in the entries of a file. -/
def Settings.ofEntries? (entries : Entries) : Option Settings := do
  let file := Group.named entries
  let service ← file.required 0 "service" Group.ofValue?
  let logLevel ← service.required 0 "log_level" text?
  let estimator ← (← file.required 1 "estimator" Group.ofValue?) |> EstimatorSettings.ofGroup?
  let aggregator ← (← file.required 2 "aggregator" Group.ofValue?) |> AggregatorSettings.ofGroup?
  let report ← (← file.required 3 "report" Group.ofValue?) |> ReportSettings.ofGroup?
  return ⟨logLevel, estimator, aggregator, report⟩

/-- The settings that a text holds. -/
def Settings.ofText? (text : String) : Option Settings :=
  (TomlValue.ofText? text).bind Settings.ofEntries?

/-- The query that a group of a query set stands for. -/
def NamedQuery.ofGroup? (g : Group) : Option NamedQuery := do
  let id ← g.required 0 "id" signed64?
  let name ← g.required 1 "name" text?
  let text ← g.required 2 "query" text?
  let maxHits ← g.defaulted 3 "max_hits" signed64? (-1)
  let priority ← g.defaulted 4 "priority" signed64? (-1)
  return ⟨id, name, text, maxHits, priority⟩

/-- The queries that the values of a list stand for. -/
def queriesOfItems? : List TomlValue → Option (List NamedQuery)
  | [] => some []
  | v :: rest =>
    match (Group.ofValue? v).bind NamedQuery.ofGroup?, queriesOfItems? rest with
    | some q, some qs => some (q :: qs)
    | _, _ => none

/-- The queries in the entries of a file; none if the file does not mention any. -/
def queriesOfEntries? (entries : Entries) : Option (List NamedQuery) :=
  match entries.lookup "query" with
  | none => some []
  | some (.array _ items) => queriesOfItems? items
  | some _ => none

/-- The queries that a text holds. -/
def querySetOfText? (text : String) : Option (List NamedQuery) :=
  (TomlValue.ofText? text).bind queriesOfEntries?

end Tagging
