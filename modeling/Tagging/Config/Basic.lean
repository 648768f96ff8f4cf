import Tagging.Basic
import Tagging.Path
import Tagging.Text.Quoted

/-!
# Settings

What a settings file says, and what can be wrong with it.

* `EstimatorSettings`, `AggregatorSettings`, `ReportSettings`, `Settings` — the settings, with the
  values that stand in for missing ones;
* `SettingFault`, `ConfigError` — what can be wrong.
-/

namespace Tagging

/-! ## The settings -/

/-- How hits are counted. -/
structure EstimatorSettings where
  /-- The most counts under way. -/
  maxThreads : Nat
  /-- How long counting may take. -/
  maxSeconds : Nat
  deriving Repr, DecidableEq, Inhabited

/-- How hits are retrieved and added up. -/
structure AggregatorSettings where
  /-- The most retrievals under way. -/
  maxWorkers : Nat
  /-- The cap of queries without one of their own. -/
  hardHitCeiling : Nat
  /-- The name of the weighting policy. -/
  normalization : String
  /-- The name of the backend. -/
  scratchBackend : String
  /-- Where scratch directories are created. -/
  scratchRoot : Option Path
  /-- How often progress is noted, in milliseconds. -/
  statusLogInterval : Nat
  deriving Repr, DecidableEq, Inhabited

/-- What the report looks like. -/
structure ReportSettings where
  /-- The name of the report mode. -/
  mode : String
  /-- Where the report is written. -/
  output : Path
  /-- The most rows. -/
  topN : Option Nat
  /-- The most links. -/
  maxHyperlinks : Nat
  /-- What live links begin with. -/
  liveBaseUrl : String
  /-- What the names of snapshots end with. -/
  snapshotSuffix : String
  deriving Repr, DecidableEq, Inhabited

/-- All settings. -/
structure Settings where
  /-- Which messages are noted. -/
  logLevel : String
  /-- How hits are counted. -/
  estimator : EstimatorSettings
  /-- How hits are retrieved and added up. -/
  aggregator : AggregatorSettings
  /-- What the report looks like. -/
  report : ReportSettings
  deriving Repr, DecidableEq, Inhabited

namespace Settings

/-! ## Values of missing settings -/

/-- The most retrievals under way unless set. -/
def defaultMaxWorkers : Nat := 10

/-- The cap of queries without one of their own unless set. -/
def defaultHardHitCeiling : Nat := 100000

/-- The backend unless set. -/
def defaultBackend : String := "sqlite"

/-- How often progress is noted unless set. -/
def defaultStatusLogInterval : Nat := 2000

/-- The most links unless set. -/
def defaultMaxHyperlinks : Nat := 65530

/-- What the names of snapshots end with unless set. -/
def defaultSnapshotSuffix : String := ".html"

end Settings

/-! ## What can be wrong -/

/-- What is wrong with a setting. -/
inductive SettingFault where
  /-- The setting is empty or blank. -/
  | empty (setting : String)
  /-- The setting is zero. -/
  | zero (setting : String)
  /-- The setting is none of the names it may be. -/
  | unknownName (setting choices : String)
  /-- The output path ends in no name. -/
  | unnamedOutput
  /-- The setting is blank, but the report mode needs it. -/
  | emptyInMode (setting mode : String)
  /-- There is no query. -/
  | noQueries
  /-- One of the queries is at fault. -/
  | query (fault : QueryFault)
  deriving Repr, DecidableEq, Inhabited

/-- The fault as it is shown. -/
def SettingFault.message : SettingFault → String
  | empty setting => setting ++ " must be non-empty."
  | zero setting => setting ++ " must be greater than zero."
  | unknownName setting choices => setting ++ " must be one of " ++ choices ++ "."
  | unnamedOutput => "report.output must name a file."
  | emptyInMode setting mode =>
    setting ++ " must be non-empty when report.mode is " ++ mode ++ "."
  | noQueries => "Query set must contain at least one query."
  | query fault => fault.message

/-- Why a settings file cannot be used. -/
inductive ConfigError where
  /-- The file is not there, or holds no text. -/
  | unreadable (path : Path)
  /-- The file is malformed, or lacks a setting, or has one of the wrong kind. -/
  | malformed (path : Path)
  /-- A setting has a value that it may not have. -/
  | invalid (fault : SettingFault)
  deriving Repr, DecidableEq, Inhabited

/-- The failure as it is shown. -/
def ConfigError.message : ConfigError → String
  | unreadable path => "Failed to read config file at " ++ Text.quoted path.text ++ "."
  | malformed path => "Failed to parse config file at " ++ Text.quoted path.text ++ "."
  | invalid fault => fault.message

end Tagging
