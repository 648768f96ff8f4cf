import Tagging.Config.Basic
import Tagging.Failure
import Tagging.Url.Parser

/-!
# Report options

What a report is to look like, and where its parts go.

* `ReportMode`, `ReportOptions` — the options;
* `ReportOptions.live`, `ReportOptions.snapshots`, `ReportOptions.ofSettings` — making them;
* `ReportOptions.snapshotDirectory?` — the directory beside the report that holds its snapshots.
-/

namespace Tagging

/-- Where the links of a report lead. -/
inductive ReportMode where
  /-- Back to the search application. -/
  | live (base : Url)
  /-- To snapshots, whose names end with the suffix. -/
  | static (suffix : String)
  deriving Repr, DecidableEq, Inhabited

/-- What a report is to look like. -/
structure ReportOptions where
  /-- Where the report is written. -/
  output : Path
  /-- Where its links lead. -/
  mode : ReportMode
  /-- The most rows; all rows if not given. -/
  topN : Option Nat
  /-- The most links. -/
  maxHyperlinks : Nat
  deriving Repr, DecidableEq, Inhabited

namespace ReportOptions

/-- A live report with all rows and the usual number of links. -/
def live (output : Path) (base : Url) : ReportOptions :=
  ⟨output, .live base, none, Settings.defaultMaxHyperlinks⟩

/-- A static report with all rows, the usual number of links and the usual suffix. -/
def snapshots (output : Path) : ReportOptions :=
  ⟨output, .static Settings.defaultSnapshotSuffix, none, Settings.defaultMaxHyperlinks⟩

/-- The mode that settings ask for. -/
def modeOfSettings (s : ReportSettings) : Except RequestFault ReportMode :=
  if s.mode = "live" then
    match Url.ofText s.liveBaseUrl with
    | .ok base => .ok (.live base)
    | .error e => .error (.badBaseUrl e)
  else if s.mode = "static" then .ok (.static s.snapshotSuffix)
  else .error (.unknownMode s.mode)

/-- The options that settings ask for. -/
def ofSettings (s : ReportSettings) : Except RequestFault ReportOptions :=
  match modeOfSettings s with
  | .ok mode => .ok ⟨s.output, mode, s.topN, s.maxHyperlinks⟩
  | .error e => .error e

/-- What the name of a snapshot directory ends with. -/
def snapshotDirectorySuffix : String := "_files"

/-- The directory in which the report is written. -/
def outputDirectory (o : ReportOptions) : Path :=
  match o.output.parent? with
  | some parent => if parent.text = "" then ⟨"."⟩ else parent
  | none => ⟨"."⟩

/-- The directory of the snapshots of a static report, beside the report and named after it. -/
def snapshotDirectory? (o : ReportOptions) : Option Path :=
  match o.mode with
  | .live _ => none
  | .static _ =>
    o.output.fileStem?.map (fun stem => o.outputDirectory.join ⟨stem ++ snapshotDirectorySuffix⟩)

/-- How many of so many rows are shown. -/
def shown (o : ReportOptions) (rows : Nat) : Nat :=
  match o.topN with
  | some n => min n rows
  | none => rows

end ReportOptions

end Tagging
