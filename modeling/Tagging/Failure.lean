import Tagging.Store.Basic
import Tagging.Url.Basic

/-!
# Failures

Why a run or a report cannot be set up, or does not come to a good end.

* `RequestFault` — what is asked for makes no sense;
* `SheetFault`, `ReportFault` — what can go wrong with a report;
* `Operation`, `Failure` — all failures, `Failure.message` how they are shown.
-/

namespace Tagging

/-- What is wrong with a request. -/
inductive RequestFault where
  /-- No policy has this name. -/
  | unknownPolicy (name : String)
  /-- No backend has this name. -/
  | unknownBackend (name : String)
  /-- No report mode has this name. -/
  | unknownMode (name : String)
  /-- The base of live links is no URL. -/
  | badBaseUrl (error : UrlError)
  /-- The output path ends in no name. -/
  | unnamedOutput (path : Path)
  /-- Snapshots are wanted, and there is nothing to render them. -/
  | noRenderer
  /-- There is no query. -/
  | noQueries
  /-- One of the queries is at fault. -/
  | query (fault : QueryFault)
  deriving Repr, DecidableEq, Inhabited

/-- The fault as it is shown. -/
def RequestFault.message : RequestFault → String
  | unknownPolicy name => "Unknown normalization policy " ++ Text.quoted name ++ "."
  | unknownBackend name => (StoreError.unknownBackend name).message
  | unknownMode name => "Unknown report mode " ++ Text.quoted name ++ "."
  | badBaseUrl error => "report.live_base_url is not a valid URL: " ++ error.message ++ "."
  | unnamedOutput path => "Report output " ++ Text.quoted path.text ++ " must name a file."
  | noRenderer => "Static reports require a highlight renderer."
  | noQueries => "At least one named query is required."
  | query fault => fault.message

/-- What a sheet cannot hold. -/
inductive SheetFault where
  /-- More columns than can be numbered. -/
  | tooManyColumns (count : Nat)
  /-- A cell beyond the last row or column. -/
  | outsideSheet
  /-- A text of more than 32767 characters. -/
  | textTooLong
  /-- A link of a scheme that a sheet does not know. -/
  | unsupportedLink (url : String)
  deriving Repr, DecidableEq, Inhabited

/-- The fault as it is shown. -/
def SheetFault.message : SheetFault → String
  | tooManyColumns count =>
    "Report needs " ++ toString count ++ " columns, more than a worksheet holds."
  | outsideSheet => "Row or column exceeds Excel's allowed limits (1,048,576 x 16,384)."
  | textTooLong => "String exceeds Excel's limit of 32,767 characters."
  | unsupportedLink url => "Unknown/unsupported url type: '" ++ url ++ "'."

/-- What goes wrong with a report. -/
inductive ReportFault where
  /-- A directory for snapshots cannot be created. -/
  | snapshotDirectory (path : Path) (fault : Fault)
  /-- A snapshot cannot be written. -/
  | snapshotFile (path : Path) (fault : Fault)
  /-- The sheet cannot hold the report. -/
  | sheet (fault : SheetFault)
  /-- The report cannot be written. -/
  | save (fault : Fault)
  deriving Repr, DecidableEq, Inhabited

/-- The fault as it is shown. -/
def ReportFault.message : ReportFault → String
  | snapshotDirectory path fault =>
    "Failed to create snapshot directory " ++ path.text ++ ": " ++ fault.message
  | snapshotFile path fault => "Failed to write snapshot " ++ path.text ++ ": " ++ fault.message
  | sheet fault => fault.message
  | save fault => fault.message

/-- What can be done only once. -/
inductive Operation where
  /-- Executing a run. -/
  | executeRun
  /-- Writing a report. -/
  | writeReport
  deriving Repr, DecidableEq, Inhabited

/-- The name under which an operation is reported. -/
def Operation.name : Operation → String
  | executeRun => "TaggingRun::execute"
  | writeReport => "ReportWriter::write"

/-- Why a run or a report fails. -/
inductive Failure where
  /-- What is asked for makes no sense. -/
  | request (fault : RequestFault)
  /-- It was done before. -/
  | alreadyDone (operation : Operation)
  /-- The index reports a failure. -/
  | index (message : String)
  /-- The scratch tables fail. -/
  | storage (error : StoreError)
  /-- The report fails. -/
  | report (fault : ReportFault)
  /-- The renderer reports a failure. -/
  | render (message : String)
  /-- A worker breaks down. -/
  | worker
  /-- What is under way breaks down itself: nothing is returned, and nothing more is done. -/
  | breakdown
  deriving Repr, DecidableEq, Inhabited

/-- The failure as it is shown. -/
def Failure.message : Failure → String
  | request fault => "Invalid request: " ++ fault.message
  | alreadyDone operation => operation.name ++ " has already been invoked on this instance."
  | index message => "Index error: " ++ message
  | storage error => "Storage error: " ++ error.message
  | report fault => "Report error: " ++ fault.message
  | render message => "Render error: " ++ message
  | worker => "Worker error."
  | breakdown => ""

end Tagging
