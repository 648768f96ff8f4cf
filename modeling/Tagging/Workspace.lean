import Tagging.FileTree
import Tagging.Index
import Tagging.Report.Sheet

/-!
# Workspaces

What a run works in: the files that it changes, the device that holds them, and a journal of what
the run asks and announces.

* `Phase`, `Phase.text` — the phases in the order in which a run goes through them, and the line
  shown for each;
* `Phase.isTerminal` — the two that end a run;
* `Content` — what a file holds;
* `Event` — an entry of the journal;
* `Workspace` — all of it, `Workspace.note` adds to the journal.
-/

namespace Tagging

/-! ## Phases of a run -/

/-- Where a run stands. -/
inductive Phase where
  /-- Not started. -/
  | idle
  /-- Counting hits. -/
  | estimating
  /-- Creating the scratch directory and the store in it. -/
  | preparingStorage
  /-- Registering the queries. -/
  | loadingQueries
  /-- Retrieving hits; `completed` of `total` queries are done. -/
  | executing (completed total : Nat)
  /-- Adding up the weights. -/
  | aggregating
  /-- Writing the report. -/
  | writingReport
  /-- Removing the scratch directory. -/
  | cleaningUp
  /-- Ended well. -/
  | finished
  /-- Ended with an error. -/
  | failed
  deriving DecidableEq, Repr, Inhabited

namespace Phase

/-- Does the phase end a run? -/
def isTerminal : Phase → Bool
  | finished | failed => true
  | _ => false

/-- The line that is shown for a phase. -/
def text : Phase → String
  | idle => "Idle."
  | estimating => "Estimating hit counts."
  | preparingStorage => "Preparing scratch storage."
  | loadingQueries => "Loading named queries."
  | executing completed total =>
    "Executing queries (" ++ toString completed ++ "/" ++ toString total ++ " complete)."
  | aggregating => "Aggregating scores."
  | writingReport => "Writing report."
  | cleaningUp => "Cleaning up scratch storage."
  | finished => "Finished."
  | failed => "Failed."

end Phase

/-! ## Files and journal -/

/-- What a file holds. -/
inductive Content where
  /-- A text. -/
  | text (s : String)
  /-- The sheet of a report. -/
  | sheet (s : Sheet)
  /-- The tables of a store. -/
  | database
  /-- Something that is not looked at. -/
  | other
  deriving Repr, Inhabited

/-- An entry of the journal. -/
inductive Event where
  /-- A phase is announced. -/
  | phase (p : Phase)
  /-- The index is asked for the number of hits of a query. -/
  | counted (id : QueryId)
  /-- The index is asked for the hits of a query, up to a limit. -/
  | searched (id : QueryId) (limit : Nat)
  /-- The index is asked for a document. -/
  | opened (address : Address)
  /-- A document is rendered under the queries that matched it. -/
  | rendered (fileId : String) (ids : List QueryId)
  deriving Repr, DecidableEq, Inhabited

/-- Files on a device, and a journal. -/
structure Workspace where
  /-- The files. -/
  tree : FileTree Content
  /-- What happened, in order. -/
  journal : List Event
  /-- What becomes of writing files. -/
  disk : Disk Content
  deriving Inhabited

namespace Workspace

/-- The workspace with an entry added to its journal. -/
def note (w : Workspace) (e : Event) : Workspace := { w with journal := w.journal ++ [e] }

/-- The workspace with several entries added to its journal. -/
def noteAll (w : Workspace) (es : List Event) : Workspace := { w with journal := w.journal ++ es }

/-- The phases announced so far. -/
def phases (w : Workspace) : List Phase :=
  w.journal.filterMap (fun e =>
    match e with
    | .phase p => some p
    | _ => none)

end Workspace

end Tagging
