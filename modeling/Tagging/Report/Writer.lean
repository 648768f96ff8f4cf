import Tagging.Highlight
import Tagging.Report.Link
import Tagging.Report.Options
import Tagging.Workspace

/-!
# Writing a report

A report is planned row by row, each row with its links as far as they fit and are not used up; a
static report writes a snapshot for each of its links on the way.  Then the sheet is laid out and
saved.  When a step fails, the report, which may be written in part, and a snapshot directory that
was not there before are removed; when the index or the renderer breaks down, everything stays as it
is.

* `LinkBudget` — how many links may still be written;
* `planLive`, `planLiveRows` — the rows of a live report;
* `snapshotPlan?`, `putSnapshot`, `planStaticRows` — the rows and snapshots of a static report;
* `Writer`, `Writer.new` — what a report needs;
* `Artifact`, `Writer.write` — writing it, once.
-/

namespace Tagging

/-! ## Links that may be written -/

/-- How many links may still be written, and how many are. -/
structure LinkBudget where
  /-- Links to come. -/
  remaining : Nat
  /-- Links taken. -/
  used : Nat
  deriving Repr, DecidableEq, Inhabited

namespace LinkBudget

/-- Nothing is used yet. -/
def ofCap (cap : Nat) : LinkBudget := ⟨cap, 0⟩

/-- The budget with one more link taken, if there is one to take. -/
def take? (b : LinkBudget) : Option LinkBudget :=
  match b.remaining with
  | 0 => none
  | n + 1 => some ⟨n, b.used + 1⟩

/-- The budget with a link taken, if the link fits and there is one to take. -/
def takeFor? (b : LinkBudget) (link : String) : Option LinkBudget :=
  if linkFits link then b.take? else none

end LinkBudget

/-! ## Rows -/

/-- A row without links. -/
def PlannedRow.ofRow (r : SortedRow) : PlannedRow :=
  ⟨r.fileId, r.displayName, r.relativePath, r.total, r.weights, none, []⟩

/-- The queries under which a row has a weight, in the order of the list. -/
def matchedQueries (queries : List NamedQuery) (r : SortedRow) : List NamedQuery :=
  queries.filter (fun q => (r.weight? q.id).isSome)

/-! ## Live reports -/

/-- The links of the weights of a row, as far as they fit and the budget lasts. -/
def planCellLinks (base : Url) (fileId : String) (budget : LinkBudget) :
    List NamedQuery → List (QueryId × String) × LinkBudget
  | [] => ([], budget)
  | q :: rest =>
    let link := liveLink base fileId [q.id]
    match budget.takeFor? link with
    | some left =>
      let (links, final) := planCellLinks base fileId left rest
      ((q.id, link) :: links, final)
    | none => planCellLinks base fileId budget rest

/-- A row of a live report: the link of the row, then those of its weights. -/
def planLive (base : Url) (queries : List NamedQuery) (r : SortedRow) (budget : LinkBudget) :
    PlannedRow × LinkBudget :=
  let link := liveLink base r.fileId r.matched
  let (fileLink, left) :=
    match budget.takeFor? link with
    | some left => (some link, left)
    | none => (none, budget)
  let (cellLinks, final) := planCellLinks base r.fileId left (matchedQueries queries r)
  ({ PlannedRow.ofRow r with fileLink := fileLink, cellLinks := cellLinks }, final)

/-- The rows of a live report. -/
def planLiveRows (base : Url) (queries : List NamedQuery) (budget : LinkBudget) :
    List SortedRow → List PlannedRow × LinkBudget
  | [] => ([], budget)
  | r :: rest =>
    let (row, left) := planLive base queries r budget
    let (rows, final) := planLiveRows base queries left rest
    (row :: rows, final)

/-! ## Static reports -/

/-- A snapshot to be written. -/
structure SnapshotPlan where
  /-- The document to render. -/
  address : Address
  /-- The place below the snapshot directory. -/
  location : Path
  /-- The link that leads there. -/
  link : String
  deriving Repr, DecidableEq, Inhabited

/-- The snapshot of a row whose document is known and whose link fits, at a place that is not
taken. -/
def snapshotPlan? (directory : Path) (suffix : String) (taken : List (List Component))
    (r : SortedRow) : Option SnapshotPlan :=
  match r.address with
  | none => none
  | some address =>
    let location := firstFreeLocation taken r.relativePath r.fileId suffix
    let link := snapshotLink (directory.fileName?.getD "") location
    if linkFits link then some ⟨address, location, link⟩ else none

/-- Writes a text to a place below the snapshot directory, with the directories above it. -/
def placeSnapshot (disk : Disk Content) (tree : FileTree Content) (path : Path) (text : String) :
    FileTree Content × Except ReportFault Unit :=
  let parent := path.parent?.getD ⟨""⟩
  match tree.makeDirectories parent with
  | (tree', .error f) => (tree', .error (.snapshotDirectory parent f))
  | (tree', .ok ()) =>
    match tree'.writeOn disk path (.text text) with
    | (tree'', .ok ()) => (tree'', .ok ())
    | (tree'', .error f) => (tree'', .error (.snapshotFile path f))

/-- Reads a document, renders it and writes the snapshot. -/
def putSnapshot (index : SearchIndex) (renderer : Renderer) (directory : Path)
    (plan : SnapshotPlan) (matched : List NamedQuery) (w : Workspace) :
    Workspace × Except Failure Unit :=
  let w := w.note (.opened plan.address)
  match index.document plan.address with
  | .failure message => (w, .error (.index message))
  | .breakdown => (w, .error .breakdown)
  | .answer document =>
    let w := w.note (.rendered document.fileId (matched.map NamedQuery.id))
    match renderer.render document matched with
    | .failure message => (w, .error (.render message))
    | .breakdown => (w, .error .breakdown)
    | .answer text =>
      match placeSnapshot w.disk w.tree (directory.join plan.location) text with
      | (tree, .ok ()) => ({ w with tree := tree }, .ok ())
      | (tree, .error f) => ({ w with tree := tree }, .error (.report f))

/-- What the rows so far have used up. -/
structure Used where
  /-- The links. -/
  budget : LinkBudget
  /-- The places of snapshots. -/
  taken : List (List Component)
  deriving Repr, Inhabited

/-- The rows of a static report.  A row whose snapshot fits takes a link and its place and is
written at once; any other row has no link. -/
def planStaticRows (index : SearchIndex) (renderer : Renderer) (directory : Path)
    (suffix : String) (queries : List NamedQuery) (used : Used) (w : Workspace) :
    List SortedRow → Workspace × Except Failure (List PlannedRow × Used)
  | [] => (w, .ok ([], used))
  | r :: rest =>
    let row := PlannedRow.ofRow r
    let next := fun (row : PlannedRow) (used : Used) (w : Workspace) =>
      match planStaticRows index renderer directory suffix queries used w rest with
      | (w, .ok (rows, final)) => (w, .ok (row :: rows, final))
      | (w, .error e) => (w, .error e)
    match snapshotPlan? directory suffix used.taken r with
    | none => next row used w
    | some plan =>
      match used.budget.take? with
      | none => next row used w
      | some left =>
        match putSnapshot index renderer directory plan (matchedQueries queries r) w with
        | (w, .error e) => (w, .error e)
        | (w, .ok ()) =>
          next { row with fileLink := some plan.link }
            ⟨left, plan.location.components :: used.taken⟩ w

/-! ## The writer -/

/-- What a report needs, and whether it is written. -/
structure Writer where
  /-- What the report is to look like. -/
  options : ReportOptions
  /-- Where its documents come from. -/
  index : SearchIndex
  /-- What renders its snapshots. -/
  renderer : Option Renderer
  /-- Was it written, or tried? -/
  isUsed : Bool

/-- What was written. -/
structure Artifact where
  /-- Where the report is. -/
  reportPath : Path
  /-- Where its snapshots are. -/
  snapshotDirectory : Option Path
  /-- The number of its rows. -/
  rowsWritten : Nat
  /-- The number of its links. -/
  hyperlinksWritten : Nat
  /-- The number of its snapshots. -/
  snapshotsWritten : Nat
  /-- Are there rows that it leaves out? -/
  truncated : Bool
  deriving Repr, DecidableEq, Inhabited

namespace Writer

/-- A writer for a report whose path ends in a name; a static report needs a renderer. -/
def new (options : ReportOptions) (index : SearchIndex) (renderer : Option Renderer) :
    Except RequestFault Writer :=
  if options.output.fileName?.isNone then .error (.unnamedOutput options.output)
  else match options.mode, renderer with
    | .static _, none => .error .noRenderer
    | _, _ => .ok ⟨options, index, renderer, false⟩

/-- Plans the rows and writes the snapshots, with the snapshot directory in place. -/
def planRows (x : Writer) (queries : List NamedQuery) (rows : List SortedRow) (w : Workspace) :
    Workspace × Except Failure (List PlannedRow × Used) :=
  let budget := LinkBudget.ofCap x.options.maxHyperlinks
  match x.options.mode with
  | .live base =>
    let (planned, left) := planLiveRows base queries budget rows
    (w, .ok (planned, ⟨left, []⟩))
  | .static suffix =>
    match x.options.snapshotDirectory?, x.renderer with
    | some directory, some renderer =>
      planStaticRows x.index renderer directory suffix queries ⟨budget, []⟩ w rows
    | _, _ => (w, .ok (rows.map PlannedRow.ofRow, ⟨budget, []⟩))

/-- Makes the snapshot directory, if there is to be one. -/
def prepareDirectory (x : Writer) (w : Workspace) : Workspace × Except Failure Unit :=
  match x.options.snapshotDirectory? with
  | none => (w, .ok ())
  | some directory =>
    match w.tree.makeDirectories directory with
    | (tree, .ok ()) => ({ w with tree := tree }, .ok ())
    | (tree, .error f) =>
      ({ w with tree := tree }, .error (.report (.snapshotDirectory directory f)))

/-- Lays out the sheet and saves it. -/
def save (x : Writer) (queries : List NamedQuery) (planned : List PlannedRow) (w : Workspace) :
    Workspace × Except Failure Unit :=
  match layout queries planned with
  | .error f => (w, .error (.report (.sheet f)))
  | .ok sheet =>
    match w.tree.writeOn w.disk x.options.output (.sheet sheet) with
    | (tree, .ok ()) => ({ w with tree := tree }, .ok ())
    | (tree, .error f) => ({ w with tree := tree }, .error (.report (.save f)))

/-- Writes snapshots and report; what a failure leaves is not yet removed. -/
def emit (x : Writer) (queries : List NamedQuery) (rows : List SortedRow) (w : Workspace) :
    Workspace × Except Failure Artifact :=
  let shown := x.options.shown rows.length
  match x.prepareDirectory w with
  | (w, .error e) => (w, .error e)
  | (w, .ok ()) =>
    match x.planRows queries (rows.take shown) w with
    | (w, .error e) => (w, .error e)
    | (w, .ok (planned, used)) =>
      match x.save queries planned w with
      | (w, .error e) => (w, .error e)
      | (w, .ok ()) =>
        (w, .ok
          { reportPath := x.options.output
            snapshotDirectory := x.options.snapshotDirectory?
            rowsWritten := planned.length
            hyperlinksWritten := used.budget.used
            snapshotsWritten := used.taken.length
            truncated := shown < rows.length })

/-- The snapshot directory, if it is not there yet. -/
def freshDirectory? (x : Writer) (w : Workspace) : Option Path :=
  x.options.snapshotDirectory?.filter (fun directory => !w.tree.exists? directory)

/-- Removes the report, and a snapshot directory that was not there before. -/
def cleanUp (x : Writer) (fresh : Option Path) (w : Workspace) : Workspace :=
  let tree := w.tree.removeFile x.options.output
  { w with tree := match fresh with
      | some directory => tree.removeTree directory
      | none => tree }

/-- Writes the report of some rows, best total first.  A writer writes once; what a failed attempt
leaves is removed, but not what a breakdown leaves. -/
def write (x : Writer) (queries : List NamedQuery) (rows : List SortedRow) (w : Workspace) :
    Writer × Workspace × Except Failure Artifact :=
  if x.isUsed then (x, w, .error (.alreadyDone .writeReport))
  else
    let used := { x with isUsed := true }
    match x.emit queries rows w with
    | (w', .ok artifact) => (used, w', .ok artifact)
    | (w', .error .breakdown) => (used, w', .error .breakdown)
    | (w', .error e) => (used, x.cleanUp (x.freshDirectory? w) w', .error e)

end Writer

end Tagging
