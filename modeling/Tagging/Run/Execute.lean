import Tagging.Estimate.Timeline
import Tagging.Report.Writer
import Tagging.Run.Options
import Tagging.Run.Workers

/-!
# Runs

A run counts hits, retrieves them into a store of its own, adds up the weights and writes the
report.  It can be executed once; whatever happens, its scratch directory is removed at the end.
When it breaks down, it announces nothing any more.

* `Run`, `Run.new` — a run over queries that make sense;
* `Environment` — what a run cannot choose: the time, what comes of counting, in which order its
  workers get on, and whether the database opens;
* `Run.executeQueries`, `Run.scoreAndReport`, `Run.carryOut` — the parts of a run;
* `Summary`, `Run.execute` — the whole of it.
-/

namespace Tagging

/-! ## Runs that can be executed -/

/-- A run. -/
structure Run where
  /-- The queries, in the order of the columns. -/
  queries : List NamedQuery
  /-- The index. -/
  index : SearchIndex
  /-- How the run works. -/
  options : RunOptions
  /-- What writes its report. -/
  writer : Writer
  /-- Was it executed? -/
  executed : Bool

/-- The first fault of queries that follow those with the ids `seen`. -/
def runQueryFault? (seen : List QueryId) : List NamedQuery → Option QueryFault
  | [] => none
  | q :: rest =>
    if q.id ∈ seen then some (.repeatedId q.id)
    else if q.maxHits = 0 || q.maxHits < -1 then some (.badMaxHits q.id)
    else if q.priority < -1 then some (.badPriority q.id)
    else runQueryFault? (q.id :: seen) rest

/-- A run over at least one query, all without a fault. -/
def Run.new (queries : List NamedQuery) (index : SearchIndex) (options : RunOptions)
    (writer : Writer) : Except RequestFault Run :=
  if queries.isEmpty then .error .noQueries
  else match runQueryFault? [] queries with
    | some fault => .error (.query fault)
    | none => .ok ⟨queries, index, options, writer, false⟩

/-- What a run cannot choose. -/
structure Environment where
  /-- The time at which the run begins. -/
  clock : Clock
  /-- What is known when counting is over, and the queries whose counting began. -/
  counting : SearchIndex → List NamedQuery → RunOptions → Estimate × List QueryId
  /-- Which move comes next while queries are executed. -/
  schedule : Board → Move
  /-- What the engine reports if it cannot open a database. -/
  databaseFault : Option String

/-- Counts that take their own time, one worker after the other, and a database that opens. -/
def Environment.inOrder : Environment where
  clock := .started
  counting := fun index queries o =>
    (estimateWithin index queries o.estimatorThreads o.estimatorBudget,
      countsBegun index queries o.estimatorThreads o.estimatorBudget)
  schedule := Board.inOrder
  databaseFault := none

/-- What comes of a run. -/
structure Summary where
  /-- What is known of the number of hits. -/
  estimate : Outcome
  /-- The number of files with a score. -/
  filesScored : Nat
  /-- The rows, best total first. -/
  rows : List SortedRow
  /-- The report. -/
  artifact : Artifact
  deriving Repr, Inhabited

/-- Does nothing come back, not even an error? -/
def brokeDown {α : Type} : Except Failure α → Bool
  | .error .breakdown => true
  | _ => false

/-- Announces a phase, unless what came before it broke down. -/
def Workspace.announce {α : Type} (w : Workspace) (p : Phase) (result : Except Failure α) :
    Workspace :=
  if brokeDown result then w else w.note (.phase p)

namespace Run

/-! ## The parts of a run -/

/-- What is known of the number of hits before any are retrieved. -/
def estimate (r : Run) (env : Environment) : Estimate :=
  (env.counting r.index r.queries r.options).1

/-- The queries whose counting began. -/
def counted (r : Run) (env : Environment) : List QueryId :=
  (env.counting r.index r.queries r.options).2

/-- What the workers of the run share. -/
def crew (r : Run) : Crew :=
  ⟨r.index, r.options.policy, workerPermits r.queries.length r.options.maxWorkers⟩

/-- The queries with the limits on their hits. -/
def work (r : Run) (e : Estimate) : List (NamedQuery × Nat) :=
  r.queries.map (fun q => (q, retrievalLimit q r.options.hardHitCeiling (e.hint q.id)))

/-- Retrieves the hits of all queries into the store. -/
def executeQueries (r : Run) (env : Environment) (e : Estimate) (store : Store) (w : Workspace) :
    Workspace × Except Failure Store :=
  let b := r.crew.drive env.schedule (Board.start (r.work e) store)
  let w := w.noteAll b.journal
  match b.verdict with
  | some (.ok ()) => (w, .ok b.store)
  | some (.error f) => (w, .error f)
  | none => (w, .error .worker)

/-- Adds up the weights and reads the rows. -/
def addUp (store : Store) : Except StoreError (Nat × List SortedRow) :=
  match store.aggregate with
  | (_, .error e) => .error e
  | (store, .ok files) =>
    match store.rows with
    | .error e => .error e
    | .ok rows => .ok (files, rows)

/-- Registers the queries, retrieves their hits, adds up the weights and writes the report. -/
def scoreAndReport (r : Run) (env : Environment) (e : Estimate) (store : Store) (w : Workspace) :
    Writer × Workspace × Except Failure (Nat × List SortedRow × Artifact) :=
  let w := w.note (.phase .loadingQueries)
  match store.insertQueries (r.queries.map NamedQuery.record) with
  | (_, .error f) => (r.writer, w, .error (.storage f))
  | (store, .ok ()) =>
    match r.executeQueries env e store w with
    | (w, .error f) => (r.writer, w, .error f)
    | (w, .ok store) =>
      let w := w.note (.phase .aggregating)
      match addUp store with
      | .error f => (r.writer, w, .error (.storage f))
      | .ok (files, rows) =>
        let w := w.note (.phase .writingReport)
        match r.writer.write r.queries rows w with
        | (writer, w, .error f) => (writer, w, .error f)
        | (writer, w, .ok artifact) => (writer, w, .ok (files, rows, artifact))

/-- Opens a store in the scratch directory and works with it. -/
def workInStore (r : Run) (env : Environment) (e : Estimate) (scratch : Place) (w : Workspace) :
    Writer × Workspace × Except Failure (Nat × List SortedRow × Artifact) :=
  match openStore w.tree scratch r.options.backend .database env.databaseFault with
  | (tree, .error f) => (r.writer, { w with tree := tree }, .error (.storage f))
  | (tree, .ok store) => r.scoreAndReport env e store { w with tree := tree }

/-- Works in a scratch directory, which is removed whatever comes of it, also without a word. -/
def workInScratch (r : Run) (env : Environment) (e : Estimate) (w : Workspace) :
    Writer × Workspace × Except Failure (Nat × List SortedRow × Artifact) :=
  match createScratch w.tree r.options.scratchRoot with
  | .error f => (r.writer, w, .error (.storage f))
  | .ok (tree, scratch) =>
    let (writer, w, result) := r.workInStore env e scratch { w with tree := tree }
    let w := w.announce .cleaningUp result
    (writer, { w with tree := removeScratch w.tree scratch }, result)

/-- Counts until the deadline, which has to be an instant, works and reports. -/
def carryOut (r : Run) (env : Environment) (w : Workspace) :
    Writer × Workspace × Except Failure Summary :=
  let w := w.note (.phase .estimating)
  match env.clock.deadline? r.options.estimatorBudget with
  | none => (r.writer, w, .error .breakdown)
  | some _ =>
    let w := w.noteAll ((r.counted env).map Event.counted)
    match r.workInScratch env (r.estimate env) (w.note (.phase .preparingStorage)) with
    | (writer, w, .error f) => (writer, w, .error f)
    | (writer, w, .ok (files, rows, artifact)) =>
      (writer, w, .ok ⟨(r.estimate env).outcome, files, rows, artifact⟩)

/-! ## The whole run -/

/-- Executes a run that was not executed before, and announces how it ends, unless it breaks
down. -/
def execute (r : Run) (env : Environment) (w : Workspace) :
    Run × Workspace × Except Failure Summary :=
  if r.executed then (r, w, .error (.alreadyDone .executeRun))
  else
    let (writer, w, result) := r.carryOut env w
    let w := w.announce (if result.isOk then .finished else .failed) result
    ({ r with writer := writer, executed := true }, w, result)

end Run

end Tagging
