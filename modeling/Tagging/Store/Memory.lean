import Tagging.Store.Basic

/-!
# Tables in memory

Scratch tables as a value.  Every write first checks that the totals are not computed yet; a batch
is checked as a whole before any of it is written.

* `Memory` — the tables;
* `Memory.insertQueries`, `Memory.insertScore`, `Memory.upsertDisplay`, `Memory.applyBatch` — writes;
* `Memory.aggregate`, `Memory.rows` — totals and sorted rows.
-/

namespace Tagging

/-- Scratch tables held in memory. -/
structure Memory where
  /-- The registered queries, each id once. -/
  queries : List QueryRecord
  /-- The weights, by ascending file and query. -/
  scores : ScoreTable
  /-- The display entries, each file once. -/
  displays : List DisplayEntry
  /-- The total of each file, once they are computed. -/
  totals : Option (List (String × Double))
  deriving Repr, Inhabited

namespace Memory

/-- Tables without any record. -/
def empty : Memory := ⟨[], [], [], none⟩

/-- Is the query registered? -/
def hasQuery (m : Memory) (id : QueryId) : Bool := m.queries.any (fun q => q.id = id)

/-- Refuses once the totals are computed. -/
def ensureWritable (m : Memory) : Except StoreError Unit :=
  if m.totals.isSome then .error .writesClosed else .ok ()

/-- Refuses a score of an unknown query, and one whose key is taken. -/
def checkScore (m : Memory) (row : ScoreRow) : Except StoreError Unit :=
  if !m.hasQuery row.queryId then .error (.unknownQuery row.queryId)
  else if hasScore m.scores row.key then .error (.scoreExists row.fileId row.queryId)
  else .ok ()

/-- The first record whose id is registered. -/
def registered? (m : Memory) (records : List QueryRecord) : Option QueryRecord :=
  records.find? (fun r => m.hasQuery r.id)

/-- Registers queries unless one of them is registered already. -/
def insertQueries (m : Memory) (records : List QueryRecord) : Memory × Except StoreError Unit :=
  match m.ensureWritable with
  | .error e => (m, .error e)
  | .ok () =>
    match m.registered? records with
    | some r => (m, .error (.queryExists r.id))
    | none =>
      ({ m with queries := records.foldl (fun qs r => putBy QueryRecord.id r qs) m.queries },
        .ok ())

/-- Writes one score. -/
def insertScore (m : Memory) (row : ScoreRow) : Memory × Except StoreError Unit :=
  match m.ensureWritable with
  | .error e => (m, .error e)
  | .ok () =>
    match m.checkScore row with
    | .error e => (m, .error e)
    | .ok () => ({ m with scores := Tagging.insertScore row.key row.weight m.scores }, .ok ())

/-- Writes one display entry in place of an earlier one of the same file. -/
def upsertDisplay (m : Memory) (entry : DisplayEntry) : Memory × Except StoreError Unit :=
  match m.ensureWritable with
  | .error e => (m, .error e)
  | .ok () => ({ m with displays := putDisplay m.displays entry }, .ok ())

/-- Checks the scores of a batch, one after the other; `pending` holds those that passed. -/
def checkBatch (m : Memory) (batch : QueryId) (pending : ScoreTable) :
    List ScoreRow → Except StoreError ScoreTable
  | [] => .ok pending
  | row :: rest =>
    match m.checkScore row with
    | .error e => .error e
    | .ok () =>
      if hasScore pending row.key then .error (.scoredTwice batch row.fileId)
      else m.checkBatch batch (Tagging.insertScore row.key row.weight pending) rest

/-- Writes all that one query found, or nothing. -/
def applyBatch (m : Memory) (batch : ScoreBatch) : Memory × Except StoreError Unit :=
  match m.ensureWritable with
  | .error e => (m, .error e)
  | .ok () =>
    match m.checkBatch batch.queryId [] batch.scores with
    | .error e => (m, .error e)
    | .ok pending =>
      ({ m with
          displays := batch.displays.foldl putDisplay m.displays
          scores := insertScores m.scores pending }, .ok ())

/-- The totals of neighbouring scores of one file; `done` holds those before, last one first. -/
def runTotals (done : List (String × Double)) : ScoreTable → List (String × Double)
  | [] => done.reverse
  | ((fileId, _), weight) :: rest =>
    match done with
    | (last, total) :: earlier =>
      if last = fileId then runTotals ((last, total + weight) :: earlier) rest
      else runTotals ((fileId, weight) :: done) rest
    | [] => runTotals [(fileId, weight)] rest

/-- Computes the totals and says how many files have one. -/
def aggregate (m : Memory) : Memory × Except StoreError Nat :=
  let totals := runTotals [] m.scores
  ({ m with totals := some totals }, .ok totals.length)

/-- The rows of all files with a total, best total first. -/
def rows (m : Memory) : Except StoreError (List SortedRow) :=
  match m.totals with
  | none => .error .notAggregated
  | some totals =>
    .ok (sortRows (totals.map (fun (fileId, total) =>
      SortedRow.join fileId total (displayOf m.displays fileId) (weightsOf m.scores fileId))))

end Memory

end Tagging
