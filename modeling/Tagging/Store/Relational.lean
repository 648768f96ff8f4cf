import Tagging.Store.Basic

/-!
# Tables of a database

Scratch tables as a relational database keeps them: each row is checked against the constraints of
its table as it is written, and the rows of one transaction are kept together or not at all.

* `Tables`, `Relational` — the tables, and the store that holds them;
* `Tables.addQuery`, `Tables.addScore`, `Tables.putDisplay` — single statements;
* `transaction` — a sequence of statements that is undone as a whole;
* `compensatedSum` — how the engine adds up a column;
* `Relational.insertQueries`, … `Relational.rows` — the operations of a store.
-/

namespace Tagging

/-- The tables of the database. -/
structure Tables where
  /-- The registered queries, each id once. -/
  queries : List QueryRecord
  /-- The display entries, each file once. -/
  displays : List DisplayEntry
  /-- The weights, by ascending file and query. -/
  scores : ScoreTable
  /-- The total of each file, once they are computed. -/
  totals : List (String × Double)
  deriving Repr, Inhabited

/-- A store over such tables. -/
structure Relational where
  /-- What is committed. -/
  tables : Tables
  /-- Are the totals computed? -/
  aggregated : Bool
  deriving Repr, Inhabited

namespace Tables

/-- The greatest address that a column of the database holds. -/
def maxAddress : Nat := Nat.pow 2 63 - 1

/-- Is the query registered? -/
def hasQuery (t : Tables) (id : QueryId) : Bool := t.queries.any (fun q => q.id = id)

/-- Adds a query unless its id is taken. -/
def addQuery (t : Tables) (r : QueryRecord) : Except StoreError Tables :=
  if t.hasQuery r.id then .error (.uniqueViolated "named_queries.query_id")
  else .ok { t with queries := t.queries ++ [r] }

/-- Adds a score that meets the constraints of its table, which are checked in this order: there is
a weight, it is positive, the key is free, the query is registered. -/
def addScore (t : Tables) (row : ScoreRow) : Except StoreError Tables :=
  if row.weight.isNaN then .error (.missingValue "score_rows.weight")
  else if !(row.weight > 0) then .error (.checkViolated "weight > 0")
  else if hasScore t.scores row.key then
    .error (.uniqueViolated "score_rows.file_id, score_rows.query_id")
  else if !t.hasQuery row.queryId then .error .referenceViolated
  else .ok { t with scores := insertScore row.key row.weight t.scores }

/-- Writes a display entry in place of an earlier one of the same file. -/
def putDisplay (t : Tables) (e : DisplayEntry) : Except StoreError Tables :=
  if maxAddress < e.address then .error (.addressOutOfRange e.address)
  else .ok { t with displays := Tagging.putDisplay t.displays e }

end Tables

/-- Runs a statement for each item, one after the other, up to the first refusal. -/
def runAll {ι : Type} (statement : Tables → ι → Except StoreError Tables) (t : Tables) :
    List ι → Except StoreError Tables
  | [] => .ok t
  | x :: rest =>
    match statement t x with
    | .error e => .error e
    | .ok t' => runAll statement t' rest

/-- The sum as the engine forms it: along with the running sum it adds up what each addition lost,
and puts that back at the end if it is a finite number. -/
def compensatedSum (weights : List Double) : Double :=
  let (sum, lost) := weights.foldl (fun (sum, lost) w =>
    let r := w.toFloat
    let t := sum + r
    (t, lost + (if sum.abs > r.abs then (sum - t) + r else (r - t) + sum)))
    ((0.0 : Float), (0.0 : Float))
  .ofFloat (if lost.isNaN || lost.isInf then sum else sum + lost)

namespace Relational

/-- A store over empty tables. -/
def empty : Relational := ⟨⟨[], [], [], []⟩, false⟩

/-- Keeps the outcome of a transaction, or the tables as they were. -/
def transaction (r : Relational) (body : Tables → Except StoreError Tables) :
    Relational × Except StoreError Unit :=
  if r.aggregated then (r, .error .writesClosed)
  else match body r.tables with
    | .error e => (r, .error e)
    | .ok t => ({ r with tables := t }, .ok ())

/-- Registers queries. -/
def insertQueries (r : Relational) (records : List QueryRecord) :
    Relational × Except StoreError Unit :=
  r.transaction (fun t => runAll Tables.addQuery t records)

/-- Writes one score. -/
def insertScore (r : Relational) (row : ScoreRow) : Relational × Except StoreError Unit :=
  r.transaction (fun t => t.addScore row)

/-- Writes one display entry. -/
def upsertDisplay (r : Relational) (entry : DisplayEntry) : Relational × Except StoreError Unit :=
  r.transaction (fun t => t.putDisplay entry)

/-- Writes all that one query found: the display entries, then the scores. -/
def applyBatch (r : Relational) (batch : ScoreBatch) : Relational × Except StoreError Unit :=
  r.transaction (fun t =>
    match runAll Tables.putDisplay t batch.displays with
    | .error e => .error e
    | .ok t' => runAll Tables.addScore t' batch.scores)

/-- The files of a score table, each once, in its order. -/
def filesOf : ScoreTable → List String
  | [] => []
  | ((fileId, _), _) :: rest => fileId :: (filesOf rest).filter (fun f => f ≠ fileId)

/-- Computes the totals anew and says how many files have one. -/
def aggregate (r : Relational) : Relational × Except StoreError Nat :=
  let totals := (filesOf r.tables.scores).map (fun fileId =>
    (fileId, compensatedSum ((weightsOf r.tables.scores fileId).map Prod.snd)))
  (⟨{ r.tables with totals := totals }, true⟩, .ok totals.length)

/-- The rows of all files with a total, best total first. -/
def rows (r : Relational) : Except StoreError (List SortedRow) :=
  if !r.aggregated then .error .notAggregated
  else .ok (sortRows (r.tables.totals.map (fun (fileId, total) =>
    SortedRow.join fileId total (displayOf r.tables.displays fileId)
      (weightsOf r.tables.scores fileId))))

end Relational

end Tagging
