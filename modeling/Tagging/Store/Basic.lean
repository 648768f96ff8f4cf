import Tagging.Basic
import Tagging.FileTree
import Tagging.Number.Double
import Tagging.Text.Blank
import Tagging.Text.Quoted

/-!
# Scratch tables: what goes in and what comes out

The records that a run writes to its scratch tables, the rows it reads back, and the reasons for
which a table refuses a record.

* `QueryRecord`, `ScoreRow`, `DisplayEntry`, `ScoreBatch` — what is written;
* `SortedRow`, `rowLe`, `sortRows` — what is read, best total first;
* `Backend` — the kinds of tables;
* `StoreError`, `StoreError.kind`, `StoreError.message` — refusals;
* `ScoreKey`, `keyLt`, `insertScore`, `hasScore`, `weightsOf` — scores by ascending key, so that
  equal tables are equal values and the weights of a file stand next to each other;
* `putBy` — replacing the record of a key, or adding it.
-/

namespace Tagging

/-! ## Records -/

/-- What the tables keep of a query. -/
structure QueryRecord where
  /-- The query's id, unique among the records. -/
  id : QueryId
  /-- The name of its column. -/
  name : String
  /-- Its own cap. -/
  maxHits : Int
  /-- Its priority. -/
  priority : Int
  deriving Repr, DecidableEq, Inhabited

/-- The record of a query. -/
def NamedQuery.record (q : NamedQuery) : QueryRecord := ⟨q.id, q.name, q.maxHits, q.priority⟩

/-- The weight of one file under one query. -/
structure ScoreRow where
  /-- The file. -/
  fileId : String
  /-- The query. -/
  queryId : QueryId
  /-- What the query adds to the file's total. -/
  weight : Double
  deriving Repr, DecidableEq, Inhabited

/-- How a file is shown. -/
structure DisplayEntry where
  /-- The file. -/
  fileId : String
  /-- Its name. -/
  displayName : String
  /-- Where it lies. -/
  relativePath : String
  /-- The document of its latest sighting. -/
  address : Nat
  deriving Repr, DecidableEq, Inhabited

/-- All that one query writes. -/
structure ScoreBatch where
  /-- The query. -/
  queryId : QueryId
  /-- Display entries, later ones replacing earlier ones of the same file. -/
  displays : List DisplayEntry
  /-- Scores. -/
  scores : List ScoreRow
  deriving Repr, DecidableEq, Inhabited

/-! ## Rows -/

/-- One file with its total, its display entry and its weights. -/
structure SortedRow where
  /-- The file. -/
  fileId : String
  /-- The sum of the weights. -/
  total : Double
  /-- The shown name; the file's id if it has no display entry. -/
  displayName : String
  /-- Where the file lies; empty if it has no display entry. -/
  relativePath : String
  /-- The document of the latest sighting. -/
  address : Option Nat
  /-- The weight under each query that matched, by ascending id. -/
  weights : List (QueryId × Double)
  deriving Repr, DecidableEq, Inhabited

namespace SortedRow

/-- The queries that matched, by ascending id. -/
def matched (r : SortedRow) : List QueryId := r.weights.map Prod.fst

/-- The weight under a query. -/
def weight? (r : SortedRow) (q : QueryId) : Option Double := r.weights.lookup q

/-- The row of a file, joined with its display entry. -/
def join (fileId : String) (total : Double) (display : Option DisplayEntry)
    (weights : List (QueryId × Double)) : SortedRow :=
  match display with
  | some d => ⟨fileId, total, d.displayName, d.relativePath, some d.address, weights⟩
  | none => ⟨fileId, total, fileId, "", none, weights⟩

end SortedRow

/-- Does the row `a` come before or with `b`: a greater total first, then by file? -/
def rowLe (a b : SortedRow) : Bool :=
  if Number.orderKey b.total < Number.orderKey a.total then true
  else if Number.orderKey a.total < Number.orderKey b.total then false
  else a.fileId ≤ b.fileId

/-- Rows in the order in which a report shows them. -/
def sortRows (rows : List SortedRow) : List SortedRow := rows.mergeSort rowLe

/-! ## Backends -/

/-- Kinds of scratch tables. -/
inductive Backend where
  /-- Tables held in memory. -/
  | memory
  /-- Tables of a database file. -/
  | sqlite
  deriving DecidableEq, Repr, Inhabited

namespace Backend

/-- Every backend. -/
def all : List Backend := [memory, sqlite]

/-- The name of a backend in settings. -/
def name : Backend → String
  | memory => "memory"
  | sqlite => "sqlite"

/-- The backend of a name, in any case and with blanks around it. -/
def ofName? (s : String) : Option Backend := all.find? (fun b => b.name = Text.keyword s)

end Backend

/-! ## Refusals -/

/-- Why scratch tables cannot be had or refuse an operation. -/
inductive StoreError where
  /-- No backend has this name. -/
  | unknownBackend (name : String)
  /-- The totals are computed, so nothing can be written. -/
  | writesClosed
  /-- The totals are not computed, so there are no rows. -/
  | notAggregated
  /-- The score is for a query that is not registered. -/
  | unknownQuery (id : QueryId)
  /-- The file has a score under the query. -/
  | scoreExists (fileId : String) (id : QueryId)
  /-- The batch scores a file twice. -/
  | scoredTwice (id : QueryId) (fileId : String)
  /-- The query is registered. -/
  | queryExists (id : QueryId)
  /-- The columns, which must differ from row to row, repeat. -/
  | uniqueViolated (columns : String)
  /-- A row refers to a query that is not registered. -/
  | referenceViolated
  /-- A condition on a column does not hold. -/
  | checkViolated (condition : String)
  /-- A column that needs a value gets none. -/
  | missingValue (column : String)
  /-- An address that the column cannot hold. -/
  | addressOutOfRange (address : Nat)
  /-- The database cannot be opened. -/
  | databaseFault (message : String)
  /-- The scratch directory cannot be created. -/
  | directoryFault (fault : Fault)
  deriving Repr, DecidableEq, Inhabited

namespace StoreError

/-- The classes of refusals that callers tell apart. -/
inductive Kind where
  /-- The database engine reports a failure. -/
  | database
  /-- The file system reports a failure. -/
  | fileSystem
  /-- The argument cannot be accepted. -/
  | invalidArgument
  /-- The argument clashes with what is stored. -/
  | conflict
  deriving DecidableEq, Repr, Inhabited

/-- The class of a refusal. -/
def kind : StoreError → Kind
  | unknownBackend _ | writesClosed | notAggregated | unknownQuery _ | referenceViolated
  | addressOutOfRange _ => .invalidArgument
  | scoreExists _ _ | scoredTwice _ _ | queryExists _ | uniqueViolated _ => .conflict
  | checkViolated _ | missingValue _ | databaseFault _ => .database
  | directoryFault _ => .fileSystem

/-- What is wrong, in words. -/
def detail : StoreError → String
  | unknownBackend name => "Unknown scratch backend " ++ Text.quoted name ++ "."
  | writesClosed => "Scratch store is already aggregated; writes are closed."
  | notAggregated => "Scratch store has not been aggregated yet."
  | unknownQuery id => "Score row references unknown query " ++ toString id ++ "."
  | scoreExists fileId id =>
    "Score row for file " ++ Text.quoted fileId ++ " and query " ++ toString id ++
      " already exists."
  | scoredTwice id fileId =>
    "Batch for query " ++ toString id ++ " scores file " ++ Text.quoted fileId ++ " twice."
  | queryExists id => "Query " ++ toString id ++ " is already registered."
  | uniqueViolated columns => "UNIQUE constraint failed: " ++ columns
  | referenceViolated => "FOREIGN KEY constraint failed"
  | checkViolated condition =>
    "error returned from database: (code: 275) CHECK constraint failed: " ++ condition
  | missingValue column =>
    "error returned from database: (code: 1299) NOT NULL constraint failed: " ++ column
  | addressOutOfRange address =>
    "Document address " ++ toString address ++ " exceeds supported range."
  | databaseFault message => message
  | directoryFault fault => fault.message

/-- The refusal as it is shown. -/
def message (e : StoreError) : String :=
  match e.kind with
  | .database | .fileSystem => e.detail
  | .invalidArgument => "Invalid argument: " ++ e.detail
  | .conflict => "Conflict: " ++ e.detail

end StoreError

/-! ## Tables by key -/

/-- A file and a query. -/
abbrev ScoreKey := String × QueryId

/-- Does the key `a` come before `b`: by file, then by query? -/
def keyLt (a b : ScoreKey) : Bool :=
  if a.1 < b.1 then true else if a.1 = b.1 then a.2 < b.2 else false

/-- Weights by ascending key. -/
abbrev ScoreTable := List (ScoreKey × Double)

/-- The table with the weight of a key replaced or added. -/
def insertScore (key : ScoreKey) (weight : Double) (table : ScoreTable) : ScoreTable :=
  insertBy keyLt key weight table

/-- The table with several scores added, one after the other. -/
def insertScores (table : ScoreTable) (rows : List (ScoreKey × Double)) : ScoreTable :=
  rows.foldl (fun t r => insertScore r.1 r.2 t) table

/-- The key of a score. -/
def ScoreRow.key (r : ScoreRow) : ScoreKey := (r.fileId, r.queryId)

/-- Is there a weight for the key? -/
def hasScore (table : ScoreTable) (key : ScoreKey) : Bool := table.any (fun s => s.1 = key)

/-- The weights of one file, by ascending query. -/
def weightsOf (table : ScoreTable) (fileId : String) : List (QueryId × Double) :=
  (table.filter (fun s => s.1.1 = fileId)).map (fun s => (s.1.2, s.2))

/-- The records with the one of the same key replaced, or with a new one at the end. -/
def putBy {α κ : Type} [DecidableEq κ] (key : α → κ) (x : α) : List α → List α
  | [] => [x]
  | y :: rest => if key y = key x then x :: rest else y :: putBy key x rest

/-- The display entries with one replaced or added. -/
def putDisplay (entries : List DisplayEntry) (e : DisplayEntry) : List DisplayEntry :=
  putBy DisplayEntry.fileId e entries

/-- The display entry of a file. -/
def displayOf (entries : List DisplayEntry) (fileId : String) : Option DisplayEntry :=
  entries.find? (fun e => e.fileId = fileId)

end Tagging
