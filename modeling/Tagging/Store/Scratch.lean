import Tagging.Store.Memory
import Tagging.Store.Relational

/-!
# Scratch directories and stores

A run keeps its tables in a store of one of the backends, inside a directory of its own that is
removed when the run ends.

* `Store` — a store of either backend, with the operations that both have;
* `ScratchRoot`, `createScratch`, `removeScratch` — the directory of a run;
* `openStore` — the store of a backend in that directory.
-/

namespace Tagging

/-! ## Stores -/

/-- A store of either backend. -/
inductive Store where
  /-- Tables in memory. -/
  | memory (m : Memory)
  /-- Tables of a database. -/
  | relational (r : Relational)
  deriving Repr, Inhabited

namespace Store

/-- The backend of a store. -/
def backend : Store → Backend
  | memory _ => .memory
  | relational _ => .sqlite

/-- An empty store of a backend. -/
def empty : Backend → Store
  | .memory => memory Memory.empty
  | .sqlite => relational Relational.empty

/-- Registers queries. -/
def insertQueries (s : Store) (records : List QueryRecord) : Store × Except StoreError Unit :=
  match s with
  | memory m => ((m.insertQueries records).map memory id)
  | relational r => ((r.insertQueries records).map relational id)

/-- Writes one score. -/
def insertScore (s : Store) (row : ScoreRow) : Store × Except StoreError Unit :=
  match s with
  | memory m => ((m.insertScore row).map memory id)
  | relational r => ((r.insertScore row).map relational id)

/-- Writes one display entry. -/
def upsertDisplay (s : Store) (entry : DisplayEntry) : Store × Except StoreError Unit :=
  match s with
  | memory m => ((m.upsertDisplay entry).map memory id)
  | relational r => ((r.upsertDisplay entry).map relational id)

/-- Writes all that one query found, or nothing. -/
def applyBatch (s : Store) (batch : ScoreBatch) : Store × Except StoreError Unit :=
  match s with
  | memory m => ((m.applyBatch batch).map memory id)
  | relational r => ((r.applyBatch batch).map relational id)

/-- Computes the totals and says how many files have one. -/
def aggregate (s : Store) : Store × Except StoreError Nat :=
  match s with
  | memory m => (m.aggregate.map memory id)
  | relational r => (r.aggregate.map relational id)

/-- The rows of all files with a total, best total first. -/
def rows : Store → Except StoreError (List SortedRow)
  | memory m => m.rows
  | relational r => r.rows

end Store

/-! ## Scratch directories -/

/-- How the names of scratch directories begin. -/
def scratchStem : String := "scratch-"

/-- The name of the database file in a scratch directory. -/
def databaseName : String := "scratch.sqlite3"

/-- The first name of a scratch directory that is free below a place, among as many as there are
nodes in the tree and one more. -/
def freshName {α : Type} (t : FileTree α) (place : Place) : String :=
  match (List.range (t.entries.length + 1)).find?
      (fun n => (t.get? (place ++ [scratchStem ++ toString n])).isNone) with
  | some n => scratchStem ++ toString n
  | none => scratchStem

/-- Where the system keeps temporary files. -/
def systemScratchRoot : Path := ⟨"/tmp"⟩

/-- Adds a directory for one run below `root`, or below the system's own place. -/
def createScratch {α : Type} (t : FileTree α) (root : Option Path) :
    Except StoreError (FileTree α × Place) :=
  let path := match root with
    | some p => if p.text = "" then ⟨"."⟩ else p
    | none => systemScratchRoot
  match t.resolve path with
  | .error f => .error (.directoryFault f)
  | .ok place =>
    if t.holdsDirectory place then
      let fresh := place ++ [freshName t place]
      .ok (t.put fresh .directory, fresh)
    else .error (.directoryFault .notDirectory)

/-- Removes the directory of a run and all that is in it. -/
def removeScratch {α : Type} (t : FileTree α) (scratch : Place) : FileTree α := t.prune scratch

/-- Opens a store of a backend.  A database keeps its tables in a file of the scratch directory,
which `database` holds; `fault` is what the engine reports if it cannot open one. -/
def openStore {α : Type} (t : FileTree α) (scratch : Place) (backend : Backend) (database : α)
    (fault : Option String) : FileTree α × Except StoreError Store :=
  match backend with
  | .memory => (t, .ok (Store.empty .memory))
  | .sqlite =>
    let t' := t.put (scratch ++ [databaseName]) (.file database)
    match fault with
    | some message => (t', .error (.databaseFault message))
    | none => (t', .ok (Store.empty .sqlite))

end Tagging
