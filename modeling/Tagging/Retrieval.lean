import Tagging.Basic
import Tagging.Store.Basic
import Tagging.Workspace

/-!
# Retrieval

What one query adds to the tables.  Its hits are read best first; the first hit of a file gives the
weight of the file, the last one how the file is shown.

* `Sighting`, `sightings` — the hits with what is kept of their documents;
* `firstSightings`, `lastSightings` — one sighting for each file;
* `scoreBatch` — what is written;
* `retrieve` — asking the index, and what it is asked.
-/

namespace Tagging

/-! ## Sightings -/

/-- The most characters kept of a file's id. -/
def maxFileIdLength : Nat := 512

/-- The most characters kept of a shown name. -/
def maxDisplayNameLength : Nat := 256

/-- The most characters kept of a path. -/
def maxRelativePathLength : Nat := 1024

/-- The greatest rank that is told apart. -/
def maxRank : Nat := Nat.pow 2 32 - 1

/-- The first characters of a text, at most `n`. -/
def firstChars (n : Nat) (s : String) : String := String.ofList (s.toList.take n)

/-- One hit of a query: its position, and what is kept of its document. -/
structure Sighting where
  /-- The position among the hits, counted from one. -/
  rank : Nat
  /-- The document. -/
  address : Address
  /-- The file, shortened. -/
  fileId : String
  /-- The shown name, shortened. -/
  displayName : String
  /-- Where the file lies, shortened. -/
  relativePath : String
  deriving Repr, DecidableEq, Inhabited

namespace Sighting

/-- What is kept of a document that comes at a position. -/
def ofDocument (rank : Nat) (address : Address) (d : Document) : Sighting where
  rank := min rank maxRank
  address := address
  fileId := firstChars maxFileIdLength d.fileId
  displayName := firstChars maxDisplayNameLength d.displayName
  relativePath := firstChars maxRelativePathLength d.relativePath

/-- How the file is shown after this sighting. -/
def display (s : Sighting) : DisplayEntry := ⟨s.fileId, s.displayName, s.relativePath, s.address⟩

/-- The score of the file if this is its first sighting. -/
def score (s : Sighting) (policy : Policy) (q : NamedQuery) : ScoreRow :=
  ⟨s.fileId, q.id, policy.weight s.rank q.priority⟩

end Sighting

/-- The sightings of documents, best first. -/
def sightings (documents : List (Address × Document)) : List Sighting :=
  documents.zipIdx.map (fun ((address, d), i) => Sighting.ofDocument (i + 1) address d)

/-- The first sighting of each file, in order. -/
def firstSightings : List Sighting → List Sighting
  | [] => []
  | s :: rest => s :: (firstSightings rest).filter (fun t => t.fileId ≠ s.fileId)

/-- The last sighting of each file, by ascending file. -/
def lastSightings (ss : List Sighting) : List Sighting :=
  (ofPairsBy (fun a b => a < b) (ss.map (fun s => (s.fileId, s)))).map Prod.snd

/-- What a query writes. -/
def scoreBatch (policy : Policy) (q : NamedQuery) (ss : List Sighting) : ScoreBatch where
  queryId := q.id
  displays := (lastSightings ss).map Sighting.display
  scores := (firstSightings ss).map (fun s => s.score policy q)

/-! ## Asking the index -/

/-- Reads documents one after the other up to the first that cannot be read, and notes which were
asked for. -/
def readAll (index : SearchIndex) :
    List Address → List Event × Reply (List (Address × Document))
  | [] => ([], .answer [])
  | address :: rest =>
    match index.document address with
    | .failure message => ([.opened address], .failure message)
    | .breakdown => ([.opened address], .breakdown)
    | .answer d =>
      match readAll index rest with
      | (events, .answer more) => (.opened address :: events, .answer ((address, d) :: more))
      | (events, .failure message) => (.opened address :: events, .failure message)
      | (events, .breakdown) => (.opened address :: events, .breakdown)

/-- What a query writes, given a limit on its hits, and what the index was asked on the way.  Hits
beyond the limit are not looked at. -/
def retrieve (index : SearchIndex) (policy : Policy) (q : NamedQuery) (limit : Nat) :
    List Event × Reply ScoreBatch :=
  match index.search q limit with
  | .failure message => ([.searched q.id limit], .failure message)
  | .breakdown => ([.searched q.id limit], .breakdown)
  | .answer hits =>
    match readAll index (hits.take limit) with
    | (events, .answer documents) =>
      (.searched q.id limit :: events, .answer (scoreBatch policy q (sightings documents)))
    | (events, .failure message) => (.searched q.id limit :: events, .failure message)
    | (events, .breakdown) => (.searched q.id limit :: events, .breakdown)

end Tagging
