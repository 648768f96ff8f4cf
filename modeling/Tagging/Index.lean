import Tagging.Basic

/-!
# Search indexes

What a run needs from an index of documents.  An index answers the same question in the same way
whenever it is asked; an answer may also be a failure, and an index may break down altogether.

* `Address`, `Document` — a document as an index stores it;
* `Reply` — an answer, a failure with its words, or a breakdown;
* `SearchIndex` — counting, searching and reading;
* `Script`, `Script.index` — an index whose hits, failures and delays are all written down in
  advance, for trying out what a run makes of them.
-/

namespace Tagging

/-! ## Indexes -/

/-- Where an index keeps a document. -/
abbrev Address := Nat

/-- The stored parts of a document. -/
structure Document where
  /-- Names the file that the document was made from. -/
  fileId : String
  /-- The name to show. -/
  displayName : String
  /-- Where the file lies. -/
  relativePath : String
  /-- The texts by the names of their fields, sorted by name. -/
  fields : List (String × String)
  deriving Repr, DecidableEq, Inhabited

/-- What comes of a question to an index. -/
inductive Reply (α : Type) where
  /-- An answer. -/
  | answer (value : α)
  /-- The index reports a failure. -/
  | failure (message : String)
  /-- The index breaks down without a report. -/
  | breakdown
  deriving Repr, Inhabited

/-- A read-only index of documents. -/
structure SearchIndex where
  /-- How many documents match a query. -/
  count : NamedQuery → Reply Nat
  /-- How long counting takes, in milliseconds. -/
  countTime : NamedQuery → Nat
  /-- The documents that match, best first, at most as many as asked for; an index may return more
  than that. -/
  search : NamedQuery → Nat → Reply (List Address)
  /-- The document at an address. -/
  document : Address → Reply Document

/-- Texts by name, sorted, the last one of each name. -/
def sortFields (fields : List (String × String)) : List (String × String) :=
  ofPairsBy (fun a b => a < b) fields

/-! ## Indexes written down in advance -/

/-- The answers of an index, written down in advance. -/
structure Script where
  /-- The documents by address; of one address the last counts. -/
  documents : List (Address × Document)
  /-- The hits of each query, best first. -/
  hits : List (QueryId × List Address)
  /-- How long counting takes, in milliseconds, where it takes any time. -/
  delays : List (QueryId × Nat)
  /-- The queries whose counting fails. -/
  countFailures : List QueryId
  /-- The queries whose counting breaks down. -/
  countBreakdowns : List QueryId
  /-- The queries whose search fails. -/
  searchFailures : List QueryId
  /-- The addresses that cannot be read. -/
  documentFailures : List Address
  /-- Does the index return all hits, however few are asked for? -/
  returnsAll : Bool
  deriving Repr, Inhabited

namespace Script

/-- The value written down last for a key. -/
def last? {κ ν : Type} [BEq κ] (key : κ) (entries : List (κ × ν)) : Option ν :=
  entries.reverse.lookup key

/-- A document with one field that names its file. -/
def namedDocument (fileId displayName relativePath : String) : Document :=
  ⟨fileId, displayName, relativePath, [("body", "Body of " ++ fileId ++ ".")]⟩

/-- A document whose name and path are made from the id of its file. -/
def plainDocument (fileId : String) : Document :=
  namedDocument fileId (fileId ++ ".txt") ("docs/" ++ fileId ++ ".txt")

/-- The hits of a query. -/
def hitsOf (s : Script) (q : NamedQuery) : List Address := (last? q.id s.hits).getD []

/-- Counts the hits of a query; a breakdown comes before a failure. -/
def count (s : Script) (q : NamedQuery) : Reply Nat :=
  if q.id ∈ s.countBreakdowns then .breakdown
  else if q.id ∈ s.countFailures then
    .failure ("Count failed for query " ++ toString q.id ++ ".")
  else .answer (s.hitsOf q).length

/-- The hits of a query, no more than asked for unless all are returned. -/
def search (s : Script) (q : NamedQuery) (limit : Nat) : Reply (List Address) :=
  if q.id ∈ s.searchFailures then .failure ("Search failed for query " ++ toString q.id ++ ".")
  else .answer (if s.returnsAll then s.hitsOf q else (s.hitsOf q).take limit)

/-- The document at an address. -/
def document (s : Script) (address : Address) : Reply Document :=
  if address ∈ s.documentFailures then
    .failure ("Failed to read document " ++ toString address ++ ".")
  else match last? address s.documents with
    | some d => .answer d
    | none => .failure ("Unknown document " ++ toString address ++ ".")

/-- The index that answers as written. -/
def index (s : Script) : SearchIndex where
  count := s.count
  countTime := fun q => (last? q.id s.delays).getD 0
  search := s.search
  document := s.document

end Script

end Tagging
