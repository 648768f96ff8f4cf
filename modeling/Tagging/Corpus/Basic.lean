import Tagging.Corpus.Terms
import Tagging.Index
import Tagging.Number.Double
import Tagging.Text.Quoted

/-!
# Corpora

An index over a list of documents.  A document matches when its name and its fields together hold
every required word and no excluded one; matches are ranked by how often the required words occur,
and those of equal score by address.

* `IndexedDocument`, `Corpus`, `Corpus.ofDocuments` — documents with their words;
* `IndexedDocument.score?` — whether and how well a document matches;
* `Corpus.count`, `Corpus.search`, `Corpus.document` — counting, ranking, reading;
* `Corpus.index` — the corpus as an index.
-/

namespace Tagging

/-- A document and its words. -/
structure IndexedDocument where
  /-- The document. -/
  document : Document
  /-- The words of its name and its fields, with repetitions. -/
  words : List String
  deriving Repr, Inhabited

/-- Documents in order; the address of a document is its position. -/
structure Corpus where
  /-- The documents. -/
  entries : List IndexedDocument
  deriving Repr, Inhabited

/-- Why a corpus has no answer. -/
inductive CorpusError where
  /-- The query text has no required word. -/
  | noPositiveTerms (text : String)
  /-- There is no document at the address. -/
  | unknownAddress (address : Address)
  deriving Repr, DecidableEq, Inhabited

/-- The failure as it is shown. -/
def CorpusError.message : CorpusError → String
  | noPositiveTerms text =>
    "Invalid query: Query " ++ Text.quoted text ++ " has no positive terms."
  | unknownAddress address => "Unknown document address " ++ toString address ++ "."

namespace IndexedDocument

/-- A document with the words of its name and fields. -/
def ofDocument (d : Document) : IndexedDocument :=
  ⟨d, Text.tokens d.displayName ++ d.fields.flatMap (fun f => Text.tokens f.2)⟩

/-- How often a word occurs, without a bound.  A counter of 32 bits, as it would be kept, agrees
with this in every document of fewer than 2^32 words. -/
def occurrences (d : IndexedDocument) (term : String) : Nat := d.words.count term

/-- The greatest score. -/
def maxScore : Nat := Nat.pow 2 32 - 1

/-- How often the words occur together, up to the greatest score; nothing if one does not occur. -/
def total? (d : IndexedDocument) (sum : Nat) : List String → Option Nat
  | [] => some sum
  | term :: rest =>
    if d.occurrences term = 0 then none
    else d.total? (min (sum + d.occurrences term) maxScore) rest

/-- The score of a document that matches. -/
def score? (d : IndexedDocument) (terms : SearchTerms) : Option Nat :=
  if terms.excluded.any (fun term => d.occurrences term ≠ 0) then none
  else d.total? 0 terms.required

end IndexedDocument

/-- Does the hit `a` come before or with `b`: a greater score first, then the lesser address? -/
def hitLe (a b : Address × Nat) : Bool :=
  if b.2 < a.2 then true else if a.2 = b.2 then a.1 ≤ b.1 else false

namespace Corpus

/-- The corpus of a list of documents. -/
def ofDocuments (documents : List Document) : Corpus :=
  ⟨documents.map IndexedDocument.ofDocument⟩

/-- How many documents there are. -/
def size (c : Corpus) : Nat := c.entries.length

/-- Every match with its score, by address. -/
def matchesFrom (terms : SearchTerms) (address : Address) :
    List IndexedDocument → List (Address × Nat)
  | [] => []
  | d :: rest =>
    match d.score? terms with
    | some score => (address, score) :: matchesFrom terms (address + 1) rest
    | none => matchesFrom terms (address + 1) rest

/-- How many documents match a query text. -/
def count (c : Corpus) (text : String) : Except CorpusError Nat :=
  match SearchTerms.ofText? text with
  | none => .error (.noPositiveTerms text)
  | some terms => .ok (c.entries.countP (fun d => (d.score? terms).isSome))

/-- The best matches of a query text with their scores, at most `limit`.  Scores are reported in
single precision. -/
def search (c : Corpus) (text : String) (limit : Nat) : Except CorpusError (List (Address × Nat)) :=
  match SearchTerms.ofText? text with
  | none => .error (.noPositiveTerms text)
  | some terms =>
    .ok ((((matchesFrom terms 0 c.entries).mergeSort hitLe).take limit).map
      (fun (address, score) => (address, Number.roundToSingle score)))

/-- The document at an address. -/
def document (c : Corpus) (address : Address) : Except CorpusError Document :=
  match c.entries[address]? with
  | some d => .ok d.document
  | none => .error (.unknownAddress address)

/-- A result of the corpus as a reply of an index. -/
def reply {α : Type} : Except CorpusError α → Reply α
  | .ok value => .answer value
  | .error e => .failure e.message

/-- The corpus as an index. -/
def index (c : Corpus) : SearchIndex where
  count := fun q => reply (c.count q.text)
  countTime := fun _ => 0
  search := fun q limit => reply ((c.search q.text limit).map (fun hits => hits.map Prod.fst))
  document := fun address => reply (c.document address)

end Corpus

end Tagging
