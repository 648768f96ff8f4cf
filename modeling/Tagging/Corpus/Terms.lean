import Tagging.Text.Blank
import Tagging.Text.Segment

/-!
# Terms of a query text

A query text is a list of pieces between blanks.  The words of a piece that begins with a minus
sign must not occur in a document, those of every other piece must.

* `SearchTerms`, `SearchTerms.ofText?` — what an index looks for;
* `positiveTerms` — what a highlighter marks.
-/

namespace Tagging

open Text

/-- The words that a document must and must not hold. -/
structure SearchTerms where
  /-- The required words, each once, in order. -/
  required : List String
  /-- The excluded words. -/
  excluded : List String
  deriving Repr, DecidableEq, Inhabited

/-- The rest of a piece behind a minus sign. -/
def afterMinus? (piece : String) : Option String :=
  match piece.toList with
  | '-' :: rest => some (String.ofList rest)
  | _ => none

/-- The elements, each at its first place only. -/
def firstOccurrences : List String → List String
  | [] => []
  | x :: rest => x :: (firstOccurrences rest).filter (fun y => y ≠ x)

namespace SearchTerms

/-- Adds the words of one piece. -/
def addPiece (terms : SearchTerms) (piece : String) : SearchTerms :=
  match afterMinus? piece with
  | some rest => { terms with excluded := terms.excluded ++ tokens rest }
  | none => { terms with required := terms.required ++ tokens piece }

/-- The words of all pieces, in order and with repetitions. -/
def collect (text : String) : SearchTerms := (pieces text).foldl addPiece ⟨[], []⟩

/-- The words that a text asks for, if it asks for any. -/
def ofText? (text : String) : Option SearchTerms :=
  let terms := collect text
  if terms.required.isEmpty then none
  else some { terms with required := firstOccurrences terms.required }

end SearchTerms

/-- Adds a word unless it is there. -/
def addTerm (terms : List String) (t : String) : List String :=
  if t ∈ terms then terms else terms ++ [t]

/-- The required words of a query text, each once, in order; excluded pieces are skipped. -/
def positiveTerms (text : String) : List String :=
  (pieces text).foldl (fun terms piece =>
    match afterMinus? piece with
    | some _ => terms
    | none => (tokens piece).foldl addTerm terms) []

end Tagging
