import Tagging.Text.Alphanumeric
import Tagging.Text.Case
import Tagging.Text.WordBreak

/-!
# Segments and words

A text is cut at its word boundaries by the default rules of Unicode; the segments together are
the text.  The segments that hold a letter or a digit are its words.

* `Before` — what the rules look back at;
* `joins` — the rules: is there no boundary before a character?
* `segments` — the text cut at every boundary;
* `flatten_segmentsAfter` — nothing is lost or added;
* `words` — the segments that hold a letter or digit, `tokens` — those in lower case.
-/

namespace Tagging.Text

open WordBreak

/-- What precedes a place in a text, as far as a boundary there depends on it. -/
structure Before where
  /-- The class of the character just before. -/
  last : WordBreak
  /-- The class of the last character that is no mark, format character or joiner, where a mark
  after a line end or at the start counts as a character of its own. -/
  base : WordBreak
  /-- The class of the base before that one. -/
  earlier : WordBreak
  /-- Is the number of flag halves that end here odd? -/
  oddRegional : Bool
  deriving Repr, Inhabited

/-- Line ends are always segments of their own. -/
def WordBreak.isLineEnd : WordBreak → Bool
  | carriageReturn | lineFeed | newline => true
  | _ => false

/-- Characters that belong to the one before them. -/
def WordBreak.isAttached : WordBreak → Bool
  | extend | joiner => true
  | _ => false

/-- Letters of either kind. -/
def WordBreak.isLetter : WordBreak → Bool
  | letter | hebrewLetter => true
  | _ => false

/-- Marks that stand between letters of one word. -/
def WordBreak.isMidWord : WordBreak → Bool
  | midLetter | midNumLet | singleQuote => true
  | _ => false

/-- Marks that stand between digits of one number. -/
def WordBreak.isMidNumber : WordBreak → Bool
  | midNum | midNumLet | singleQuote => true
  | _ => false

/-- The class of the next character that is not attached to the one before it. -/
def nextBase (cs : List Char) : WordBreak :=
  match cs.dropWhile (fun c => (wordBreak c).isAttached) with
  | [] => other
  | c :: _ => wordBreak c

/-- Is there no boundary before the character `c`, of class `k`, that is followed by `rest`? -/
def joins (st : Before) (c : Char) (k : WordBreak) (rest : List Char) : Bool :=
  if st.last = carriageReturn && k = lineFeed then true
  else if st.last.isLineEnd || k.isLineEnd then false
  else if st.last = joiner && isPictograph c then true
  else if st.last = space && k = space then true
  else if k.isAttached then true
  else if st.base.isLetter && k.isLetter then true
  else if st.base.isLetter && k.isMidWord && (nextBase rest).isLetter then true
  else if st.earlier.isLetter && st.base.isMidWord && k.isLetter then true
  else if st.base = hebrewLetter && k = singleQuote then true
  else if st.base = hebrewLetter && k = doubleQuote && nextBase rest = hebrewLetter then true
  else if st.earlier = hebrewLetter && st.base = doubleQuote && k = hebrewLetter then true
  else if st.base = numeric && (k = numeric || k.isLetter) then true
  else if st.base.isLetter && k = numeric then true
  else if st.earlier = numeric && st.base.isMidNumber && k = numeric then true
  else if st.base = numeric && k.isMidNumber && nextBase rest = numeric then true
  else if st.base = katakana && k = katakana then true
  else if (st.base.isLetter || st.base = numeric || st.base = katakana || st.base = extendNumLet)
      && k = extendNumLet then true
  else if st.base = extendNumLet && (k.isLetter || k = numeric || k = katakana) then true
  else st.oddRegional && k = regional

/-- What precedes the place behind a character of class `k`. -/
def Before.push (st : Before) (k : WordBreak) : Before :=
  if k.isAttached && !st.last.isLineEnd then ⟨k, st.base, st.earlier, st.oddRegional⟩
  else ⟨k, k, st.base, k = regional && !st.oddRegional⟩

/-- Cuts the characters behind `st`; `open_` holds the segment under way, last character first. -/
def segmentsAfter (st : Before) (open_ : List Char) : List Char → List (List Char)
  | [] => [open_.reverse]
  | c :: rest =>
    let k := wordBreak c
    if joins st c k rest then segmentsAfter (st.push k) (c :: open_) rest
    else open_.reverse :: segmentsAfter (st.push k) [c] rest

/-- The segments of a text, in order. -/
def segments (s : String) : List String :=
  match s.toList with
  | [] => []
  | c :: rest =>
    let k := wordBreak c
    (segmentsAfter ⟨k, k, other, k = regional⟩ [c] rest).map String.ofList

/-- The segments together are the characters that were cut. -/
theorem flatten_segmentsAfter (st : Before) (open_ cs : List Char) :
    (segmentsAfter st open_ cs).flatten = open_.reverse ++ cs := by
  induction cs generalizing st open_ with
  | nil => simp [segmentsAfter]
  | cons c rest ih =>
    simp only [segmentsAfter]
    split <;> simp [ih]

/-- Does the segment hold a letter or a digit? -/
def isWord (segment : String) : Bool := segment.toList.any isAlphanumeric

/-- The segments that hold a letter or a digit. -/
def words (s : String) : List String := (segments s).filter isWord

/-- The words in lower case. -/
def tokens (s : String) : List String := (words s).map lower

end Tagging.Text
