import Tagging.Text.Canonical
import Tagging.Url.Basic
import Tagging.Url.Domain.Direction
import Tagging.Url.Domain.Fold
import Tagging.Url.Domain.Joining
import Tagging.Url.Punycode

/-!
# Domain names

The ASCII form of a domain name, given by its bytes.  Characters are folded, so that names that
look the same are the same; what is left beyond ASCII is written in ASCII, label by label.

* `isForbiddenInDomain` — the ASCII characters that no domain can hold;
* `foldName?` — the name in the form in which names are compared;
* `readLabel?`, `writeLabel?` — a label as it is meant, and in ASCII;
* `domainToAscii` — the ASCII form.
-/

namespace Tagging.Url

/-- ASCII characters that no domain can hold. -/
def isForbiddenInDomain (c : Char) : Bool :=
  c.toNat ≤ 0x20 || c.toNat = 0x7F || c = '%' || c = '#' || c = '/' || c = ':' || c = '<' ||
    c = '>' || c = '?' || c = '@' || c = '[' || c = '\\' || c = ']' || c = '^' || c = '|'

/-- Is the character one of ASCII? -/
def isAscii (c : Char) : Bool := c.toNat < 0x80

/-! ## Folding -/

/-- What becomes of all characters, unless one of them is refused. -/
def foldChars? : List Char → Option (List Char)
  | [] => some []
  | c :: rest =>
    match fold? c, foldChars? rest with
    | some cs, some more => some (cs ++ more)
    | _, _ => none

/-- The name in the form in which names are compared. -/
def foldName? (cs : List Char) : Option (List Char) := (foldChars? cs).map Text.canonical

/-! ## Labels -/

/-- What the labels begin with that are written in ASCII but mean other characters. -/
def asciiMarker : List Char := ['x', 'n', '-', '-']

/-- Is the label written in ASCII for other characters? -/
def isMarked (label : List Char) : Bool := asciiMarker.isPrefixOf label

/-- The longest label that is written in ASCII. -/
def maxLabelLength : Nat := 1000

/-- The longest label that is read from ASCII. -/
def maxMarkedLength : Nat := 2000

/-- Does the label begin with no mark, and are its joiners allowed? -/
def labelFits (label : List Char) : Bool :=
  (match label with
    | c :: _ => !isMark c
    | [] => true) && joinersFit [] label

/-- The label as it is meant.  A label that is written in ASCII for other characters has to hold
some, in the form in which names are compared. -/
def readLabel? (label : List Char) : Option (List Char) :=
  if isMarked label then
    let digits := label.drop asciiMarker.length
    if !label.all isAscii || maxMarkedLength < digits.length then none
    else match decodeLabel? digits with
      | none => none
      | some meant =>
        if !meant.all isAscii && foldName? meant = some meant && labelFits meant then some meant
        else none
  else if labelFits label then some label
  else none

/-- The label in ASCII. -/
def writeLabel? (label : List Char) : Option (List Char) :=
  if label.all isAscii then some label
  else if maxLabelLength < label.length then none
  else some (asciiMarker ++ encodeLabel label)

/-! ## Names -/

/-- The values of all items, unless one has none. -/
def mapAll? {α β : Type} (f : α → Option β) : List α → Option (List β)
  | [] => some []
  | x :: rest =>
    match f x, mapAll? f rest with
    | some y, some ys => some (y :: ys)
    | _, _ => none

/-- The labels with points between them. -/
def joinLabels : List (List Char) → List Char
  | [] => []
  | [label] => label
  | label :: rest => label ++ '.' :: joinLabels rest

/-- The ASCII form of a name whose characters or labels reach beyond ASCII. -/
def foldedToAscii (cs : List Char) : Option (List Char) :=
  match foldName? cs with
  | none => none
  | some folded =>
    match mapAll? readLabel? (cutAtChar '.' folded) with
    | none => none
    | some labels =>
      if labels.any readsRightToLeft && !labels.all keepsDirection then none
      else (mapAll? writeLabel? labels).map joinLabels

/-- Does the name need more than lower case? -/
def reachesBeyondAscii (cs : List Char) : Bool :=
  !cs.all isAscii || (cutAtChar '.' cs).any isMarked

/-- The ASCII form of a domain name. -/
def domainToAscii (bytes : List UInt8) : Option (List Char) :=
  match String.fromUTF8? (ByteArray.mk bytes.toArray) with
  | none => none
  | some s =>
    let cs := s.toList.map Char.toLower
    match if reachesBeyondAscii cs then foldedToAscii cs else some cs with
    | none => none
    | some name => if name.any isForbiddenInDomain then none else some name

end Tagging.Url
