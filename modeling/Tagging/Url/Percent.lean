/-!
# Percent-encoding

Bytes written as `%` and two digits.  Which characters are written so depends on the part of a URL;
characters beyond ASCII always are, byte by byte.

* `percentByte`, `percentEncode` — writing;
* `percentDecode` — reading bytes back;
* `formEncode` — the values of a form;
* `queryPairs`, `formDecode` — reading the pairs of a form back.
-/

namespace Tagging.Url

/-- A digit in base sixteen, in upper case. -/
def hexUpper (n : Nat) : Char := Char.ofNat (if n < 10 then 48 + n else 55 + n)

/-- One byte as three characters. -/
def percentByte (b : UInt8) : List Char :=
  ['%', hexUpper (b.toNat / 16), hexUpper (b.toNat % 16)]

/-- The bytes of a character, each as three characters. -/
def percentChar (c : Char) : List Char := (String.utf8EncodeChar c).flatMap percentByte

/-- Characters with those of a set, controls and all beyond ASCII encoded. -/
def percentEncode (set : Char → Bool) (cs : List Char) : List Char :=
  cs.flatMap (fun c =>
    if c.toNat < 0x20 || 0x7E < c.toNat || set c then percentChar c else [c])

/-! ## Sets -/

/-- Nothing but controls is encoded. -/
def controlSet (_ : Char) : Bool := false

/-- What a fragment cannot hold. -/
def fragmentSet (c : Char) : Bool := c = ' ' || c = '"' || c = '<' || c = '>' || c = '`'

/-- What a path cannot hold. -/
def pathSet (c : Char) : Bool :=
  fragmentSet c || c = '#' || c = '?' || c = '\x7b' || c = '\x7d'

/-- What the name and password before a host cannot hold. -/
def userinfoSet (c : Char) : Bool :=
  pathSet c || c = '/' || c = ':' || c = ';' || c = '=' || c = '@' || c = '[' || c = '\\' ||
    c = ']' || c = '^' || c = '|'

/-- What a query cannot hold. -/
def querySet (c : Char) : Bool := c = ' ' || c = '"' || c = '#' || c = '<' || c = '>'

/-- What the query of a well-known scheme cannot hold. -/
def specialQuerySet (c : Char) : Bool := querySet c || c = '\''

/-! ## Reading back -/

/-- The value of a digit in base sixteen. -/
def hexValue? (c : Char) : Option Nat :=
  if '0' ≤ c && c ≤ '9' then some (c.toNat - 48)
  else if 'a' ≤ c && c ≤ 'f' then some (c.toNat - 87)
  else if 'A' ≤ c && c ≤ 'F' then some (c.toNat - 55)
  else none

/-- The byte of a percent sign and the two characters behind it, if these are digits. -/
def escapedByte? (c : Char) (rest : List Char) : Option UInt8 :=
  match c, rest with
  | '%', a :: b :: _ =>
    match hexValue? a, hexValue? b with
    | some a, some b => some (UInt8.ofNat (a * 16 + b))
    | _, _ => none
  | _, _ => none

/-- The bytes that characters stand for; a percent sign without two digits stands for itself. -/
def percentDecode : List Char → List UInt8
  | [] => []
  | c :: rest =>
    match escapedByte? c rest with
    | some byte => byte :: percentDecode (rest.drop 2)
    | none => String.utf8EncodeChar c ++ percentDecode rest
  termination_by cs => cs.length
  decreasing_by all_goals simp [List.length_drop]; try omega

/-! ## Forms -/

/-- Characters that stand for themselves in the values of a form. -/
def isFormSafe (c : Char) : Bool :=
  ('a' ≤ c && c ≤ 'z') || ('A' ≤ c && c ≤ 'Z') || ('0' ≤ c && c ≤ '9') ||
    c = '*' || c = '-' || c = '.' || c = '_'

/-- One character of a form: a blank is a plus sign. -/
def formChar (c : Char) : List Char :=
  if c = ' ' then ['+'] else if isFormSafe c then [c] else percentChar c

/-- A value of a form. -/
def formEncode (s : String) : List Char := s.toList.flatMap formChar

/-- The text that a value of a form stands for, if its bytes are a text. -/
def formDecode (cs : List Char) : Option String :=
  String.fromUTF8? (ByteArray.mk
    (percentDecode (cs.map (fun c => if c = '+' then ' ' else c))).toArray)

/-- Cuts at every occurrence of a character. -/
def cutAtChar (sep : Char) : List Char → List (List Char)
  | [] => [[]]
  | c :: rest =>
    if c = sep then [] :: cutAtChar sep rest
    else match cutAtChar sep rest with
      | [] => [[c]]
      | piece :: more => (c :: piece) :: more

/-- The name and the value of a pair, cut at the first equals sign. -/
def cutPair (cs : List Char) : List Char × List Char :=
  (cs.takeWhile (fun c => c ≠ '='), (cs.dropWhile (fun c => c ≠ '=')).drop 1)

/-- The pairs of a query as they are written. -/
def queryPairs (query : List Char) : List (List Char × List Char) :=
  ((cutAtChar '&' query).filter (fun p => !p.isEmpty)).map cutPair

end Tagging.Url
