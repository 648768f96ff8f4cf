/-!
# Punycode

A label with characters beyond ASCII, written in ASCII: first its ASCII characters, then, behind a
hyphen, for each other character how far it is from the one before, in a number system whose digits
adapt to what was written.

* `encodeLabel`, `decodeLabel?` — writing and reading;
* `threshold`, `adapt` — the number system.
-/

namespace Tagging.Url

/-! ## The number system -/

/-- The number of digits. -/
def punyBase : Nat := 36

/-- The bias in the beginning. -/
def firstBias : Nat := 72

/-- The first code point beyond ASCII. -/
def firstCode : Nat := 0x80

/-- The digit that ends a number at a position has to be less than this. -/
def threshold (position bias : Nat) : Nat :=
  if position ≤ bias then 1 else if bias + 26 ≤ position then 26 else position - bias

/-- Divides until little is left, and counts positions on the way. -/
def shrink (delta position : Nat) : Nat × Nat :=
  if 455 < delta then shrink (delta / 35) (position + punyBase) else (delta, position)
termination_by delta
decreasing_by exact Nat.div_lt_self (by omega) (by omega)

/-- The bias after a number, when so many characters are written. -/
def adapt (delta count : Nat) (isFirst : Bool) : Nat :=
  let halved := if isFirst then delta / 700 else delta / 2
  let (rest, position) := shrink (halved + halved / count) 0
  position + punyBase * rest / (rest + 38)

/-- The character of a digit. -/
def punyDigit (d : Nat) : Char :=
  if d < 26 then Char.ofNat ('a'.toNat + d) else Char.ofNat ('0'.toNat + (d - 26))

/-- The value of a digit. -/
def punyValue? (c : Char) : Option Nat :=
  if c.isLower then some (c.toNat - 'a'.toNat)
  else if c.isUpper then some (c.toNat - 'A'.toNat)
  else if c.isDigit then some (c.toNat - '0'.toNat + 26)
  else none

/-! ## Writing -/

theorem threshold_pos (position bias : Nat) : 1 ≤ threshold position bias := by
  unfold threshold
  split
  · omega
  · split <;> omega

/-- A number in digits, from a position on. -/
def writeNumber (bias position n : Nat) : List Char :=
  let t := threshold position bias
  if n < t then [punyDigit n]
  else punyDigit (t + (n - t) % (punyBase - t)) ::
    writeNumber bias (position + punyBase) ((n - t) / (punyBase - t))
termination_by n
decreasing_by
  have := threshold_pos position bias
  exact Nat.lt_of_le_of_lt (Nat.div_le_self _ _) (by omega)

/-- What is written, and how far the next character is away. -/
structure PunyWriter where
  /-- What is written. -/
  out : List Char
  /-- How far the next character is away. -/
  delta : Nat
  /-- The bias. -/
  bias : Nat
  /-- How many characters are written. -/
  count : Nat

/-- Passes over a character of the label while the code point `code` is written. -/
def PunyWriter.pass (basics code : Nat) (w : PunyWriter) (c : Char) : PunyWriter :=
  if c.toNat < code then { w with delta := w.delta + 1 }
  else if c.toNat = code then
    { out := w.out ++ writeNumber w.bias punyBase w.delta
      delta := 0
      bias := adapt w.delta (w.count + 1) (w.count = basics)
      count := w.count + 1 }
  else w

/-- Writes all places of code points in ascending order, none of which is below `next`. -/
def writeCodes (label : List Char) (basics next : Nat) (w : PunyWriter) : List Nat → PunyWriter
  | [] => w
  | code :: rest =>
    let far := { w with delta := w.delta + (code - next) * (w.count + 1) }
    let w' := label.foldl (PunyWriter.pass basics code) far
    writeCodes label basics (code + 1) { w' with delta := w'.delta + 1 } rest

/-- Numbers in ascending order with one added, unless it is there. -/
def insertCode (n : Nat) : List Nat → List Nat
  | [] => [n]
  | m :: rest => if n < m then n :: m :: rest else if n = m then m :: rest else m :: insertCode n rest

/-- A label in ASCII. -/
def encodeLabel (label : List Char) : List Char :=
  let basic := label.filter (fun c => c.toNat < firstCode)
  let codes := (label.filter (fun c => firstCode ≤ c.toNat)).foldr (fun c => insertCode c.toNat) []
  (if basic.isEmpty then [] else basic ++ ['-']) ++
    (writeCodes label basic.length firstCode ⟨[], 0, firstBias, basic.length⟩ codes).out

/-! ## Reading -/

/-- What is read of a label, and the number under way. -/
structure PunyReader where
  /-- The characters so far. -/
  label : List Char
  /-- The code point of the latest character. -/
  code : Nat
  /-- The bias. -/
  bias : Nat
  /-- Where the number under way began. -/
  start : Nat
  /-- The number under way. -/
  number : Nat
  /-- What the next digit counts. -/
  weight : Nat
  /-- The position of the next digit, the first one between two numbers. -/
  position : Nat

/-- Reads a digit, with the character that it completes. -/
def PunyReader.step (r : PunyReader) (c : Char) : Option PunyReader :=
  match punyValue? c with
  | none => none
  | some d =>
    let number := r.number + d * r.weight
    let t := threshold r.position r.bias
    if t ≤ d then
      some { r with
        number := number, weight := r.weight * (punyBase - t), position := r.position + punyBase }
    else
      let count := r.label.length + 1
      let code := r.code + number / count
      if code.isValidChar then
        let place := number % count
        some
          { label := r.label.take place ++ Char.ofNat code :: r.label.drop place
            code := code
            bias := adapt (number - r.start) count (r.start = 0)
            start := place + 1
            number := place + 1
            weight := 1
            position := punyBase }
      else none

/-- Reads digits up to the first that is none. -/
def readDigits (r : PunyReader) : List Char → Option PunyReader
  | [] => some r
  | c :: rest => (r.step c).bind (fun r => readDigits r rest)

/-- Cuts at the last hyphen that is not in front; without one everything is digits. -/
def cutBasic (cs : List Char) : List Char × List Char :=
  match cs.reverse.dropWhile (· ≠ '-') with
  | _ :: front@(_ :: _) => (front.reverse, cs.drop (front.length + 1))
  | _ => ([], cs)

/-- The label that is written in ASCII. -/
def decodeLabel? (cs : List Char) : Option (List Char) :=
  let (basic, digits) := cutBasic cs
  match readDigits ⟨basic, firstCode, firstBias, 0, 0, 1, punyBase⟩ digits with
  | some r => if r.position = punyBase then some r.label else none
  | none => none

end Tagging.Url
