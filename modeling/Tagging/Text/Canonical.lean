import Tagging.Text.Composite

/-!
# Canonical form

Texts that look the same can be written with composite characters or with letters and marks.  The
canonical form takes everything apart, brings marks into order, and puts composites together.

* `decompose` — a character taken apart;
* `orderMarks` — marks in the order of their classes;
* `composePair?`, `compose` — composites put together;
* `canonical` — the canonical form.
-/

namespace Tagging.Text

/-! ## Syllables of the Korean script -/

/-- The first syllable. -/
def syllableBase : Nat := 0xAC00

/-- The first leading consonant. -/
def leadBase : Nat := 0x1100

/-- The first vowel. -/
def vowelBase : Nat := 0x1161

/-- One before the first trailing consonant. -/
def trailBase : Nat := 0x11A7

/-- The number of leading consonants. -/
def leadCount : Nat := 19

/-- The number of vowels. -/
def vowelCount : Nat := 21

/-- The number of trailing consonants, and one for none. -/
def trailCount : Nat := 28

/-- The parts of the syllable with this number. -/
def syllableParts (i : Nat) : List Nat :=
  let lead := leadBase + i / (vowelCount * trailCount)
  let vowel := vowelBase + i % (vowelCount * trailCount) / trailCount
  if i % trailCount = 0 then [lead, vowel] else [lead, vowel, trailBase + i % trailCount]

/-- The syllable of a leading consonant and a vowel, or of a syllable and a trailing consonant. -/
def joinSyllable? (a b : Nat) : Option Nat :=
  if leadBase ≤ a && a < leadBase + leadCount && vowelBase ≤ b && b < vowelBase + vowelCount then
    some (syllableBase + ((a - leadBase) * vowelCount + (b - vowelBase)) * trailCount)
  else if syllableBase ≤ a && a < syllableBase + leadCount * vowelCount * trailCount &&
      (a - syllableBase) % trailCount = 0 && trailBase < b && b < trailBase + trailCount then
    some (a + (b - trailBase))
  else none

/-! ## Taking apart -/

/-- The sequence that a table gives for a code point. -/
def sequenceIn? (table : List (List Nat)) (n : Nat) : Option (List Nat) :=
  (table.find? (fun entry => entry.head? = some n)).map List.tail

/-- The sequence that stands for the same as a code point. -/
def sequenceOf (n : Nat) : List Nat :=
  if syllableBase ≤ n && n < syllableBase + leadCount * vowelCount * trailCount then
    syllableParts (n - syllableBase)
  else
    match sequenceIn? composites n with
    | some parts => parts
    | none => (sequenceIn? replaced n).getD [n]

/-- A character taken apart. -/
def decompose (c : Char) : List Char :=
  if c.toNat < 0x80 then [c] else (sequenceOf c.toNat).map Char.ofNat

/-! ## The order of marks -/

/-- Puts a character behind others, latest first, but a mark before the marks of greater class. -/
def insertMark (c : Char) : List Char → List Char
  | [] => [c]
  | d :: rest =>
    if 0 < combiningClass c && combiningClass c < combiningClass d then d :: insertMark c rest
    else c :: d :: rest

/-- The characters with marks in the order of their classes. -/
def orderMarks (cs : List Char) : List Char :=
  (cs.foldl (fun done c => insertMark c done) []).reverse

/-! ## Putting together -/

/-- The composite of two characters. -/
def composePair? (a b : Char) : Option Char :=
  match joinSyllable? a.toNat b.toNat with
  | some n => some (Char.ofNat n)
  | none =>
    let parts := sequenceOf a.toNat ++ [b.toNat]
    ((composites.find? (fun entry => entry.tail = parts)).bind List.head?).map Char.ofNat

/-- Puts together a character that is no mark with the characters behind it.  `kept` holds the
marks that stay, latest first; a mark of the same class or a greater one keeps others away. -/
def composeFrom (first : Char) (kept : List Char) : List Char → List Char
  | [] => first :: kept.reverse
  | d :: rest =>
    let apart := match kept with
      | [] => false
      | k :: _ => combiningClass d ≤ combiningClass k
    match if apart then none else composePair? first d with
    | some c => composeFrom c kept rest
    | none =>
      if combiningClass d = 0 then first :: kept.reverse ++ composeFrom d [] rest
      else composeFrom first (d :: kept) rest

/-- Puts together what belongs together. -/
def compose : List Char → List Char
  | [] => []
  | c :: rest => if combiningClass c = 0 then composeFrom c [] rest else c :: compose rest

/-- The canonical form. -/
def canonical (cs : List Char) : List Char := compose (orderMarks (cs.flatMap decompose))

end Tagging.Text
