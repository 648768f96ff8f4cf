/-!
# Tables of code points

Properties of characters are given as lists of closed ranges, sorted and disjoint, so a search may
stop at the first range that begins behind the code point.  Large tables are written as texts:
entries between blanks, numbers in base sixteen between points.

* `inRanges` — membership;
* `readTable` — the entries of a written table;
* `readRanges` — its ranges, where an entry of one number is a range of its own.
-/

namespace Tagging.Text

/-- Does the code point lie in one of the sorted ranges? -/
def inRanges (n : Nat) : List (Nat × Nat) → Bool
  | [] => false
  | (lo, hi) :: rest => if n < lo then false else if n ≤ hi then true else inRanges n rest

/-- What is read of a table: finished entries and the numbers of the entry under way, both latest
first, and the number under way. -/
structure TableReader where
  /-- The entries. -/
  entries : List (List Nat)
  /-- The numbers of the entry under way. -/
  entry : List Nat
  /-- The number under way. -/
  number : Option Nat

namespace TableReader

/-- Ends the number under way. -/
def endNumber (r : TableReader) : TableReader :=
  match r.number with
  | some n => { r with entry := n :: r.entry, number := none }
  | none => r

/-- Ends the entry under way. -/
def endEntry (r : TableReader) : TableReader :=
  match r.endNumber with
  | ⟨entries, [], number⟩ => ⟨entries, [], number⟩
  | ⟨entries, entry, number⟩ => ⟨entry.reverse :: entries, [], number⟩

/-- The value of a digit in base sixteen. -/
def digitValue (c : Char) : Nat :=
  if c.isDigit then c.toNat - '0'.toNat else c.toNat - 'A'.toNat + 10

/-- Reads one character: a point ends a number, a blank or a line end ends an entry. -/
def step (r : TableReader) (c : Char) : TableReader :=
  if c = '.' then r.endNumber
  else if c = ' ' || c = '\n' then r.endEntry
  else { r with number := some (r.number.getD 0 * 16 + digitValue c) }

end TableReader

/-- The entries of a written table. -/
def readTable (s : String) : List (List Nat) :=
  (s.foldl TableReader.step ⟨[], [], none⟩).endEntry.entries.reverse

/-- The ranges of a written table. -/
def readRanges (s : String) : List (Nat × Nat) :=
  (readTable s).filterMap (fun entry =>
    match entry with
    | [n] => some (n, n)
    | lo :: hi :: _ => some (lo, hi)
    | [] => none)

end Tagging.Text
