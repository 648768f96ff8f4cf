import Tagging.Text.Table

/-!
# Blank characters

White space in the sense of Unicode, and what is done with it: trimming, testing for blankness and
cutting a text into the pieces between blanks.

* `isBlank` — the class;
* `trim`, `isBlankText` — the text without its outer blanks, and whether nothing else is left;
* `pieces` — the maximal stretches without a blank, in order;
* `asciiLower` — lower case for the letters A to Z alone, used for keywords of settings.
-/

namespace Tagging.Text

/-- Code points with the property White_Space. -/
def blankRanges : List (Nat × Nat) := [
  (0x9, 0xD), (0x20, 0x20), (0x85, 0x85), (0xA0, 0xA0), (0x1680, 0x1680), (0x2000, 0x200A),
  (0x2028, 0x2029), (0x202F, 0x202F), (0x205F, 0x205F), (0x3000, 0x3000)]

/-- Is the character white space? -/
def isBlank (c : Char) : Bool := inRanges c.toNat blankRanges

/-- The characters without leading blanks. -/
def trimStart (cs : List Char) : List Char := cs.dropWhile isBlank

/-- The characters without trailing blanks. -/
def trimEnd (cs : List Char) : List Char := (trimStart cs.reverse).reverse

/-- The text without leading and trailing blanks. -/
def trim (s : String) : String := String.ofList (trimEnd (trimStart s.toList))

/-- Does the text hold nothing but blanks? -/
def isBlankText (s : String) : Bool := s.toList.all isBlank

/-- Cuts at every character that satisfies `sep`; the pieces may be empty. -/
def cutAt (sep : Char → Bool) : List Char → List (List Char)
  | [] => [[]]
  | c :: rest =>
    if sep c then [] :: cutAt sep rest
    else match cutAt sep rest with
      | [] => [[c]]
      | piece :: more => (c :: piece) :: more

/-- The maximal stretches without a blank. -/
def pieces (s : String) : List String :=
  ((cutAt isBlank s.toList).filter (fun p => !p.isEmpty)).map String.ofList

/-- Lower case for A to Z; every other character stays. -/
def asciiLower (s : String) : String := String.ofList (s.toList.map Char.toLower)

/-- A keyword as settings may write it: outer blanks and ASCII case do not matter. -/
def keyword (s : String) : String := asciiLower (trim s)

end Tagging.Text
