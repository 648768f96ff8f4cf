import Tagging.Json

/-!
# Single values of a settings file

Values, and how strings in their four forms, numbers, dates and times are read.  Numbers with a
fraction and dates are accepted by the format but used by no setting, so which one was written is
not kept.  A reader takes its part from the front of the characters and returns it with the rest.

* `TableForm`, `TomlValue` — how a table came to be, which decides how it may grow; and values;
* `readLineEnd` — the end of a line;
* `readText` — strings; `\x7f` and the other controls may not stand in them;
* `integerOf?`, `isFloatText`, `isDateTimeText` — what a bare word stands for;
* `isTooGreat` — numbers that no setting can hold;
* `readScalar` — a string or a bare word.
-/

namespace Tagging

/-! ## Values -/

/-- How a table was begun. -/
inductive TableForm where
  /-- By a header of its own, or it is the whole file. -/
  | header
  /-- By the header of a table inside it. -/
  | implied
  /-- By a key with dots. -/
  | dotted
  /-- Between braces; it cannot grow. -/
  | closed
  deriving DecidableEq, Repr, Inhabited

/-- A value of a settings file. -/
inductive TomlValue where
  /-- A text. -/
  | string (text : String)
  /-- A whole number. -/
  | integer (n : Int)
  /-- Any other number. -/
  | float
  /-- True or false. -/
  | boolean (b : Bool)
  /-- A date, a time or both. -/
  | dateTime
  /-- Values in order; `headed` if each is a table with a header of its own. -/
  | array (headed : Bool) (items : List TomlValue)
  /-- Values by key, in order. -/
  | table (form : TableForm) (entries : List (String × TomlValue))
  deriving Repr, Inhabited

namespace TomlValue

open JsonValue (hexDigit? isDigit)

/-! ## Characters -/

/-- Blanks inside a line. -/
def isSpace (c : Char) : Bool := c = ' ' || c = '\t'

/-- Skips blanks inside a line. -/
def skipSpace (cs : List Char) : List Char := cs.dropWhile isSpace

/-- Takes a line end. -/
def readLineEnd : List Char → Option (List Char)
  | '\n' :: rest => some rest
  | '\r' :: '\n' :: rest => some rest
  | _ => none

/-- Controls, which may not be written as themselves; the tab is none. -/
def isControl (c : Char) : Bool := (c.toNat < 0x20 && c ≠ '\t') || c.toNat = 0x7F

/-- Skips a comment up to the end of its line. -/
def readComment : List Char → Option (List Char)
  | '#' :: rest =>
    let tail := rest.dropWhile (fun c => !isControl c)
    if tail.isEmpty || (readLineEnd tail).isSome then some tail else none
  | cs => some cs

/-! ## Strings -/

/-- The number that several digits in base sixteen stand for. -/
def hexNumber? (digits : List Char) : Option Nat :=
  digits.foldl (fun n c => match n, hexDigit? c with
    | some n, some d => some (n * 16 + d)
    | _, _ => none) (some 0)

/-- The character of a number, if it has one. -/
def scalar? (n : Nat) : Option Char :=
  if n < 0xD800 || (0xDFFF < n && n < 0x110000) then some (Char.ofNat n) else none

/-- Reads a character given by so many digits in base sixteen. -/
def readCode (count : Nat) (cs : List Char) : Option (Char × List Char) :=
  if cs.length < count then none
  else match (hexNumber? (cs.take count)).bind scalar? with
    | some c => some (c, cs.drop count)
    | none => none

/-- Reads what follows a backslash. -/
def readEscape : List Char → Option (Char × List Char)
  | 'b' :: rest => some ('\x08', rest)
  | 't' :: rest => some ('\t', rest)
  | 'n' :: rest => some ('\n', rest)
  | 'f' :: rest => some ('\x0c', rest)
  | 'r' :: rest => some ('\r', rest)
  | 'e' :: rest => some ('\x1b', rest)
  | '"' :: rest => some ('"', rest)
  | '\\' :: rest => some ('\\', rest)
  | 'x' :: rest => readCode 2 rest
  | 'u' :: rest => readCode 4 rest
  | 'U' :: rest => readCode 8 rest
  | _ => none

/-- Reads the characters of a string on one line up to `quote`. -/
def readLineText (quote : Char) (limit : Nat) (cs : List Char) : Option (List Char × List Char) :=
  match limit with
  | 0 => none
  | limit + 1 =>
    match cs with
    | [] => none
    | c :: rest =>
      if c = quote then some ([], rest)
      else if c = '\\' && quote = '"' then
        match readEscape rest with
        | some (e, rest) => (readLineText quote limit rest).map (fun (t, r) => (e :: t, r))
        | none => none
      else if isControl c then none
      else (readLineText quote limit rest).map (fun (t, r) => (c :: t, r))

/-- Skips blanks and line ends behind a backslash that ends its line. -/
def skipFold (cs : List Char) : Option (List Char) :=
  match readLineEnd (skipSpace cs) with
  | none => none
  | some rest => some (rest.dropWhile (fun c => isSpace c || c = '\n' || c = '\r'))

/-- Reads the characters of a string over several lines up to three of `quote`; up to two more may
stand before them. -/
def readBlockText (quote : Char) (limit : Nat) (cs : List Char) : Option (List Char × List Char) :=
  match limit with
  | 0 => none
  | limit + 1 =>
    match cs with
    | [] => none
    | c :: rest =>
      if c = quote then
        let run := cs.takeWhile (fun x => x = quote)
        let behind := cs.drop run.length
        if run.length < 3 then
          (readBlockText quote limit behind).map (fun (t, r) => (run ++ t, r))
        else if run.length ≤ 5 then some (run.drop 3, behind)
        else none
      else if c = '\\' && quote = '"' then
        match skipFold rest with
        | some rest => readBlockText quote limit rest
        | none =>
          match readEscape rest with
          | some (e, rest) => (readBlockText quote limit rest).map (fun (t, r) => (e :: t, r))
          | none => none
      else match readLineEnd cs with
        | some behind =>
          (readBlockText quote limit behind).map
            (fun (t, r) => (cs.take (cs.length - behind.length) ++ t, r))
        | none =>
          if isControl c then none
          else (readBlockText quote limit rest).map (fun (t, r) => (c :: t, r))

/-- Reads a string over several lines behind its opening quotes; a line end there is no part of
it. -/
def readBlock (quote : Char) (cs : List Char) : Option (String × List Char) :=
  let cs := (readLineEnd cs).getD cs
  (readBlockText quote (cs.length + 1) cs).map (fun (t, r) => (String.ofList t, r))

/-- Reads a string on one line behind its opening quote. -/
def readLine (quote : Char) (cs : List Char) : Option (String × List Char) :=
  (readLineText quote (cs.length + 1) cs).map (fun (t, r) => (String.ofList t, r))

/-- Reads a string of any form. -/
def readText : List Char → Option (String × List Char)
  | '"' :: '"' :: '"' :: rest => readBlock '"' rest
  | '\'' :: '\'' :: '\'' :: rest => readBlock '\'' rest
  | '"' :: rest => readLine '"' rest
  | '\'' :: rest => readLine '\'' rest
  | _ => none

/-! ## Numbers -/

/-- The digits of a number without the low lines between them; each low line must stand between
two digits. -/
def plainDigits? (ok : Char → Bool) : List Char → Option (List Char)
  | [] => none
  | [c] => if ok c then some [c] else none
  | c :: '_' :: d :: rest =>
    if ok c then (plainDigits? ok (d :: rest)).map (c :: ·) else none
  | c :: rest => if ok c then (plainDigits? ok rest).map (c :: ·) else none

/-- The number that digits stand for in a base up to sixteen. -/
def numberIn (base : Nat) (digits : List Char) : Nat :=
  digits.foldl (fun n c => n * base + (hexDigit? c).getD 0) 0

/-- A number in a base other than ten, behind its mark. -/
def basedNumber? (base : Nat) (cs : List Char) : Option Nat :=
  (plainDigits? (fun c => match hexDigit? c with | some d => d < base | none => false) cs).map
    (numberIn base)

/-- The digits of a whole number in base ten; only a zero begins with one. -/
def wholeDigits? (cs : List Char) : Option (List Char) :=
  match plainDigits? isDigit cs with
  | some ['0'] => some ['0']
  | some ('0' :: _) => none
  | digits => digits

/-- The whole number that a word stands for. -/
def integerOf? : List Char → Option Int
  | '0' :: 'x' :: rest => (basedNumber? 16 rest).map Int.ofNat
  | '0' :: 'o' :: rest => (basedNumber? 8 rest).map Int.ofNat
  | '0' :: 'b' :: rest => (basedNumber? 2 rest).map Int.ofNat
  | '+' :: rest => (wholeDigits? rest).map (fun ds => Int.ofNat (numberIn 10 ds))
  | '-' :: rest => (wholeDigits? rest).map (fun ds => -Int.ofNat (numberIn 10 ds))
  | cs => (wholeDigits? cs).map (fun ds => Int.ofNat (numberIn 10 ds))

/-- A word without its sign. -/
def unsigned : List Char → List Char
  | '+' :: rest => rest
  | '-' :: rest => rest
  | cs => cs

/-- Is the word the power of ten of a number? -/
def isExponentText (cs : List Char) : Bool := (plainDigits? isDigit (unsigned cs)).isSome

/-- Does the word stand for a number that is not whole, or for no finite number? -/
def isFloatText (cs : List Char) : Bool :=
  let body := unsigned cs
  if body = "inf".toList || body = "nan".toList then true
  else
    let isMark := fun c : Char => c = '.' || c = 'e' || c = 'E'
    let whole := body.takeWhile (fun c => !isMark c)
    match (wholeDigits? whole).isSome, body.dropWhile (fun c => !isMark c) with
    | true, '.' :: rest =>
      let isPower := fun c : Char => c = 'e' || c = 'E'
      (plainDigits? isDigit (rest.takeWhile (fun c => !isPower c))).isSome &&
        (match rest.dropWhile (fun c => !isPower c) with
          | [] => true
          | _ :: power => isExponentText power)
    | true, _ :: power => isExponentText power
    | _, _ => false

/-- The least whole number that rounds to no finite double. -/
def firstOverflow : Nat := Nat.pow 2 1024 - Nat.pow 2 970

/-- Does a decimal, given by its digits and the power of ten of the last one, round to no finite
double?  Only decimals with 309 digits before the point have to be compared. -/
def overflows (digits : List Char) (power : Int) : Bool :=
  let digits := digits.dropWhile (fun c => c = '0')
  let places := Int.ofNat digits.length + power
  if digits.isEmpty || places < 309 then false
  else if 309 < places then true
  else if 0 ≤ power then firstOverflow ≤ numberIn 10 digits * Nat.pow 10 power.toNat
  else firstOverflow * Nat.pow 10 (-power).toNat ≤ numberIn 10 digits

/-- Is the number that a word stands for finite, but too great for a double? -/
def isTooGreat (cs : List Char) : Bool :=
  let body := (unsigned cs).filter (fun c => c ≠ '_')
  let rest := body.dropWhile isDigit
  let fraction := match rest with
    | '.' :: digits => digits.takeWhile isDigit
    | _ => []
  let power := match rest.dropWhile (fun c => c ≠ 'e' && c ≠ 'E') with
    | [] => 0
    | _ :: '-' :: digits => -Int.ofNat (numberIn 10 digits)
    | _ :: digits => Int.ofNat (numberIn 10 (unsigned digits))
  overflows (body.takeWhile isDigit ++ fraction) (power - Int.ofNat fraction.length)

/-! ## Dates and times -/

/-- Reads a number of exactly so many digits. -/
def readCount (count : Nat) (cs : List Char) : Option (Nat × List Char) :=
  if (cs.take count).length = count && (cs.take count).all isDigit then
    some (numberIn 10 (cs.take count), cs.drop count)
  else none

/-- The number of days of a month. -/
def daysIn (year month : Nat) : Nat :=
  if month = 2 then
    if year % 4 = 0 && (year % 100 ≠ 0 || year % 400 = 0) then 29 else 28
  else if month = 4 || month = 6 || month = 9 || month = 11 then 30
  else 31

/-- Reads a date. -/
def readDate (cs : List Char) : Option (List Char) :=
  match readCount 4 cs with
  | some (year, '-' :: rest) =>
    match readCount 2 rest with
    | some (month, '-' :: rest) =>
      match readCount 2 rest with
      | some (day, rest) =>
        if 1 ≤ month && month ≤ 12 && 1 ≤ day && day ≤ daysIn year month then some rest else none
      | none => none
    | _ => none
  | _ => none

/-- Reads the seconds of a time, if it has any. -/
def readSeconds : List Char → Option (List Char)
  | ':' :: rest =>
    match readCount 2 rest with
    | some (second, '.' :: rest) =>
      if second ≤ 60 then JsonValue.readDigits rest else none
    | some (second, rest) => if second ≤ 60 then some rest else none
    | none => none
  | cs => some cs

/-- Reads hours and minutes. -/
def readClock (cs : List Char) : Option (List Char) :=
  match readCount 2 cs with
  | some (hour, ':' :: rest) =>
    match readCount 2 rest with
    | some (minute, rest) => if hour ≤ 23 && minute ≤ 59 then some rest else none
    | none => none
  | _ => none

/-- Reads a time of day. -/
def readTime (cs : List Char) : Option (List Char) := (readClock cs).bind readSeconds

/-- Is the rest of a date and time nothing, or a distance from universal time? -/
def isOffsetText : List Char → Bool
  | [] => true
  | ['Z'] => true
  | ['z'] => true
  | '+' :: rest => readClock rest = some []
  | '-' :: rest => readClock rest = some []
  | _ => false

/-- Does the word stand for a date, a time or both? -/
def isDateTimeText (cs : List Char) : Bool :=
  match readDate cs with
  | some [] => true
  | some (c :: rest) =>
    if c = 'T' || c = 't' || c = ' ' then
      match readTime rest with
      | some rest => isOffsetText rest
      | none => false
    else false
  | none => readTime cs = some []

/-! ## Bare words -/

/-- Does the character end a bare word? -/
def endsWord (c : Char) : Bool :=
  isSpace c || c = '\n' || c = '\r' || c = ',' || c = ']' || c = '\x7d' || c = '#' || c = '='

/-- Reads a bare word; a date may be followed by a blank and a time. -/
def readWord (cs : List Char) : List Char × List Char :=
  let word := cs.takeWhile (fun c => !endsWord c)
  let rest := cs.dropWhile (fun c => !endsWord c)
  match readDate word, rest with
  | some [], ' ' :: d :: more =>
    if isDigit d then
      (word ++ ' ' :: (d :: more).takeWhile (fun c => !endsWord c),
        (d :: more).dropWhile (fun c => !endsWord c))
    else (word, rest)
  | _, _ => (word, rest)

/-- The range of whole numbers that a settings file can hold. -/
def inRange (n : Int) : Bool := -(Int.pow 2 127) ≤ n && n < Int.pow 2 128

/-- The value of a bare word. -/
def ofWord? (word : List Char) : Option TomlValue :=
  if word = "true".toList then some (.boolean true)
  else if word = "false".toList then some (.boolean false)
  else match integerOf? word with
    | some n => if inRange n then some (.integer n) else none
    | none =>
      if isFloatText word then if isTooGreat word then none else some .float
      else if isDateTimeText word then some .dateTime
      else none

/-- Reads a string or a bare word. -/
def readScalar (cs : List Char) : Option (TomlValue × List Char) :=
  match cs with
  | '"' :: _ => (readText cs).map (fun (t, r) => (.string t, r))
  | '\'' :: _ => (readText cs).map (fun (t, r) => (.string t, r))
  | _ =>
    let (word, rest) := readWord cs
    (ofWord? word).map (fun v => (v, rest))

end TomlValue

end Tagging
