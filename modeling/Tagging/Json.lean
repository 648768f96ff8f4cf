/-!
# JSON

The values of one line of a corpus file, and how they are read.  A string may hold half of a
surrogate pair, which no text can hold; such a string has no text, and only matters where a text is
wanted.  A reader takes a value from the front of the characters and returns it with the rest.

* `JsonValue` — values; members keep their order and their repetitions;
* `skipJsonBlank` — the four blanks between tokens;
* `readString`, `readNumber` — the leaves;
* `readValue`, `readItems`, `readMembers` — values, nested as deep as there are characters;
* `JsonValue.ofText?` — the value that a whole text stands for.
-/

namespace Tagging

/-! ## Values -/

/-- A value as it was written. -/
inductive JsonValue where
  /-- The empty value. -/
  | null
  /-- True or false. -/
  | bool (b : Bool)
  /-- A number; which one does not matter here. -/
  | number
  /-- A string, with its text if it has one. -/
  | string (text : Option String)
  /-- Values in order. -/
  | array (items : List JsonValue)
  /-- Values by name, in order. -/
  | object (members : List (Option String × JsonValue))
  deriving Repr, Inhabited

/-! ## Readers -/

namespace JsonValue

/-- Skips blanks between tokens. -/
def skipBlank (cs : List Char) : List Char :=
  cs.dropWhile (fun c => c = ' ' || c = '\t' || c = '\n' || c = '\r')

/-- The value of a digit in base sixteen. -/
def hexDigit? (c : Char) : Option Nat :=
  if '0' ≤ c && c ≤ '9' then some (c.toNat - 48)
  else if 'a' ≤ c && c ≤ 'f' then some (c.toNat - 87)
  else if 'A' ≤ c && c ≤ 'F' then some (c.toNat - 55)
  else none

/-- Reads four digits in base sixteen. -/
def readUnit : List Char → Option (Nat × List Char)
  | a :: b :: c :: d :: rest =>
    match hexDigit? a, hexDigit? b, hexDigit? c, hexDigit? d with
    | some a, some b, some c, some d => some (((a * 16 + b) * 16 + c) * 16 + d, rest)
    | _, _, _, _ => none
  | _ => none

/-- The character behind a backslash that stands for one character. -/
def shortEscape? : Char → Option Char
  | '"' => some '"'
  | '\\' => some '\\'
  | '/' => some '/'
  | 'b' => some '\x08'
  | 'f' => some '\x0c'
  | 'n' => some '\n'
  | 'r' => some '\r'
  | 't' => some '\t'
  | _ => none

/-- Is the number the first half of a surrogate pair? -/
def isHighHalf (n : Nat) : Bool := 0xD800 ≤ n && n ≤ 0xDBFF

/-- Is the number the second half of a surrogate pair? -/
def isLowHalf (n : Nat) : Bool := 0xDC00 ≤ n && n ≤ 0xDFFF

/-- The character of a surrogate pair. -/
def ofHalves (high low : Nat) : Char :=
  Char.ofNat (0x10000 + (high - 0xD800) * 0x400 + (low - 0xDC00))

/-- Joins the sixteen-bit units of a string, each a character or half of one, to characters;
nothing if a half is left over. -/
def joinUnits : List (Char ⊕ Nat) → Option (List Char)
  | [] => some []
  | .inl c :: rest => (joinUnits rest).map (c :: ·)
  | .inr n :: .inr m :: rest =>
    if isHighHalf n && isLowHalf m then (joinUnits rest).map (ofHalves n m :: ·)
    else if isHighHalf n || isLowHalf n then none
    else (joinUnits (.inr m :: rest)).map (Char.ofNat n :: ·)
  | .inr n :: rest =>
    if isHighHalf n || isLowHalf n then none else (joinUnits rest).map (Char.ofNat n :: ·)

/-- Reads the characters of a string up to its closing quote; `limit` bounds their number. -/
def readUnits (limit : Nat) (cs : List Char) : Option (List (Char ⊕ Nat) × List Char) :=
  match limit with
  | 0 => none
  | limit + 1 =>
    match cs with
    | '"' :: rest => some ([], rest)
    | '\\' :: 'u' :: rest =>
      match readUnit rest with
      | some (n, rest) => (readUnits limit rest).map (fun (us, r) => (.inr n :: us, r))
      | none => none
    | '\\' :: e :: rest =>
      match shortEscape? e with
      | some c => (readUnits limit rest).map (fun (us, r) => (.inl c :: us, r))
      | none => none
    | c :: rest =>
      if c = '\\' || c.toNat < 0x20 then none
      else (readUnits limit rest).map (fun (us, r) => (.inl c :: us, r))
    | [] => none

/-- Reads a string behind its opening quote. -/
def readString (cs : List Char) : Option (Option String × List Char) :=
  match readUnits (cs.length + 1) cs with
  | some (units, rest) => some ((joinUnits units).map String.ofList, rest)
  | none => none

/-- Is the character a decimal digit? -/
def isDigit (c : Char) : Bool := '0' ≤ c && c ≤ '9'

/-- Reads at least one digit. -/
def readDigits (cs : List Char) : Option (List Char) :=
  match cs with
  | c :: rest => if isDigit c then some (rest.dropWhile isDigit) else none
  | [] => none

/-- Reads the whole part of a number; a zero stands alone. -/
def readWhole : List Char → Option (List Char)
  | '0' :: rest =>
    match rest with
    | c :: _ => if isDigit c then none else some rest
    | [] => some rest
  | cs => readDigits cs

/-- Reads the part behind a point, if there is one. -/
def readFraction : List Char → Option (List Char)
  | '.' :: rest => readDigits rest
  | cs => some cs

/-- Reads the power of ten, if there is one. -/
def readExponent : List Char → Option (List Char)
  | c :: rest =>
    if c = 'e' || c = 'E' then
      match rest with
      | '+' :: digits => readDigits digits
      | '-' :: digits => readDigits digits
      | digits => readDigits digits
    else some (c :: rest)
  | [] => some []

/-- Reads a number without its sign. -/
def readNumber (cs : List Char) : Option (List Char) :=
  match readWhole cs with
  | none => none
  | some rest =>
    match readFraction rest with
    | none => none
    | some rest => readExponent rest

mutual

/-- Reads a value; `depth` bounds how many values, items and members are open or read in a row. -/
def readValue (depth : Nat) (cs : List Char) : Option (JsonValue × List Char) :=
  match depth with
  | 0 => none
  | depth + 1 =>
    match skipBlank cs with
    | 'n' :: 'u' :: 'l' :: 'l' :: rest => some (.null, rest)
    | 't' :: 'r' :: 'u' :: 'e' :: rest => some (.bool true, rest)
    | 'f' :: 'a' :: 'l' :: 's' :: 'e' :: rest => some (.bool false, rest)
    | '"' :: rest => (readString rest).map (fun (s, r) => (.string s, r))
    | '[' :: rest =>
      match skipBlank rest with
      | ']' :: rest => some (.array [], rest)
      | rest => (readItems depth rest).map (fun (xs, r) => (.array xs, r))
    | '\x7b' :: rest =>
      match skipBlank rest with
      | '\x7d' :: rest => some (.object [], rest)
      | rest => (readMembers depth rest).map (fun (ms, r) => (.object ms, r))
    | '-' :: rest => (readNumber rest).map (fun r => (.number, r))
    | rest => (readNumber rest).map (fun r => (.number, r))

/-- Reads the items of an array up to its end. -/
def readItems (depth : Nat) (cs : List Char) : Option (List JsonValue × List Char) :=
  match depth with
  | 0 => none
  | depth + 1 =>
    match readValue depth cs with
    | none => none
    | some (v, rest) =>
      match skipBlank rest with
      | ',' :: rest => (readItems depth rest).map (fun (vs, r) => (v :: vs, r))
      | ']' :: rest => some ([v], rest)
      | _ => none

/-- Reads the members of an object up to its end. -/
def readMembers (depth : Nat) (cs : List Char) :
    Option (List (Option String × JsonValue) × List Char) :=
  match depth with
  | 0 => none
  | depth + 1 =>
    match skipBlank cs with
    | '"' :: rest =>
      match readString rest with
      | none => none
      | some (name, rest) =>
        match skipBlank rest with
        | ':' :: rest =>
          match readValue depth rest with
          | none => none
          | some (v, rest) =>
            match skipBlank rest with
            | ',' :: rest => (readMembers depth rest).map (fun (ms, r) => ((name, v) :: ms, r))
            | '\x7d' :: rest => some ([(name, v)], rest)
            | _ => none
        | _ => none
    | _ => none

end

/-- The value that a whole text stands for. -/
def ofText? (text : String) : Option JsonValue :=
  let cs := text.toList
  match readValue (2 * cs.length + 2) cs with
  | some (v, rest) => if (skipBlank rest).isEmpty then some v else none
  | none => none

end JsonValue

end Tagging
