import Tagging.Toml.Scalar

/-!
# Reading a settings file

A settings file is a sequence of lines that set keys and open tables.  The lines are read first;
then the tables are built up from them, and a line that would define something twice, or extend
what is closed, makes the file invalid.

* `readKeys`, `TomlValue.readValue` — keys with dots, and values with arrays and closed tables;
* `TomlLine`, `TomlValue.readLines` — the lines;
* `Entries.descend` — the table at the end of a key;
* `TomlValue.ofText?` — the entries of a whole file.
-/

namespace Tagging

/-- Values by key, in order. -/
abbrev Entries := List (String × TomlValue)

namespace Entries

/-! ## Building tables -/

/-- The entries with the value of a key replaced, or added at the end. -/
def set (key : String) (v : TomlValue) : Entries → Entries
  | [] => [(key, v)]
  | (k, w) :: rest => if k = key then (k, v) :: rest else (k, w) :: set key v rest

/-- Changes the last of several values. -/
def onLast (f : TomlValue → Option TomlValue) : List TomlValue → Option (List TomlValue)
  | [] => none
  | [v] => (f v).map (fun v => [v])
  | v :: w :: rest => (onLast f (w :: rest)).map (v :: ·)

/-- The form of a table that is begun on the way to another. -/
def passingForm (dotted : Bool) : TableForm := if dotted then .dotted else .implied

/-- Changes the table at the end of a key.  Tables on the way are begun where they are missing; of
tables with headers of their own the last one is meant.  A key with dots may pass through no table
that has a header, and nothing passes through a closed table or any other value. -/
def descend (dotted : Bool) (f : TableForm → Entries → Option Entries) (form : TableForm)
    (entries : Entries) : List String → Option Entries
  | [] => f form entries
  | key :: path =>
    match entries.lookup key with
    | none =>
      (descend dotted f (passingForm dotted) [] path).map
        (fun inner => set key (.table (passingForm dotted) inner) entries)
    | some (.table inner innerEntries) =>
      if inner = .closed || (dotted && inner = .header) then none
      else (descend dotted f inner innerEntries path).map
        (fun es => set key (.table inner es) entries)
    | some (.array true items) =>
      (onLast (fun
        | .table inner innerEntries =>
          (descend dotted f inner innerEntries path).map (TomlValue.table inner)
        | _ => none) items).map (fun vs => set key (.array true vs) entries)
    | some _ => none

/-- Changes the table that a header has opened. -/
def inside (f : TableForm → Entries → Option Entries) (form : TableForm) (entries : Entries) :
    List String → Option Entries
  | [] => f form entries
  | key :: path =>
    match entries.lookup key with
    | some (.table inner innerEntries) =>
      (inside f inner innerEntries path).map (fun es => set key (.table inner es) entries)
    | some (.array headed items) =>
      (onLast (fun
        | .table inner innerEntries => (inside f inner innerEntries path).map (TomlValue.table inner)
        | _ => none) items).map (fun vs => set key (.array headed vs) entries)
    | _ => none

/-- Sets a key, with the keys of the tables around it; a key that is set stays as it is, and keys
with dots may not add to tables begun in another way. -/
def assign (path : List String) (key : String) (v : TomlValue) (form : TableForm)
    (entries : Entries) : Option Entries :=
  descend true (fun inner es =>
    if !path.isEmpty && inner ≠ .dotted then none
    else if (es.lookup key).isSome then none
    else some (es ++ [(key, v)])) form entries path

/-- Opens a table by its header; a table that was only passed through so far is continued. -/
def openTable (path : List String) (key : String) (entries : Entries) : Option Entries :=
  descend false (fun _ es =>
    match es.lookup key with
    | none => some (set key (.table .header []) es)
    | some (.table .implied inner) => some (set key (.table .header inner) es)
    | some _ => none) .header entries path

/-- Opens one more table of an array by its header. -/
def openItem (path : List String) (key : String) (entries : Entries) : Option Entries :=
  descend false (fun _ es =>
    match es.lookup key with
    | none => some (set key (.array true [.table .header []]) es)
    | some (.array true items) => some (set key (.array true (items ++ [.table .header []])) es)
    | some _ => none) .header entries path

end Entries

namespace TomlValue

/-! ## Keys -/

/-- Characters of a key without quotes. -/
def isBareKey (c : Char) : Bool :=
  ('a' ≤ c && c ≤ 'z') || ('A' ≤ c && c ≤ 'Z') || ('0' ≤ c && c ≤ '9') || c = '_' || c = '-'

/-- Reads one part of a key. -/
def readKey : List Char → Option (String × List Char)
  | '"' :: rest => readLine '"' rest
  | '\'' :: rest => readLine '\'' rest
  | cs =>
    let key := cs.takeWhile isBareKey
    if key.isEmpty then none else some (String.ofList key, cs.dropWhile isBareKey)

/-- Reads a key, whose parts are separated by dots; `limit` bounds their number. -/
def readKeys (limit : Nat) (cs : List Char) : Option (List String × List Char) :=
  match limit with
  | 0 => none
  | limit + 1 =>
    match readKey (skipSpace cs) with
    | none => none
    | some (key, rest) =>
      match skipSpace rest with
      | '.' :: rest => (readKeys limit rest).map (fun (ks, r) => (key :: ks, r))
      | rest => some ([key], rest)

/-- Reads a key and splits off its last part. -/
def readKeyPath (cs : List Char) : Option (List String × String × List Char) :=
  match readKeys (cs.length + 1) cs with
  | some (keys, rest) => keys.getLast?.map (fun key => (keys.dropLast, key, rest))
  | none => none

/-! ## Values -/

/-- Skips blanks, comments and line ends between the items of an array or a closed table. -/
def skipGap (limit : Nat) (cs : List Char) : Option (List Char) :=
  match limit with
  | 0 => none
  | limit + 1 =>
    match readComment (skipSpace cs) with
    | none => none
    | some rest =>
      match readLineEnd rest with
      | some rest => skipGap limit rest
      | none => some rest

/-- Skips a gap of any length. -/
def skipBetween (cs : List Char) : Option (List Char) := skipGap (cs.length + 1) cs

/-- How many arrays and closed tables may be open at once. -/
def maxNesting : Nat := 80

mutual

/-- Reads a value; `limit` bounds how many values and items are open or read in a row, and
`nesting` how many more arrays and tables may be opened. -/
def readValue (limit nesting : Nat) (cs : List Char) : Option (TomlValue × List Char) :=
  match limit with
  | 0 => none
  | limit + 1 =>
    match cs with
    | '[' :: rest =>
      if nesting = 0 then none
      else (readItems limit (nesting - 1) rest).map (fun (vs, r) => (.array false vs, r))
    | '\x7b' :: rest =>
      if nesting = 0 then none
      else (readEntries limit (nesting - 1) [] rest).map (fun (es, r) => (.table .closed es, r))
    | _ => readScalar cs

/-- Reads the items of an array up to its end; a comma may stand before the end. -/
def readItems (limit nesting : Nat) (cs : List Char) : Option (List TomlValue × List Char) :=
  match limit with
  | 0 => none
  | limit + 1 =>
    match skipBetween cs with
    | none => none
    | some (']' :: rest) => some ([], rest)
    | some cs =>
      match readValue limit nesting cs with
      | none => none
      | some (v, rest) =>
        match skipBetween rest with
        | some (']' :: rest) => some ([v], rest)
        | some (',' :: rest) => (readItems limit nesting rest).map (fun (vs, r) => (v :: vs, r))
        | _ => none

/-- Reads the entries of a closed table behind `done`, up to its end; a comma may stand before the
end. -/
def readEntries (limit nesting : Nat) (done : Entries) (cs : List Char) :
    Option (Entries × List Char) :=
  match limit with
  | 0 => none
  | limit + 1 =>
    match skipBetween cs with
    | none => none
    | some ('\x7d' :: rest) => some (done, rest)
    | some cs =>
      match readKeyPath cs with
      | some (path, key, '=' :: rest) =>
        match readValue limit nesting (skipSpace rest) with
        | none => none
        | some (v, rest) =>
          match done.assign path key v .header with
          | none => none
          | some done =>
            match skipBetween rest with
            | some ('\x7d' :: rest) => some (done, rest)
            | some (',' :: rest) => readEntries limit nesting done rest
            | _ => none
      | _ => none

end

/-! ## Lines -/

/-- A line that means something. -/
inductive Line where
  /-- Sets a key. -/
  | assign (path : List String) (key : String) (v : TomlValue)
  /-- Opens a table. -/
  | openTable (path : List String) (key : String)
  /-- Opens one more table of an array. -/
  | openItem (path : List String) (key : String)
  deriving Repr

/-- Skips the rest of a line that may hold a comment. -/
def skipLine (cs : List Char) : Option (List Char) :=
  match readComment (skipSpace cs) with
  | none => none
  | some [] => some []
  | some rest => readLineEnd rest

/-- Reads one line that is neither blank nor a comment. -/
def readOneLine (cs : List Char) : Option (Line × List Char) :=
  match cs with
  | '[' :: '[' :: rest =>
    match readKeyPath rest with
    | some (path, key, ']' :: ']' :: rest) => (skipLine rest).map (fun r => (.openItem path key, r))
    | _ => none
  | '[' :: rest =>
    match readKeyPath rest with
    | some (path, key, ']' :: rest) => (skipLine rest).map (fun r => (.openTable path key, r))
    | _ => none
  | _ =>
    match readKeyPath cs with
    | some (path, key, '=' :: rest) =>
      let rest := skipSpace rest
      match readValue (2 * rest.length + 2) maxNesting rest with
      | some (v, rest) => (skipLine rest).map (fun r => (.assign path key v, r))
      | none => none
    | _ => none

/-- Reads the lines of a file; `limit` bounds their number. -/
def readLines (limit : Nat) (cs : List Char) : Option (List Line) :=
  match limit with
  | 0 => none
  | limit + 1 =>
    match readComment (skipSpace cs) with
    | none => none
    | some [] => some []
    | some rest =>
      match readLineEnd rest with
      | some rest => readLines limit rest
      | none =>
        match readOneLine rest with
        | none => none
        | some (line, rest) => (readLines limit rest).map (line :: ·)

/-! ## Whole files -/

/-- The entries of a file when some lines are left; `current` leads to the open table. -/
def build (entries : Entries) (current : List String) : List Line → Option Entries
  | [] => some entries
  | .assign path key v :: rest =>
    match entries.inside (fun form es => es.assign path key v form) .header current with
    | some entries => build entries current rest
    | none => none
  | .openTable path key :: rest =>
    match entries.openTable path key with
    | some entries => build entries (path ++ [key]) rest
    | none => none
  | .openItem path key :: rest =>
    match entries.openItem path key with
    | some entries => build entries (path ++ [key]) rest
    | none => none

/-- The characters of a file without the mark of its encoding. -/
def withoutMark : List Char → List Char
  | '\ufeff' :: rest => rest
  | cs => cs

/-- The entries of a whole file, if it is well formed. -/
def ofText? (text : String) : Option Entries :=
  let cs := withoutMark text.toList
  match readLines (cs.length + 1) cs with
  | some lines => build [] [] lines
  | none => none

end TomlValue

end Tagging
