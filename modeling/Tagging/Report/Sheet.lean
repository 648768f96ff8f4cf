import Tagging.Basic
import Tagging.Failure
import Tagging.Number.Double

/-!
# Sheets

The sheet of a report, cell by cell, and the rules by which a spreadsheet takes texts, numbers and
links.

* `CellValue`, `CellStyle`, `Cell`, `Sheet` — the sheet as a reader of the file sees it;
* `StoredLink`, `storeLink?` — what becomes of a link;
* `textCell`, `numberCell`, `linkCell` — what becomes of a value;
* `PlannedRow`, `layout` — the sheet of a report;
* `Sheet.text` — a sheet written down: a line for each cell, with its row, its column, what it shows
  and where it leads, and tabs between them.
-/

namespace Tagging

/-! ## Cells -/

/-- What a cell shows. -/
inductive CellValue where
  /-- A text. -/
  | text (s : String)
  /-- A number. -/
  | number (x : Double)
  /-- Nothing. -/
  | blank
  deriving Repr, Inhabited

/-- How a cell shows it. -/
inductive CellStyle where
  /-- As it is. -/
  | plain
  /-- As a heading. -/
  | heading
  /-- With three decimal places. -/
  | weight
  /-- As a link. -/
  | link
  deriving Repr, DecidableEq, Inhabited

/-- Where a cell leads. -/
structure StoredLink where
  /-- The file or page. -/
  target : String
  /-- The place in it. -/
  location : Option String
  deriving Repr, DecidableEq, Inhabited

/-- One cell, counted from the first row and column. -/
structure Cell where
  /-- The row. -/
  row : Nat
  /-- The column. -/
  column : Nat
  /-- What it shows. -/
  value : CellValue
  /-- How it shows it. -/
  style : CellStyle
  /-- Where it leads. -/
  link : Option StoredLink
  deriving Repr, Inhabited

/-- A sheet. -/
structure Sheet where
  /-- Its name. -/
  name : String
  /-- How many rows stay in view. -/
  frozenRows : Nat
  /-- Its cells, by row and then by column. -/
  cells : List Cell
  deriving Repr, Inhabited

/-! ## Limits -/

/-- The number of rows of a sheet. -/
def maxRows : Nat := 1048576

/-- The number of columns of a sheet. -/
def maxColumns : Nat := 16384

/-- The number of columns that can be counted. -/
def columnNumbers : Nat := 65536

/-- The longest text of a cell. -/
def maxTextLength : Nat := 32767

/-! ## Links -/

/-- Cuts a link at its first number sign; an empty place is none. -/
def cutLocation (link : List Char) : List Char × Option (List Char) :=
  (link.takeWhile (fun c => c ≠ '#'),
    match link.dropWhile (fun c => c ≠ '#') with
    | _ :: c :: rest => some (c :: rest)
    | _ => none)

/-- How a character that a link cannot hold is written, with two digits. -/
def linkEscape? : Char → Option (List Char)
  | '%' => some "%25".toList
  | '"' => some "%22".toList
  | ' ' => some "%20".toList
  | '<' => some "%3c".toList
  | '>' => some "%3e".toList
  | '[' => some "%5b".toList
  | ']' => some "%5d".toList
  | '^' => some "%5e".toList
  | '`' => some "%60".toList
  | '\x7b' => some "%7b".toList
  | '\x7d' => some "%7d".toList
  | _ => none

/-- The written forms of the characters that a link cannot hold. -/
def linkEscapes : List (List Char) :=
  ["%25", "%22", "%20", "%3c", "%3e", "%5b", "%5d", "%5e", "%60", "%7b", "%7d"].map String.toList

/-- Does one of the written forms occur in the characters? -/
def holdsEscape : List Char → Bool
  | [] => false
  | c :: rest => linkEscapes.any (fun e => e.isPrefixOf (c :: rest)) || holdsEscape rest

/-- A link with the characters it cannot hold written out; if it holds such a form already, it is
taken to be written out as a whole. -/
def escapeLink (link : List Char) : List Char :=
  if holdsEscape link then link else link.flatMap (fun c => (linkEscape? c).getD [c])

/-- An attribute as it is read back: a tab or a carriage return is a blank. -/
def attributeText (cs : List Char) : String :=
  String.ofList (cs.map (fun c => if c = '\t' || c = '\r' then ' ' else c))

/-- A link with its place, as a sheet keeps it. -/
def keepLink (link : List Char) (location : Option (List Char)) : StoredLink :=
  ⟨attributeText (escapeLink link), location.map attributeText⟩

/-- The rest of the characters behind a beginning. -/
def dropBeginning? (beginning : String) (cs : List Char) : Option (List Char) :=
  if beginning.toList.isPrefixOf cs then some (cs.drop beginning.length) else none

/-- Is the path of a file link taken from the directory of the sheet?  Not if it begins with two
backslashes or with the letter of a drive. -/
def isRelativeLink (path : List Char) : Bool :=
  match path with
  | '\\' :: '\\' :: _ => false
  | c :: ':' :: _ => c = ':' || 0x7F < c.toNat
  | _ => true

/-- What a sheet keeps of a link, and the text it shows where no other is given. -/
def storeLink? (url : String) : Option (StoredLink × String) :=
  let cs := url.toList
  if ["http://", "https://", "ftp://", "ftps://"].any (fun b => (dropBeginning? b cs).isSome) then
    let (link, location) := cutLocation cs
    some (keepLink link location, url)
  else match dropBeginning? "mailto:" cs with
    | some address => some (keepLink cs none, String.ofList address)
    | none =>
      match dropBeginning? "file:///" cs with
      | some path =>
        let (link, location) := cutLocation (if isRelativeLink path then path else cs)
        some (keepLink link location, String.ofList path)
      | none => none

/-! ## Values -/

/-- Is there a cell at this row and column? -/
def insideSheet (row column : Nat) : Bool := row < maxRows && column < maxColumns

/-- A text in a cell.  An empty text leaves a blank cell if it has a style, and no cell
otherwise. -/
def textCell (row column : Nat) (s : String) (style : CellStyle) :
    Except SheetFault (List Cell) :=
  if !insideSheet row column then .error .outsideSheet
  else if maxTextLength < s.length then .error .textTooLong
  else if s ≠ "" then .ok [⟨row, column, .text s, style, none⟩]
  else if style = .plain then .ok []
  else .ok [⟨row, column, .blank, style, none⟩]

/-- A number in a cell; what is no finite number is written as a text. -/
def numberCell (row column : Nat) (x : Double) : Except SheetFault (List Cell) :=
  if !insideSheet row column then .error .outsideSheet
  else if x.isNaN then .ok [⟨row, column, .text "NAN", .weight, none⟩]
  else if x.isInf then
    .ok [⟨row, column, .text (if x < 0 then "-INF" else "INF"), .weight, none⟩]
  else .ok [⟨row, column, .number x, .weight, none⟩]

/-- A link in a cell that shows a text. -/
def linkCell (row column : Nat) (url text : String) : Except SheetFault (List Cell) :=
  if !insideSheet row column then .error .outsideSheet
  else match storeLink? url with
    | none => .error (.unsupportedLink url)
    | some (link, own) =>
      let shown := if text = "" then own else text
      if maxTextLength < shown.length then .error .textTooLong
      else .ok [⟨row, column, .text shown, .link, some link⟩]

/-! ## The sheet of a report -/

/-- A row of a report with its links. -/
structure PlannedRow where
  /-- The file. -/
  fileId : String
  /-- Its shown name. -/
  displayName : String
  /-- Where it lies. -/
  relativePath : String
  /-- Its total. -/
  total : Double
  /-- Its weights by query. -/
  weights : List (QueryId × Double)
  /-- The link of the row. -/
  fileLink : Option String
  /-- The links of its weights, by query. -/
  cellLinks : List (QueryId × String)
  deriving Repr, Inhabited

namespace PlannedRow

/-- What names the row. -/
def label (r : PlannedRow) : String := if r.displayName = "" then r.fileId else r.displayName

/-- The cell that names the row. -/
def labelCell (r : PlannedRow) (row : Nat) : Except SheetFault (List Cell) :=
  match r.fileLink with
  | some link => linkCell row 0 link r.label
  | none => textCell row 0 r.label .plain

/-- The cell of the row's weight under a query, if it has one. -/
def weightCell (r : PlannedRow) (row column : Nat) (q : QueryId) :
    Except SheetFault (List Cell) :=
  match r.weights.lookup q with
  | none => .ok []
  | some weight =>
    match r.cellLinks.lookup q with
    | some link => linkCell row column link (Number.fixedPlaces 3 weight)
    | none => numberCell row column weight

end PlannedRow

/-- All cells in order, or the first fault. -/
def collectCells : List (Except SheetFault (List Cell)) → Except SheetFault (List Cell)
  | [] => .ok []
  | .error e :: _ => .error e
  | .ok cells :: rest =>
    match collectCells rest with
    | .ok more => .ok (cells ++ more)
    | .error e => .error e

/-- The heading of each column. -/
def headingCells (queries : List NamedQuery) : List (Except SheetFault (List Cell)) :=
  textCell 0 0 "File" .heading :: textCell 0 1 "Path" .heading ::
    (queries.zipIdx.map (fun (q, i) => textCell 0 (i + 2) q.name .heading)) ++
    [textCell 0 (queries.length + 2) "Total" .heading]

/-- The cells of one row. -/
def rowCells (queries : List NamedQuery) (r : PlannedRow) (row : Nat) :
    List (Except SheetFault (List Cell)) :=
  r.labelCell row :: textCell row 1 r.relativePath .plain ::
    (queries.zipIdx.map (fun (q, i) => r.weightCell row (i + 2) q.id)) ++
    [numberCell row (queries.length + 2) r.total]

/-- The sheet of a report: one row a file, one column a query, and the total in the last column. -/
def layout (queries : List NamedQuery) (rows : List PlannedRow) : Except SheetFault Sheet :=
  if columnNumbers ≤ queries.length + 2 then .error (.tooManyColumns (queries.length + 3))
  else
    match collectCells (headingCells queries ++
        (rows.zipIdx.flatMap (fun (r, i) => rowCells queries r (i + 1)))) with
    | .ok cells => .ok ⟨"Tags", 1, cells⟩
    | .error e => .error e

/-! ## Sheets as text -/

/-- The decimal places in which a number is written. -/
def sheetPlaces : Nat := 17

/-- What a cell shows. -/
def CellValue.shown : CellValue → String
  | .text s => Text.quoted s
  | .number x => Number.fixedPlaces sheetPlaces x
  | .blank => ""

/-- Where a cell leads. -/
def StoredLink.text (l : StoredLink) : String :=
  match l.location with
  | some place => l.target ++ "#" ++ place
  | none => l.target

/-- The line of a cell. -/
def Cell.line (c : Cell) : String :=
  "\t".intercalate
    ([toString c.row, toString c.column, c.value.shown] ++ (c.link.map StoredLink.text).toList) ++
    "\n"

/-- The sheet, a line for each cell. -/
def Sheet.text (s : Sheet) : String := s.name ++ "\n" ++ String.join (s.cells.map Cell.line)

end Tagging
