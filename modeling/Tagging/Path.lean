/-!
# Paths

A path is kept as it was written; its components are what it means.  Repeated separators and inner
single dots mean nothing, and double dots are kept.

* `Path`, `Component`, `Path.components` — the written form and its meaning;
* `Path.fileName?`, `Path.fileStem?`, `Path.parent?` — the parts of a path;
* `Path.join` — building paths;
* `Path.ofNames` — the relative path along given names.
-/

namespace Tagging

/-- A path as written, with `/` between its parts. -/
structure Path where
  /-- The written form. -/
  text : String
  deriving DecidableEq, Repr, Inhabited

/-- One step of a path. -/
inductive Component where
  /-- The root, which only comes first. -/
  | root
  /-- A single dot, which only comes first. -/
  | here
  /-- A double dot. -/
  | up
  /-- An ordinary name. -/
  | name (s : String)
  deriving DecidableEq, Repr, Inhabited

namespace Path

/-- The stretches between separators; some may be empty. -/
def cutSlashes : List Char → List (List Char)
  | [] => [[]]
  | c :: rest =>
    if c = '/' then [] :: cutSlashes rest
    else match cutSlashes rest with
      | [] => [[c]]
      | part :: more => (c :: part) :: more

/-- The parts with separators between them. -/
def joinSlashes : List (List Char) → List Char
  | [] => []
  | [part] => part
  | part :: more => part ++ '/' :: joinSlashes more

/-- How a path begins. -/
inductive Start where
  /-- At the root. -/
  | root
  /-- With a single dot. -/
  | here
  /-- With its first name. -/
  | plain
  deriving DecidableEq, Repr

/-- The beginning of a path and the stretches behind it. -/
def split (p : Path) : Start × List (List Char) :=
  match cutSlashes p.text.toList with
  | [] :: part :: more => (.root, part :: more)
  | ['.'] :: more => (.here, more)
  | parts => (.plain, parts)

/-- Does a stretch between separators mean nothing? -/
def isIdle (part : List Char) : Bool := part.isEmpty || part = ['.']

/-- The step that a stretch stands for. -/
def componentOf (part : List Char) : Option Component :=
  if isIdle part then none
  else if part = ['.', '.'] then some .up
  else some (.name (String.ofList part))

/-- The step that a beginning stands for. -/
def Start.component? : Start → Option Component
  | .root => some .root
  | .here => some .here
  | .plain => none

/-- What the path means, step by step. -/
def components (p : Path) : List Component :=
  let (start, parts) := p.split
  start.component?.toList ++ parts.filterMap componentOf

/-- Does the path begin at the root? -/
def isAbsolute (p : Path) : Bool :=
  match p.text.toList with
  | '/' :: _ => true
  | _ => false

/-- The name in which the path ends, if it ends in one. -/
def fileName? (p : Path) : Option String :=
  match p.components.getLast? with
  | some (.name s) => some s
  | _ => none

/-- A name without its last extension; a leading dot begins no extension. -/
def stemOf (name : List Char) : List Char :=
  match name.reverse.dropWhile (· ≠ '.') with
  | [] => name
  | [_] => name
  | _ :: stem => stem.reverse

/-- The name in which the path ends, without its last extension. -/
def fileStem? (p : Path) : Option String :=
  p.fileName?.map (fun s => String.ofList (stemOf s.toList))

/-- The stretches without those at the end that mean nothing. -/
def trimIdle (parts : List (List Char)) : List (List Char) :=
  (parts.reverse.dropWhile isIdle).reverse

/-- The written form of a beginning and the stretches behind it. -/
def Start.write : Start → List (List Char) → List Char
  | .root, parts => '/' :: joinSlashes parts
  | .here, [] => ['.']
  | .here, parts => '.' :: '/' :: joinSlashes parts
  | .plain, parts => joinSlashes parts

/-- The path without its last step; a root or an empty path has none to lose. -/
def parent? (p : Path) : Option Path :=
  let (start, parts) := p.split
  match (trimIdle parts).reverse with
  | _ :: rest => some ⟨String.ofList (start.write (trimIdle rest.reverse))⟩
  | [] => if start = .here then some ⟨""⟩ else none

/-- The path `q` taken from `p`; an absolute `q` stands for itself. -/
def join (p q : Path) : Path :=
  if q.isAbsolute then q
  else
    match p.text.toList.getLast? with
    | none => q
    | some '/' => ⟨p.text ++ q.text⟩
    | some _ => ⟨p.text ++ "/" ++ q.text⟩

/-- The relative path along the given names. -/
def ofNames (names : List String) : Path :=
  ⟨String.ofList (joinSlashes (names.map String.toList))⟩

end Path

end Tagging
