import Tagging.Path

/-!
# File trees

The directories and files that a program finds and changes, as a value.  A path is followed the way
the operating system follows it, one name after the other, so each operation either succeeds or
reports the fault that the system would report; an operation that takes several steps keeps the
steps it has taken.

* `Place`, `Entry`, `FileTree` — nodes by their names from the root down;
* `Fault`, `Fault.message` — what can go wrong and how it is worded;
* `FileTree.resolve`, `FileTree.exists`, `FileTree.isDirectory`, `FileTree.read?` — looking;
* `FileTree.makeDirectory`, `FileTree.makeDirectories`, `FileTree.writeFile` — adding;
* `Disk`, `FileTree.writeOn` — writing on a device that may stop before a file is whole;
* `FileTree.removeFile`, `FileTree.removeTree` — taking away;
* `FileTree.prepare` — a tree made up of given files and directories.
-/

namespace Tagging

/-- The names from the root of the file system down to a node; the root is the empty list. -/
abbrev Place := List String

/-- What stands at a place, with files holding values of type `α`. -/
inductive Entry (α : Type) where
  /-- A directory; what is in it stands at longer places. -/
  | directory
  /-- A file and its content. -/
  | file (content : α)
  deriving Repr, Inhabited

/-- The nodes below the root, each place once, and the directory where relative paths begin. -/
structure FileTree (α : Type) where
  /-- Every node but the root. -/
  entries : List (Place × Entry α)
  /-- The working directory. -/
  current : Place
  deriving Repr, Inhabited

/-- Reasons for which the system refuses an operation. -/
inductive Fault where
  /-- Something is there already. -/
  | alreadyThere
  /-- There is nothing at the path. -/
  | missing
  /-- A file stands where the path needs a directory. -/
  | notDirectory
  /-- A directory stands where a file is wanted. -/
  | isDirectory
  /-- A name of more than 255 bytes, or a path of 4096 or more. -/
  | nameTooLong
  /-- The path holds the character that ends a path. -/
  | nulInPath
  /-- The device fails, for instance because it is full; in the words of the system. -/
  | device (message : String)
  deriving DecidableEq, Repr, Inhabited

/-- How the system words a fault. -/
def Fault.message : Fault → String
  | alreadyThere => "File exists (os error 17)"
  | missing => "No such file or directory (os error 2)"
  | notDirectory => "Not a directory (os error 20)"
  | isDirectory => "Is a directory (os error 21)"
  | nameTooLong => "File name too long (os error 36)"
  | nulInPath => "file name contained an unexpected NUL byte"
  | device message => message

namespace FileTree

variable {α : Type}

/-! ## Single nodes -/

/-- What stands at a place. -/
def get? (t : FileTree α) (place : Place) : Option (Entry α) :=
  if place = [] then some .directory else t.entries.lookup place

/-- The tree with the node at `place` replaced or added. -/
def put (t : FileTree α) (place : Place) (e : Entry α) : FileTree α :=
  { t with entries := t.entries.filter (fun x => x.1 ≠ place) ++ [(place, e)] }

/-- The tree without the node at `place` and without all that stands below it. -/
def prune (t : FileTree α) (place : Place) : FileTree α :=
  { t with entries := t.entries.filter (fun x => !place.isPrefixOf x.1) }

/-! ## Following a path -/

/-- The longest name that a directory can hold, in bytes. -/
def maxNameBytes : Nat := 255

/-- The shortest path that is refused for its length, in bytes. -/
def pathBytesLimit : Nat := 4096

/-- Refuses the texts that are no path. -/
def vet (p : Path) : Except Fault Unit :=
  if '\x00' ∈ p.text.toList then .error .nulInPath
  else if p.text = "" then .error .missing
  else if pathBytesLimit ≤ p.text.utf8ByteSize then .error .nameTooLong
  else .ok ()

/-- Is there a directory at the place? -/
def holdsDirectory (t : FileTree α) (place : Place) : Bool :=
  match t.get? place with
  | some .directory => true
  | _ => false

/-- The node reached from a place by one stretch of a path, which must lead to a node. -/
def enter (t : FileTree α) (place : Place) (part : List Char) : Except Fault Place :=
  if !t.holdsDirectory place then .error .notDirectory
  else if Path.isIdle part then .ok place
  else if part = ['.', '.'] then .ok place.dropLast
  else
    let name := String.ofList part
    if maxNameBytes < name.utf8ByteSize then .error .nameTooLong
    else if (t.get? (place ++ [name])).isSome then .ok (place ++ [name])
    else .error .missing

/-- The node reached from a place by several stretches. -/
def walk (t : FileTree α) (place : Place) : List (List Char) → Except Fault Place
  | [] => .ok place
  | part :: rest =>
    match t.enter place part with
    | .ok next => t.walk next rest
    | .error f => .error f

/-- Where following a path begins, and the stretches to follow. -/
def outset (t : FileTree α) (p : Path) : Place × List (List Char) :=
  match p.split with
  | (.root, parts) => ([], parts)
  | (.here, parts) => (t.current, ['.'] :: parts)
  | (.plain, parts) => (t.current, parts)

/-- The node that a path leads to. -/
def resolve (t : FileTree α) (p : Path) : Except Fault Place :=
  match vet p with
  | .error f => .error f
  | .ok () => t.walk (t.outset p).1 (t.outset p).2

/-- Does the path lead to a node? -/
def exists? (t : FileTree α) (p : Path) : Bool := (t.resolve p).isOk

/-- Does the path lead to a directory? -/
def isDirectory (t : FileTree α) (p : Path) : Bool :=
  match t.resolve p with
  | .ok place => t.holdsDirectory place
  | .error _ => false

/-- The content of the file that the path leads to. -/
def read? (t : FileTree α) (p : Path) : Option α :=
  match t.resolve p with
  | .ok place =>
    match t.get? place with
    | some (.file content) => some content
    | _ => none
  | .error _ => none

/-- The end of a path seen from the directory that holds it. -/
inductive Tip where
  /-- The path is the root. -/
  | root
  /-- The last stretch that is not empty, in an existing directory, and whether separators follow
  it. -/
  | last (directory : Place) (part : List Char) (slash : Bool)
  deriving Repr

/-- Follows a path up to its last stretch. -/
def tip (t : FileTree α) (p : Path) : Except Fault Tip :=
  match vet p with
  | .error f => .error f
  | .ok () =>
    let (place, parts) := t.outset p
    match parts.reverse.dropWhile List.isEmpty with
    | [] => .ok .root
    | part :: before =>
      match t.walk place before.reverse with
      | .error f => .error f
      | .ok directory =>
        if t.holdsDirectory directory then
          .ok (.last directory part (parts.getLast? = some []))
        else .error .notDirectory

/-- Is the stretch a single or double dot? -/
def isDots (part : List Char) : Bool := part = ['.'] || part = ['.', '.']

/-! ## Adding nodes -/

/-- Adds a directory whose parent exists. -/
def makeDirectory (t : FileTree α) (p : Path) : Except Fault (FileTree α) :=
  match t.tip p with
  | .error f => .error f
  | .ok .root => .error .alreadyThere
  | .ok (.last directory part _) =>
    let name := String.ofList part
    if isDots part then .error .alreadyThere
    else if maxNameBytes < name.utf8ByteSize then .error .nameTooLong
    else if (t.get? (directory ++ [name])).isSome then .error .alreadyThere
    else .ok (t.put (directory ++ [name]) .directory)

/-- A path and the paths above it, nearest first; no more than `limit` of them. -/
def ancestors (limit : Nat) (p : Path) : List Path :=
  match limit with
  | 0 => []
  | limit + 1 => p :: (match p.parent? with
    | some above => ancestors limit above
    | none => [])

/-- Adds the first of the paths and, where needed, those above it.  Directories that were added
before a fault stay. -/
def makeAlong (t : FileTree α) : List Path → FileTree α × Except Fault Unit
  | [] => (t, .ok ())
  | p :: above =>
    if p.text = "" then (t, .ok ())
    else match t.makeDirectory p with
      | .ok t' => (t', .ok ())
      | .error .missing =>
        match t.makeAlong above with
        | (t', .error f) => (t', .error f)
        | (t', .ok ()) =>
          match t'.makeDirectory p with
          | .ok t'' => (t'', .ok ())
          | .error f => (t', if t'.isDirectory p then .ok () else .error f)
      | .error f => (t, if t.isDirectory p then .ok () else .error f)

/-- Adds a directory and all that is missing above it. -/
def makeDirectories (t : FileTree α) (p : Path) : FileTree α × Except Fault Unit :=
  t.makeAlong (ancestors (p.text.length + 1) p)

/-- Writes a file whose directory exists, in place of a file that is there. -/
def writeFile (t : FileTree α) (p : Path) (content : α) : Except Fault (FileTree α) :=
  match t.tip p with
  | .error f => .error f
  | .ok .root => .error .isDirectory
  | .ok (.last directory part slash) =>
    let name := String.ofList part
    if isDots part || slash then .error .isDirectory
    else if maxNameBytes < name.utf8ByteSize then .error .nameTooLong
    else if t.holdsDirectory (directory ++ [name]) then .error .isDirectory
    else .ok (t.put (directory ++ [name]) (.file content))

/-! ## Writing on a device -/

end FileTree

/-- What becomes of writing files, beyond what their paths lead to. -/
structure Disk (α : Type) where
  /-- Stops a write with a fault.  The file then holds a part of what it should, or whatever else it
  came to; it is not touched if there is nothing that it holds. -/
  stops : FileTree α → Path → α → Option (Option α × Fault)
  deriving Inhabited

/-- The device on which every file is written as a whole. -/
def Disk.sound {α : Type} : Disk α := ⟨fun _ _ _ => none⟩

namespace FileTree

variable {α : Type}

/-- Writes a file as far as the device gets; what it has written before a fault stays. -/
def writeOn (disk : Disk α) (t : FileTree α) (p : Path) (content : α) :
    FileTree α × Except Fault Unit :=
  match disk.stops t p content with
  | some (none, f) => (t, .error f)
  | some (some left, f) =>
    match t.writeFile p left with
    | .ok t' => (t', .error f)
    | .error f' => (t, .error f')
  | none =>
    match t.writeFile p content with
    | .ok t' => (t', .ok ())
    | .error f => (t, .error f)

/-! ## Taking nodes away -/

/-- Removes the file that a path names; anything else stays. -/
def removeFile (t : FileTree α) (p : Path) : FileTree α :=
  match t.tip p with
  | .ok (.last directory part false) =>
    match t.get? (directory ++ [String.ofList part]) with
    | some (.file _) => t.prune (directory ++ [String.ofList part])
    | _ => t
  | _ => t

/-- Removes the directory that a path leads to and all that is in it; a file stays. -/
def removeTree (t : FileTree α) (p : Path) : FileTree α :=
  match t.resolve p with
  | .ok place => if t.holdsDirectory place then t.prune place else t
  | .error _ => t

/-! ## Written places and prepared trees -/

/-- The names with separators between them. -/
def written (names : List String) : String :=
  String.ofList (Path.joinSlashes (names.map String.toList))

/-- Adds a directory or file of a prepared tree, with the directories above it; what the system
would refuse is left out. -/
def prepare (t : FileTree α) (p : Path) : Entry α → FileTree α
  | .directory => (t.makeDirectories p).1
  | .file content =>
    let t' := match p.parent? with
      | some above => (t.makeDirectories above).1
      | none => t
    match t'.writeFile p content with
    | .ok t'' => t''
    | .error _ => t'

end FileTree

end Tagging
