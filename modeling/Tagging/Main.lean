import Tagging.CommandLine.Program
import Tagging.Report.Sheet
import Tagging.Workspace

/-!
# The command line

The files that the program is told of are read into a tree, the program works on the tree, and what
changed there is done to the files.

* `places` — the places that a path goes through;
* `Change`, `changes` — what has to be done to the files so that they become as a changed tree shows
  them;
* `survey`, `surveyAll` — the tree of what the arguments lead to.
-/

namespace Tagging

/-! ## Changes of a tree -/

/-- The places that stretches of a path go through. -/
def placesAlong (place : Place) : List (List Char) → List Place
  | [] => [place]
  | part :: rest =>
    if Path.isIdle part then placesAlong place rest
    else if part = ['.', '.'] then place :: placesAlong place.dropLast rest
    else place :: placesAlong (place ++ [String.ofList part]) rest

/-- The places that a path goes through, from a working directory. -/
def places (current : Place) (p : Path) : List Place :=
  let t : FileTree Content := ⟨[], current⟩
  placesAlong (t.outset p).1 (t.outset p).2

/-- The absolute path of a place. -/
def placeText (place : Place) : String := "/" ++ FileTree.written place

/-- What has to be done to one file or directory. -/
inductive Change where
  /-- A directory is added. -/
  | makeDirectory (place : Place)
  /-- A file is written. -/
  | writeFile (place : Place) (content : String)
  /-- A file or a directory is removed. -/
  | remove (place : Place) (isDirectory : Bool)
  deriving Repr, Inhabited

/-- What is written into a file; what is not looked at stays. -/
def Content.written? : Content → Option String
  | .text s => some s
  | .sheet s => some s.text
  | .database | .other => none

/-- What has to be done so that a node is as it is after a change. -/
def changeAt (before : FileTree Content) (place : Place) : Entry Content → List Change
  | .directory => if before.holdsDirectory place then [] else [.makeDirectory place]
  | .file content =>
    match before.get? place, content with
    | some (.file (.text old)), .text new => if old = new then [] else [.writeFile place new]
    | _, _ => (content.written?.map (Change.writeFile place)).toList

/-- What has to be removed of the nodes of a tree. -/
def removals (before after : FileTree Content) : List Change :=
  before.entries.filterMap (fun (place, e) =>
    if (after.get? place).isSome then none
    else match e with
      | .directory => some (.remove place true)
      | .file _ => some (.remove place false))

/-- What has to be done so that a tree becomes another one: directories and files are added in the
order in which they came, and what is gone is removed, the latest first. -/
def changes (before after : FileTree Content) : List Change :=
  after.entries.flatMap (fun (place, e) => changeAt before place e) ++
    (removals before after).reverse

/-! ## Files -/

/-- The working directory. -/
def workingPlace : IO Place := do
  let here ← IO.currentDir
  return (here.toString.splitOn "/").filter (fun s => s ≠ "")

/-- What stands at a place; a file is read if its content is asked for. -/
def lookAt (read : Bool) (place : Place) : IO (Option (Entry Content)) := do
  let here ← IO.currentDir
  let path := here / placeText place
  try
    let m ← path.metadata
    match m.type with
    | .dir => return some .directory
    | _ =>
      if read then
        match String.fromUTF8? (← IO.FS.readBinFile path) with
        | some s => return some (.file (.text s))
        | none => return some (.file .other)
      else return some (.file .other)
  catch _ => return none

/-- The tree with what stands at the places of a path. -/
def survey (read : Bool) (p : Path) (t : FileTree Content) : IO (FileTree Content) :=
  (places t.current p).foldlM
    (fun t place => do
      if place = [] || (t.get? place).isSome then return t
      match ← lookAt read place with
      | some e => return t.put place e
      | none => return t) t

/-- The tree with everything below a directory. -/
partial def surveyBelow (place : Place) (t : FileTree Content) : IO (FileTree Content) := do
  let here ← IO.currentDir
  let entries ← try (here / placeText place).readDir catch _ => pure #[]
  entries.foldlM
    (fun t entry => do
      let next := place ++ [entry.fileName]
      match ← lookAt false next with
      | some .directory => surveyBelow next (t.put next .directory)
      | some e => return t.put next e
      | none => return t) t

/-- The files and directories that the arguments lead to. -/
def surveyAll (a : Arguments) : IO (FileTree Content) := do
  let mut t : FileTree Content := ⟨[], ← workingPlace⟩
  for p in [a.config, a.queries, a.corpus] do
    t ← survey true p t
  match Program.settings a t with
  | .error _ => return t
  | .ok s =>
    t ← survey false (s.aggregator.scratchRoot.getD systemScratchRoot) t
    match ReportOptions.ofSettings s.report with
    | .error _ => return t
    | .ok o =>
      t ← survey false o.output t
      match o.snapshotDirectory? with
      | none => return t
      | some directory =>
        t ← survey false directory t
        match t.resolve directory with
        | .ok place => surveyBelow place t
        | .error _ => return t

/-- Does one change to the files. -/
def perform : Change → IO Unit
  | .makeDirectory place => IO.FS.createDirAll (placeText place)
  | .writeFile place content => IO.FS.writeFile (placeText place) content
  | .remove place true => IO.FS.removeDirAll (placeText place)
  | .remove place false => IO.FS.removeFile (placeText place)

end Tagging

open Tagging in
/-- Reads the arguments, runs the program, and says with its exit code how that went. -/
def main (words : List String) : IO UInt32 := do
  match Arguments.ofWords words with
  | .error e =>
    if e.exitCode = 0 then IO.println e.message else IO.eprintln e.message
    return e.exitCode.toUInt32
  | .ok a =>
    let before ← surveyAll a
    let (w, result) := Program.run a Environment.inOrder ⟨before, [], .sound⟩
    for c in changes before w.tree do
      perform c
    match result with
    | .ok _ => pure ()
    | .error e => IO.eprintln ("Error: " ++ e.message)
    return (Program.exitCode result).toUInt32
