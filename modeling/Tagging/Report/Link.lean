import Tagging.Basic
import Tagging.Path
import Tagging.Url.Basic

/-!
# Links of a report

A live link repeats the search for one file; a static link leads to a snapshot.  The place of a
snapshot is made from the path of its file, cleaned of everything that would lead elsewhere.

* `liveLink` — the base URL with the file and its queries;
* `cleanName`, `safeNames`, `snapshotLocation` — the place of a snapshot below its directory;
* `firstFreeLocation` — the first place that no earlier row has taken;
* `snapshotLink` — the link to that place.
-/

namespace Tagging

/-- The longest link that a sheet can hold. -/
def maxLinkLength : Nat := 2079

/-- Is the link short enough for a sheet? -/
def linkFits (link : String) : Bool := link.length ≤ maxLinkLength

/-! ## Live links -/

/-- The ids in base ten, with commas between them. -/
def idList (ids : List QueryId) : String := ",".intercalate (ids.map (fun id => toString id))

/-- The URL that repeats the search of some queries for one file. -/
def liveLink (base : Url) (fileId : String) (ids : List QueryId) : String :=
  ((base.appendPair "file_id" fileId).appendPair "query_ids" (idList ids)).text

/-! ## Snapshot locations -/

/-- Characters that would lead elsewhere: separators, and the beginnings of a fragment and of an
escape. -/
def leadsElsewhere (c : Char) : Bool := c = '/' || c = '\\' || c = '#' || c = '%'

/-- A name with a low line for each character that would lead elsewhere. -/
def cleanName (name : String) : String :=
  String.ofList (name.toList.map (fun c => if leadsElsewhere c then '_' else c))

/-- The path with slashes for backslashes. -/
def withSlashes (path : String) : Path :=
  ⟨String.ofList (path.toList.map (fun c => if c = '\\' then '/' else c))⟩

/-- The cleaned names of a path, without its root and its dots. -/
def safeNames (path : String) : List String :=
  (withSlashes path).components.filterMap (fun c =>
    match c with
    | .name s => some (cleanName s)
    | _ => none)

/-- The names that lead to a file: those of its path, else its id, else a name for any document. -/
def locationNames (relativePath fileId : String) : List String :=
  match safeNames relativePath with
  | [] =>
    match safeNames fileId with
    | [] => ["document"]
    | names => names
  | names => names

/-- A name with a tag and a suffix. -/
def taggedName (name : String) (tag : Option String) (suffix : String) : String :=
  match tag with
  | some t => name ++ "~" ++ cleanName t ++ suffix
  | none => name ++ suffix

/-- The place of a snapshot below the snapshot directory; a tag tells apart files whose paths lead
to the same place. -/
def snapshotLocation (relativePath fileId suffix : String) (tag : Option String) : Path :=
  let names := locationNames relativePath fileId
  Path.ofNames (names.dropLast ++ [taggedName (names.getLastD "") tag suffix])

/-- The tag of an attempt: the id of the file, later with a counter. -/
def attemptTag (fileId : String) (attempt : Nat) : String :=
  match attempt with
  | 0 => fileId
  | n + 1 => fileId ++ "-" ++ toString (n + 2)

/-- The first of some tagged attempts whose place is free; the last one if none of the others is. -/
def firstFreeAttempt (taken : List (List Component)) (place : Nat → Path) (attempt : Nat) :
    Nat → Path
  | 0 => place attempt
  | more + 1 =>
    if (place attempt).components ∈ taken then firstFreeAttempt taken place (attempt + 1) more
    else place attempt

/-- The first place for a snapshot that no earlier row has taken. -/
def firstFreeLocation (taken : List (List Component)) (relativePath fileId suffix : String) :
    Path :=
  let plain := snapshotLocation relativePath fileId suffix none
  if plain.components ∈ taken then
    firstFreeAttempt taken
      (fun attempt =>
        snapshotLocation relativePath fileId suffix (some (attemptTag fileId attempt)))
      0 taken.length
  else plain

/-! ## Static links -/

/-- A step of a path as a link shows it. -/
def stepText : Component → String
  | .root => "/"
  | .here => "."
  | .up => ".."
  | .name s => s

/-- The link from a report to a place below its snapshot directory. -/
def snapshotLink (directory : String) (location : Path) : String :=
  "file:///" ++ directory ++ String.join (location.components.map (fun c => "/" ++ stepText c))

end Tagging
