import Tagging.Corpus.Basic
import Tagging.FileTree
import Tagging.Json
import Tagging.Text.Blank

/-!
# Corpus files

A corpus file holds one document a line, as an object with the document's parts by name, or as an
array with its parts in order.  Blank lines are passed over.

* `lines` — the lines of a text;
* `Document.ofJson?` — the document that a value stands for;
* `CorpusFileError`, `Corpus.ofText` — the corpus of a text, or the first line that is none.
-/

namespace Tagging

/-- The characters without one carriage return at their end. -/
def dropReturn (cs : List Char) : List Char :=
  match cs.reverse with
  | '\r' :: rest => rest.reverse
  | _ => cs

/-- The lines of a text, without their ends; nothing follows the last line end. -/
def lines (text : String) : List String :=
  let parts := Text.cutAt (fun c => c = '\n') text.toList
  let parts := if parts.getLast? = some [] then parts.dropLast else parts
  parts.map (fun cs => String.ofList (dropReturn cs))

/-- The text of a string value. -/
def JsonValue.text? : JsonValue → Option String
  | .string text => text
  | _ => none

/-- The value of a member that occurs exactly once; `some none` if there is none. -/
def uniqueMember? (name : String) (members : List (Option String × JsonValue)) :
    Option (Option JsonValue) :=
  match members.filter (fun m => m.1 = some name) with
  | [] => some none
  | [m] => some (some m.2)
  | _ => none

/-- Every member with its name and its text. -/
def textMembers? : List (Option String × JsonValue) → Option (List (String × String))
  | [] => some []
  | (name, value) :: rest =>
    match name, value.text?, textMembers? rest with
    | some n, some t, some ms => some ((n, t) :: ms)
    | _, _, _ => none

/-- The texts of an object's members by name; of one name the last counts. -/
def fieldsOfJson? : JsonValue → Option (List (String × String))
  | .object members => (textMembers? members).map sortFields
  | _ => none

/-- A document from its three required parts and its fields, which may be missing. -/
def documentOfParts? (fileId displayName relativePath : Option JsonValue)
    (fields : Option JsonValue) : Option Document :=
  match fileId.bind JsonValue.text?, displayName.bind JsonValue.text?,
      relativePath.bind JsonValue.text?,
      (match fields with | none => some [] | some v => fieldsOfJson? v) with
  | some f, some d, some r, some fs => some ⟨f, d, r, fs⟩
  | _, _, _, _ => none

/-- The document that a value stands for.  Unknown members mean nothing, but every name must be a
text, and none of the known ones may be repeated. -/
def Document.ofJson? : JsonValue → Option Document
  | .object members =>
    if members.any (fun m => m.1 = none) then none
    else match uniqueMember? "file_id" members, uniqueMember? "display_name" members,
        uniqueMember? "relative_path" members, uniqueMember? "fields" members with
    | some f, some d, some r, some fs => documentOfParts? f d r fs
    | _, _, _, _ => none
  | .array [f, d, r] => documentOfParts? (some f) (some d) (some r) none
  | .array [f, d, r, fs] => documentOfParts? (some f) (some d) (some r) (some fs)
  | _ => none

/-- Why a file is no corpus. -/
inductive CorpusFileError where
  /-- The file is not there, or holds no text. -/
  | unreadable (path : Path)
  /-- The line, counted from one, is no document. -/
  | badLine (number : Nat)
  deriving Repr, DecidableEq, Inhabited

/-- The failure as it is shown. -/
def CorpusFileError.message : CorpusFileError → String
  | unreadable path => "Failed to read corpus at " ++ Text.quoted path.text ++ "."
  | badLine number => "Invalid corpus line " ++ toString number ++ "."

/-- The documents of lines that are counted from `number`. -/
def documentsFrom (number : Nat) : List String → Except CorpusFileError (List Document)
  | [] => .ok []
  | line :: rest =>
    if Text.isBlankText line then documentsFrom (number + 1) rest
    else match (JsonValue.ofText? line).bind Document.ofJson? with
      | none => .error (.badLine number)
      | some d =>
        match documentsFrom (number + 1) rest with
        | .error e => .error e
        | .ok ds => .ok (d :: ds)

/-- The corpus that a text holds. -/
def Corpus.ofText (text : String) : Except CorpusFileError Corpus :=
  match documentsFrom 1 (lines text) with
  | .ok ds => .ok (Corpus.ofDocuments ds)
  | .error e => .error e

end Tagging
