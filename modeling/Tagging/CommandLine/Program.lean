import Tagging.CommandLine.Arguments
import Tagging.Corpus.Load
import Tagging.Run.Execute

/-!
# The program

Everything from the arguments to the report, over the files of a workspace.

* `ProgramFault` — why the program comes to no good end;
* `Program.settings`, `Program.queries`, `Program.corpus` — its input;
* `Program.prepare` — the run that the input asks for;
* `Program.run`, `Program.exitCode` — the whole program, and what it ends with.
-/

namespace Tagging

/-- Why the program comes to no good end. -/
inductive ProgramFault where
  /-- The settings or the queries cannot be used. -/
  | config (e : ConfigError)
  /-- The documents cannot be used. -/
  | corpus (e : CorpusFileError)
  /-- The run cannot be set up, or fails. -/
  | failure (e : Failure)
  deriving Repr, DecidableEq, Inhabited

/-- The fault as it is shown. -/
def ProgramFault.message : ProgramFault → String
  | config e => e.message
  | corpus e => e.message
  | failure e => e.message

namespace Program

/-- The text of a file. -/
def textOf (tree : FileTree Content) (path : Path) : Option String :=
  match tree.read? path with
  | some (.text s) => some s
  | _ => none

/-- The settings with what the arguments say in place of what they say themselves. -/
def settings (a : Arguments) (tree : FileTree Content) : Except ProgramFault Settings :=
  match Settings.load a.config (textOf tree a.config) with
  | .ok s => .ok (a.override s)
  | .error e => .error (.config e)

/-- The queries. -/
def queries (a : Arguments) (tree : FileTree Content) : Except ProgramFault (List NamedQuery) :=
  match loadQuerySet a.queries (textOf tree a.queries) with
  | .ok qs => .ok qs
  | .error e => .error (.config e)

/-- The documents. -/
def corpus (a : Arguments) (tree : FileTree Content) : Except ProgramFault Corpus :=
  match textOf tree a.corpus with
  | none => .error (.corpus (.unreadable a.corpus))
  | some text =>
    match Corpus.ofText text with
    | .ok c => .ok c
    | .error e => .error (.corpus e)

/-- What renders the snapshots of a report. -/
def rendererFor : ReportMode → Option Renderer
  | .live _ => none
  | .static _ => some .highlighting

/-- The run over some documents that settings ask for. -/
def runFor (s : Settings) (queries : List NamedQuery) (index : SearchIndex) :
    Except RequestFault Run :=
  match ReportOptions.ofSettings s.report with
  | .error e => .error e
  | .ok report =>
    match Writer.new report index (rendererFor report.mode) with
    | .error e => .error e
    | .ok writer =>
      match RunOptions.ofSettings s with
      | .error e => .error e
      | .ok options => Run.new queries index options writer

/-- The run that the arguments ask for. -/
def prepare (a : Arguments) (tree : FileTree Content) : Except ProgramFault Run :=
  match settings a tree with
  | .error e => .error e
  | .ok s =>
    match queries a tree with
    | .error e => .error e
    | .ok qs =>
      match corpus a tree with
      | .error e => .error e
      | .ok c =>
        match runFor s qs c.index with
        | .error e => .error (.failure (.request e))
        | .ok r => .ok r

/-- The whole program. -/
def run (a : Arguments) (env : Environment) (w : Workspace) :
    Workspace × Except ProgramFault Summary :=
  match prepare a w.tree with
  | .error e => (w, .error e)
  | .ok r =>
    match r.execute env w with
    | (_, w, .ok summary) => (w, .ok summary)
    | (_, w, .error e) => (w, .error (.failure e))

/-- What the program ends with: zero if all went well, else one, or 101 after a breakdown. -/
def exitCode {α : Type} : Except ProgramFault α → Nat
  | .ok _ => 0
  | .error (.failure .breakdown) => 101
  | .error _ => 1

end Program

end Tagging
