import Tagging.Config.Validate

/-!
# Arguments

The words behind the name of the program: options with one value each, in any order and each at
most once, and two flags that ask for a text instead of a run.

* `Parameter`, `Flag`, `Target` — what a word can name;
* `Word`, `Word.ofText` — what a word looks like;
* `Draft`, `Draft.set` — the values so far;
* `Arguments`, `Arguments.ofWords` — all values, or why there are none.
-/

namespace Tagging

/-- Options that take a value. -/
inductive Parameter where
  /-- The settings file. -/
  | config
  /-- The query set. -/
  | queries
  /-- The documents. -/
  | corpus
  /-- Another place for the report. -/
  | output
  /-- Another report mode. -/
  | mode
  /-- Another number of rows. -/
  | topN
  deriving Repr, DecidableEq, Inhabited

/-- Options that take none and ask for a text. -/
inductive Flag where
  /-- How the program is used. -/
  | help
  /-- Which version it is. -/
  | version
  deriving Repr, DecidableEq, Inhabited

/-- What an option names. -/
inductive Target where
  /-- An option with a value. -/
  | parameter (p : Parameter)
  /-- An option without a value. -/
  | flag (f : Flag)
  deriving Repr, DecidableEq, Inhabited

/-- Why words do not make arguments; two of the reasons are that a text is asked for. -/
inductive UsageFault where
  /-- An option that is needed is not there. -/
  | missingRequired
  /-- An option lacks its value, or has one that is no choice. -/
  | invalidValue
  /-- A value is not of the right kind. -/
  | valueValidation
  /-- A word names no option and belongs to none. -/
  | unknownArgument
  /-- An option is given twice. -/
  | repeated
  /-- An option that takes no value has one. -/
  | unneededValue
  /-- The text on how the program is used is asked for. -/
  | helpWanted
  /-- The version is asked for. -/
  | versionWanted
  deriving Repr, DecidableEq, Inhabited

namespace UsageFault

/-- With what the program exits. -/
def exitCode : UsageFault → Nat
  | helpWanted | versionWanted => 0
  | _ => 2

/-- What the program says. -/
def message : UsageFault → String
  | missingRequired => "The options --config, --queries and --corpus are required."
  | invalidValue => "An option lacks its value, or has a value that it cannot have."
  | valueValidation => "A value is not of the right kind."
  | unknownArgument => "Unexpected argument."
  | repeated => "An option is given more than once."
  | unneededValue => "An option that takes no value is given one."
  | helpWanted =>
    "Options: -c, --config FILE; -q, --queries FILE; --corpus FILE; -o, --output FILE; " ++
      "--mode live|static; --top-n ROWS; -h, --help; -V, --version"
  | versionWanted => "1.0.0"

end UsageFault

/-! ## Words -/

/-- What a long name stands for. -/
def Target.ofLong? : String → Option Target
  | "config" => some (.parameter .config)
  | "queries" => some (.parameter .queries)
  | "corpus" => some (.parameter .corpus)
  | "output" => some (.parameter .output)
  | "mode" => some (.parameter .mode)
  | "top-n" => some (.parameter .topN)
  | "help" => some (.flag .help)
  | "version" => some (.flag .version)
  | _ => none

/-- What a letter stands for. -/
def Target.ofShort? : Char → Option Target
  | 'c' => some (.parameter .config)
  | 'q' => some (.parameter .queries)
  | 'o' => some (.parameter .output)
  | 'h' => some (.flag .help)
  | 'V' => some (.flag .version)
  | _ => none

/-- What a word looks like. -/
inductive Word where
  /-- Two hyphens: no option follows. -/
  | endOfOptions
  /-- An option with the value that is attached to it. -/
  | option (target : Option Target) (value : Option String)
  /-- Anything else. -/
  | plain (s : String)
  deriving Repr, DecidableEq, Inhabited

namespace Word

/-- The value behind the letter of an option, without an equals sign before it. -/
def attachedToShort : List Char → Option String
  | [] => none
  | '=' :: rest => some (String.ofList rest)
  | rest => some (String.ofList rest)

/-- A long option: its name up to the first equals sign, and its value behind it. -/
def ofLong (cs : List Char) : Word :=
  let target := Target.ofLong? (String.ofList (cs.takeWhile (· ≠ '=')))
  match cs.dropWhile (· ≠ '=') with
  | [] => option target none
  | _ :: value => option target (some (String.ofList value))

/-- A short option: a letter and its value.  A letter without a value that others follow decides
alone, since each such letter asks for a text. -/
def ofShort (c : Char) (rest : List Char) : Word :=
  match Target.ofShort? c with
  | some (.flag f) => option (some (.flag f)) none
  | target => option target (attachedToShort rest)

/-- What a word looks like; a single hyphen is no option. -/
def ofText (s : String) : Word :=
  match s.toList with
  | ['-', '-'] => endOfOptions
  | '-' :: '-' :: cs => ofLong cs
  | '-' :: c :: rest => ofShort c rest
  | _ => plain s

end Word

/-! ## Values -/

/-- The values so far. -/
structure Draft where
  /-- The settings file. -/
  config : Option Path
  /-- The query set. -/
  queries : Option Path
  /-- The documents. -/
  corpus : Option Path
  /-- Another place for the report. -/
  output : Option Path
  /-- Another report mode. -/
  mode : Option String
  /-- Another number of rows. -/
  topN : Option Nat
  deriving Repr, DecidableEq, Inhabited

/-- The greatest number of rows that can be asked for. -/
def maxTopN : Nat := Nat.pow 2 32 - 1

/-- The number that some digits stand for. -/
def digitsValue? (cs : List Char) : Option Nat :=
  if !cs.isEmpty && cs.all Char.isDigit then
    some (cs.foldl (fun n c => n * 10 + (c.toNat - '0'.toNat)) 0)
  else none

/-- A number of rows in base ten, with or without a sign. -/
def rowCount? (s : String) : Option Nat :=
  match s.toList with
  | '-' :: cs => (digitsValue? cs).filter (fun n => n = 0)
  | '+' :: cs => (digitsValue? cs).filter (fun n => n ≤ maxTopN)
  | cs => (digitsValue? cs).filter (fun n => n ≤ maxTopN)

/-- A path that is not empty. -/
def pathValue (s : String) : Except UsageFault Path :=
  if s = "" then .error .invalidValue else .ok ⟨s⟩

/-- The name of a report mode. -/
def modeValue (s : String) : Except UsageFault String :=
  if s ∈ reportModes then .ok s else .error .invalidValue

/-- A number of rows. -/
def rowsValue (s : String) : Except UsageFault Nat :=
  match rowCount? s with
  | some n => .ok n
  | none => .error .valueValidation

namespace Draft

/-- No value yet. -/
def empty : Draft := ⟨none, none, none, none, none, none⟩

/-- Is there a value for the option? -/
def has (d : Draft) : Parameter → Bool
  | .config => d.config.isSome
  | .queries => d.queries.isSome
  | .corpus => d.corpus.isSome
  | .output => d.output.isSome
  | .mode => d.mode.isSome
  | .topN => d.topN.isSome

/-- The values with one more, which the option has to accept. -/
def put (d : Draft) (p : Parameter) (value : String) : Except UsageFault Draft :=
  match p with
  | .config => (pathValue value).map (fun x => { d with config := some x })
  | .queries => (pathValue value).map (fun x => { d with queries := some x })
  | .corpus => (pathValue value).map (fun x => { d with corpus := some x })
  | .output => (pathValue value).map (fun x => { d with output := some x })
  | .mode => (modeValue value).map (fun x => { d with mode := some x })
  | .topN => (rowsValue value).map (fun x => { d with topN := some x })

/-- The values with one more, for an option that has none. -/
def set (d : Draft) (p : Parameter) (value : String) : Except UsageFault Draft :=
  if d.has p then .error .repeated else d.put p value

/-- An option that is not taken in yet, with its value if that has come. -/
abbrev Pending := Option (Parameter × Option String)

/-- Takes in the option that is pending; it needs its value. -/
def take (d : Draft) : Pending → Except UsageFault Draft
  | none => .ok d
  | some (_, none) => .error .invalidValue
  | some (p, some value) => d.set p value

end Draft

/-! ## Arguments -/

/-- What the program is to work with. -/
structure Arguments where
  /-- The settings file. -/
  config : Path
  /-- The query set. -/
  queries : Path
  /-- The documents. -/
  corpus : Path
  /-- Another place for the report. -/
  output : Option Path
  /-- Another report mode. -/
  mode : Option String
  /-- Another number of rows; zero for all. -/
  topN : Option Nat
  deriving Repr, DecidableEq, Inhabited

/-- The fault by which a flag asks for its text. -/
def Flag.wanted : Flag → UsageFault
  | help => .helpWanted
  | version => .versionWanted

/-- Reads words into values.  An option is taken in when the next one comes, or at the end; a word
that is out of place is reported before an option that waits. -/
def readWords (d : Draft) (pending : Draft.Pending) : List String → Except UsageFault Draft
  | [] => d.take pending
  | s :: rest =>
    match Word.ofText s with
    | .endOfOptions => if rest.isEmpty then d.take pending else .error .unknownArgument
    | .option none _ => .error .unknownArgument
    | .option (some (.flag f)) none =>
      match d.take pending with
      | .ok _ => .error f.wanted
      | .error e => .error e
    | .option (some (.flag _)) (some _) => .error .unneededValue
    | .option (some (.parameter p)) none =>
      match d.take pending with
      | .ok d => readWords d (some (p, none)) rest
      | .error e => .error e
    | .option (some (.parameter p)) (some value) =>
      match d.take pending with
      | .error e => .error e
      | .ok d =>
        match d.set p value with
        | .ok d => readWords d none rest
        | .error e => .error e
    | .plain value =>
      match pending with
      | some (p, none) => readWords d (some (p, some value)) rest
      | _ => .error .unknownArgument

namespace Arguments

/-- The arguments, if all that is required is there. -/
def ofDraft (d : Draft) : Except UsageFault Arguments :=
  match d.config, d.queries, d.corpus with
  | some config, some queries, some corpus =>
    .ok ⟨config, queries, corpus, d.output, d.mode, d.topN⟩
  | _, _, _ => .error .missingRequired

/-- The arguments that the words behind the name of the program stand for. -/
def ofWords (words : List String) : Except UsageFault Arguments :=
  match readWords Draft.empty none words with
  | .ok d => ofDraft d
  | .error e => .error e

/-- The settings with what the arguments say about the report in place of what they say
themselves. -/
def override (a : Arguments) (s : Settings) : Settings :=
  { s with report := { s.report with
      output := a.output.getD s.report.output
      mode := a.mode.getD s.report.mode
      topN := match a.topN with
        | some n => nonZero n
        | none => s.report.topN } }

end Arguments

end Tagging
