import Tagging.Url.Host

/-!
# Reading URLs

A text is a URL when it begins with a scheme.  Five schemes and that of files are well known: they
always have a host, or may have one, and their paths are normalised.

* `readScheme`, `SchemeKind` — schemes;
* `readUserinfo`, `readPort`, `readAuthority` — what follows two slashes;
* `normalSegments` — a path with its dots worked out;
* `Url.ofText` — the URL that a text stands for.
-/

namespace Tagging.Url

/-! ## Schemes -/

/-- Kinds of schemes. -/
inductive SchemeKind where
  /-- Files. -/
  | file
  /-- Well known, with a host. -/
  | special
  /-- Any other. -/
  | other
  deriving DecidableEq, Repr

/-- The kind of a scheme. -/
def schemeKind (scheme : List Char) : SchemeKind :=
  if scheme = "file".toList then .file
  else if scheme ∈ ["http", "https", "ws", "wss", "ftp"].map String.toList then .special
  else .other

/-- The usual port of a scheme. -/
def defaultPort? (scheme : List Char) : Option Nat :=
  [("http".toList, 80), ("https".toList, 443), ("ws".toList, 80), ("wss".toList, 443),
    ("ftp".toList, 21)].lookup scheme

/-- Is the character an ASCII letter? -/
def isLetter (c : Char) : Bool := ('a' ≤ c && c ≤ 'z') || ('A' ≤ c && c ≤ 'Z')

/-- Is the character an ASCII digit? -/
def isDecimal (c : Char) : Bool := '0' ≤ c && c ≤ '9'

/-- Characters of a scheme behind its first one. -/
def isSchemeChar (c : Char) : Bool := isLetter c || isDecimal c || c = '+' || c = '-' || c = '.'

/-- Takes a scheme and its colon. -/
def readScheme (cs : List Char) : Option (List Char × List Char) :=
  match cs with
  | c :: _ =>
    if isLetter c then
      match cs.dropWhile isSchemeChar with
      | ':' :: rest => some ((cs.takeWhile isSchemeChar).map Char.toLower, rest)
      | _ => none
    else none
  | [] => none

/-- The characters that matter: outer controls and blanks, and line ends and tabs anywhere, do
not. -/
def significant (cs : List Char) : List Char :=
  let outer := fun c : Char => c.toNat ≤ 0x20
  ((cs.dropWhile outer).reverse.dropWhile outer).reverse.filter
    (fun c => c ≠ '\t' && c ≠ '\n' && c ≠ '\r')

/-! ## Authorities -/

/-- Does the character end an authority? -/
def endsAuthority (special : Bool) (c : Char) : Bool :=
  c = '/' || c = '?' || c = '#' || (special && c = '\\')

/-- Cuts at the last occurrence of an at sign. -/
def cutLastAt (cs : List Char) : Option (List Char × List Char) :=
  match cs.reverse.dropWhile (fun c => c ≠ '@') with
  | _ :: before => some (before.reverse, (cs.reverse.takeWhile (fun c => c ≠ '@')).reverse)
  | [] => none

/-- User and password of what stands before the at sign; an empty password is none. -/
def readUserinfo (cs : List Char) : List Char × Option (List Char) :=
  let username := percentEncode userinfoSet (cs.takeWhile (fun c => c ≠ ':'))
  match cs.dropWhile (fun c => c ≠ ':') with
  | _ :: c :: rest => (username, some (percentEncode userinfoSet (c :: rest)))
  | _ => (username, none)

/-- Takes the host off the front: a colon ends it unless it is in brackets. -/
def takeHost (special inBrackets : Bool) : List Char → List Char × List Char
  | [] => ([], [])
  | c :: rest =>
    if (c = ':' && !inBrackets) || endsAuthority special c then ([], c :: rest)
    else
      let inside := if c = '[' then true else if c = ']' then false else inBrackets
      let (host, rest) := takeHost special inside rest
      (c :: host, rest)

/-- Reads the digits of a port. -/
def readPort (cs : List Char) : Except UrlError (Option Nat × List Char) :=
  let digits := cs.takeWhile isDecimal
  let rest := cs.dropWhile isDecimal
  let number := digits.foldl (fun n c => n * 10 + (c.toNat - 48)) 0
  if 65535 < number then .error .badPort
  else if rest.isEmpty || rest.head?.any (endsAuthority true) then
    .ok (if digits.isEmpty then none else some number, rest)
  else .error .badPort

/-- Reads host and port behind the at sign. -/
def readHostAndPort (scheme : List Char) (special : Bool) (cs : List Char) :
    Except UrlError (Option Host × Option Nat × List Char) := do
  let (hostText, rest) := takeHost special false cs
  if hostText.isEmpty && (special || rest.head? = some ':') then throw .emptyHost
  let host ←
    if hostText.isEmpty then pure none
    else if special then (hostOfText hostText).map some
    else (hostOfPlainText hostText).map some
  match rest with
  | ':' :: rest =>
    let (port, rest) ← readPort rest
    return (host, if port = defaultPort? scheme then none else port, rest)
  | _ => return (host, none, rest)

/-- Reads an authority behind its slashes. -/
def readAuthority (scheme : List Char) (special : Bool) (cs : List Char) :
    Except UrlError (Authority × List Char) := do
  let text := cs.takeWhile (fun c => !endsAuthority special c)
  let behind := cs.dropWhile (fun c => !endsAuthority special c)
  let (username, password, rest) ←
    match cutLastAt text with
    | none => pure ([], none, cs)
    | some ([], after) =>
      if after.isEmpty && !behind.isEmpty then throw .emptyHost
      else pure ([], none, after ++ behind)
    | some (userinfo, after) =>
      let (username, password) := readUserinfo userinfo
      pure (username, password, after ++ behind)
  let (host, port, rest) ← readHostAndPort scheme special rest
  if host.isNone && !(username.isEmpty && password.isNone) then throw .emptyHost
  return (⟨username, password, host, port⟩, rest)

/-! ## Paths -/

/-- Does the character stand between the segments of a path? -/
def isSlash (special : Bool) (c : Char) : Bool := c = '/' || (special && c = '\\')

/-- The stretches of a path between its slashes. -/
def cutSegments (special : Bool) : List Char → List (List Char)
  | [] => [[]]
  | c :: rest =>
    if isSlash special c then [] :: cutSegments special rest
    else match cutSegments special rest with
      | [] => [[c]]
      | piece :: more => (c :: piece) :: more

/-- A segment with its encoded dots as dots. -/
def plainDots : List Char → List Char
  | '%' :: '2' :: 'e' :: rest => '.' :: plainDots rest
  | '%' :: '2' :: 'E' :: rest => '.' :: plainDots rest
  | c :: rest => c :: plainDots rest
  | [] => []

/-- A letter and a colon. -/
def isDriveName (cs : List Char) : Bool :=
  match cs with
  | [c, ':'] => isLetter c
  | _ => false

/-- The segments without the last one; the drive of a file stays. -/
def dropSegment (file : Bool) (done : List (List Char)) : List (List Char) :=
  match done with
  | [only] => if file && isDriveName only then done else []
  | _ => done.dropLast

/-- A letter and a bar name a drive at the beginning of a file's path. -/
def driveSegment (file : Bool) (done : List (List Char)) (segment : List Char) : List Char :=
  match file, done, segment with
  | true, [], [c, '|'] => if isLetter c then [c, ':'] else segment
  | _, _, _ => segment

/-- Works out the dots of a path: a single dot is left out, a double dot takes the segment before
it away, and either leaves an empty segment at the end. -/
def normalSegments (file : Bool) (done : List (List Char)) : List (List Char) → List (List Char)
  | [] => done
  | segment :: rest =>
    let last := rest.isEmpty
    if plainDots segment = ['.', '.'] then
      let shorter := dropSegment file done
      normalSegments file (if last then shorter ++ [[]] else shorter) rest
    else if plainDots segment = ['.'] then
      normalSegments file (if last then done ++ [[]] else done) rest
    else
      normalSegments file
        (done ++ [driveSegment file done (percentEncode pathSet segment)]) rest

/-- The path of a file without empty segments in front. -/
def withoutEmptyFront : List (List Char) → List (List Char)
  | [] :: p :: rest => withoutEmptyFront (p :: rest)
  | parts => parts

/-- The segments of a path that may begin with a slash. -/
def readPath (kind : SchemeKind) (cs : List Char) : List (List Char) :=
  let special := kind ≠ .other
  let cs := match cs with
    | c :: rest => if isSlash special c then rest else c :: rest
    | [] => []
  let parts := normalSegments (kind = .file) [] (cutSegments special cs)
  if kind = .file then withoutEmptyFront parts else parts

/-! ## Whole URLs -/

/-- Does the character end a path? -/
def endsPath (c : Char) : Bool := c = '?' || c = '#'

/-- Reads the query and the fragment that end a URL. -/
def readTail (special : Bool) (cs : List Char) : Option (List Char) × Option (List Char) :=
  let fragmentOf := fun rest : List Char =>
    match rest with
    | _ :: f => some (percentEncode fragmentSet f)
    | [] => none
  match cs with
  | '?' :: rest =>
    (some (percentEncode (if special then specialQuerySet else querySet)
      (rest.takeWhile (fun c => c ≠ '#'))), fragmentOf (rest.dropWhile (fun c => c ≠ '#')))
  | rest => (none, fragmentOf rest)

/-- The URL of a scheme, an authority, and a path with what follows it. -/
def assemble (scheme : List Char) (authority : Option Authority) (path : List Char → UrlPath)
    (rest : List Char) : Url :=
  let (query, fragment) :=
    readTail (schemeKind scheme ≠ .other) (rest.dropWhile (fun c => !endsPath c))
  ⟨scheme, authority, path (rest.takeWhile (fun c => !endsPath c)), query, fragment⟩

/-- Is the text a letter and a colon or bar? -/
def isDriveText (cs : List Char) : Bool :=
  match cs with
  | [c, d] => isLetter c && (d = ':' || d = '|')
  | _ => false

/-- The host of a file; the machine itself needs none. -/
def fileHost (cs : List Char) : Except UrlError (Option Host) := do
  if cs.isEmpty then return none
  let host ← hostOfText cs
  return if host = .domain "localhost".toList then none else some host

/-- Reads the URL of a file behind its scheme. -/
def readFile (scheme : List Char) (cs : List Char) : Except UrlError Url := do
  let path := fun cs => UrlPath.segments (readPath .file cs)
  let own : Option Authority := some ⟨[], none, none, none⟩
  match cs with
  | a :: b :: rest =>
    if isSlash true a && isSlash true b then
      let hostText := rest.takeWhile (fun c => !endsAuthority true c)
      if isDriveText hostText then return assemble scheme own path rest
      let host ← fileHost hostText
      let url := assemble scheme (some ⟨[], none, host, none⟩) path
        (rest.dropWhile (fun c => !endsAuthority true c))
      let startsWithDrive := match url.path with
        | .segments (p :: _) => isDriveName p
        | _ => false
      return if startsWithDrive then { url with authority := own } else url
    else return assemble scheme own path cs
  | _ => return assemble scheme own path cs

/-- Reads a URL of a scheme that is not well known. -/
def readOther (scheme : List Char) (cs : List Char) : Except UrlError Url :=
  match cs with
  | '/' :: '/' :: rest => do
    let (authority, rest) ← readAuthority scheme false rest
    return assemble scheme (some authority)
      (fun cs => .segments (if cs.isEmpty then [] else readPath .other cs)) rest
  | '/' :: _ => .ok (assemble scheme none (fun cs => .segments (readPath .other cs)) cs)
  | _ => .ok (assemble scheme none (fun cs => .plain (percentEncode controlSet cs)) cs)

/-- Reads a URL behind its scheme. -/
def readRest (scheme : List Char) (cs : List Char) : Except UrlError Url :=
  match schemeKind scheme with
  | .file => readFile scheme cs
  | .special => do
    let (authority, rest) ← readAuthority scheme true (cs.dropWhile (isSlash true))
    return assemble scheme (some authority) (fun cs => .segments (readPath .special cs)) rest
  | .other => readOther scheme cs

/-- The URL that a text stands for. -/
def ofText (s : String) : Except UrlError Url :=
  match readScheme (significant s.toList) with
  | some (scheme, rest) => readRest scheme rest
  | none => .error .noScheme

end Tagging.Url
