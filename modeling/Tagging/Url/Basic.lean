import Tagging.Url.Percent

/-!
# URLs

A URL in its parts, each already in its written form, and the text that the parts make.

* `UrlError` — why a text is no URL;
* `Host`, `Authority`, `UrlPath`, `Url` — the parts;
* `Host.text`, `Url.text` — the written form;
* `Url.appendPair` — a URL with one more pair in its query.
-/

namespace Tagging

/-- Why a text is no URL. -/
inductive UrlError where
  /-- There is no scheme. -/
  | noScheme
  /-- A host is needed and missing. -/
  | emptyHost
  /-- The port is no number below 65536. -/
  | badPort
  /-- The host ends in a number but is no address of four parts. -/
  | badIpv4
  /-- The host is in brackets but no address of eight parts. -/
  | badIpv6
  /-- The host is no domain. -/
  | badDomain
  /-- The host holds a character that no host can hold. -/
  | badHostCharacter
  deriving DecidableEq, Repr, Inhabited

/-- The failure as it is shown. -/
def UrlError.message : UrlError → String
  | noScheme => "relative URL without a base"
  | emptyHost => "empty host"
  | badPort => "invalid port number"
  | badIpv4 => "invalid IPv4 address"
  | badIpv6 => "invalid IPv6 address"
  | badDomain => "invalid international domain name"
  | badHostCharacter => "invalid domain character"

/-- The host of a URL. -/
inductive Host where
  /-- A name. -/
  | domain (name : List Char)
  /-- An address of 32 bits. -/
  | ipv4 (address : Nat)
  /-- An address of eight parts of 16 bits. -/
  | ipv6 (parts : List Nat)
  deriving DecidableEq, Repr, Inhabited

namespace Host

/-- The four bytes of an address with points between them. -/
def ipv4Text (address : Nat) : List Char :=
  let byte := fun place => Nat.toDigits 10 (address / Nat.pow 256 place % 256)
  byte 3 ++ '.' :: byte 2 ++ '.' :: byte 1 ++ '.' :: byte 0

/-- How many parts from here on are zero. -/
def zeroRun : List Nat → Nat
  | 0 :: rest => zeroRun rest + 1
  | _ => 0

/-- The first of the longest runs of zeros: where it begins and how long it is. -/
def longestRun (position : Nat) : List Nat → Nat × Nat
  | [] => (position, 0)
  | p :: rest =>
    let here := zeroRun (p :: rest)
    let later := longestRun (position + 1) rest
    if later.2 ≤ here then (position, here) else later

/-- Parts in base sixteen with colons between them. -/
def partsText : List Nat → List Char
  | [] => []
  | [p] => Nat.toDigits 16 p
  | p :: rest => Nat.toDigits 16 p ++ ':' :: partsText rest

/-- Eight parts, with the longest run of two or more zeros left out. -/
def ipv6Text (parts : List Nat) : List Char :=
  let (start, length) := longestRun 0 parts
  if length < 2 then partsText parts
  else partsText (parts.take start) ++ ':' :: ':' :: partsText (parts.drop (start + length))

/-- The host as it is written. -/
def text : Host → List Char
  | domain name => name
  | ipv4 address => ipv4Text address
  | ipv6 parts => '[' :: ipv6Text parts ++ [']']

end Host

/-- What follows the two slashes of a URL. -/
structure Authority where
  /-- The name of a user. -/
  username : List Char
  /-- The password of the user. -/
  password : Option (List Char)
  /-- The host; some schemes can do without. -/
  host : Option Host
  /-- The port, unless it is the usual one. -/
  port : Option Nat
  deriving DecidableEq, Repr, Inhabited

/-- The path of a URL. -/
inductive UrlPath where
  /-- Segments, each after a slash. -/
  | segments (parts : List (List Char))
  /-- A path without a slash at its beginning. -/
  | plain (text : List Char)
  deriving DecidableEq, Repr, Inhabited

/-- A URL. -/
structure Url where
  /-- The scheme. -/
  scheme : List Char
  /-- What follows two slashes, if there are any. -/
  authority : Option Authority
  /-- The path. -/
  path : UrlPath
  /-- What follows the question mark. -/
  query : Option (List Char)
  /-- What follows the number sign. -/
  fragment : Option (List Char)
  deriving DecidableEq, Repr, Inhabited

namespace Authority

/-- User and password before a host. -/
def credentials (a : Authority) : List Char :=
  match a.password with
  | some password => a.username ++ ':' :: password ++ ['@']
  | none => if a.username = [] then [] else a.username ++ ['@']

/-- The authority as it is written. -/
def text (a : Authority) : List Char :=
  a.credentials ++ (a.host.map Host.text).getD [] ++
    (match a.port with | some p => ':' :: Nat.toDigits 10 p | none => [])

end Authority

namespace Url

/-- Segments, each after a slash. -/
def segmentsText (parts : List (List Char)) : List Char := parts.flatMap (fun p => '/' :: p)

/-- The path as it is written.  Without an authority, a path that begins with two slashes needs a
dot in front, lest it be taken for one. -/
def pathText (u : Url) : List Char :=
  match u.path with
  | .plain text => text
  | .segments parts =>
    match u.authority, parts with
    | none, [] :: _ :: _ => '/' :: '.' :: segmentsText parts
    | _, _ => segmentsText parts

/-- What stands before the query. -/
def front (u : Url) : List Char :=
  u.scheme ++ ':' :: (match u.authority with | some a => '/' :: '/' :: a.text | none => []) ++
    u.pathText

/-- The URL as it is written. -/
def chars (u : Url) : List Char :=
  u.front ++ (match u.query with | some q => '?' :: q | none => []) ++
    (match u.fragment with | some f => '#' :: f | none => [])

/-- The URL as a text. -/
def text (u : Url) : String := String.ofList u.chars

/-- A pair of a form. -/
def pairText (name value : String) : List Char := formEncode name ++ '=' :: formEncode value

/-- A query with one more pair. -/
def withPair (query : List Char) (name value : String) : List Char :=
  if query = [] then pairText name value else query ++ '&' :: pairText name value

/-- The URL with one more pair at the end of its query. -/
def appendPair (u : Url) (name value : String) : Url :=
  { u with query := some (withPair (u.query.getD []) name value) }

end Url

end Tagging
