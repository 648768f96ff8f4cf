import Tagging.Url.Basic
import Tagging.Url.Domain

/-!
# Reading hosts

The host of a URL is a name, or an address in one of the two forms.  A name that ends in a number
has to be an address.

* `readIpv4Number`, `ipv4OfDomain` — addresses of four numbers, of which the last fills the rest;
* `readIpv6` — addresses of eight parts in brackets;
* `hostOfText`, `hostOfPlainText` — the host of a well-known scheme, and of any other.
-/

namespace Tagging.Url

/-! ## Addresses of 32 bits -/

/-- The number that digits stand for, nothing if one of them is no digit of the base. -/
def digitsIn? (base : Nat) (cs : List Char) : Option Nat :=
  cs.foldl (fun n c => match n, hexValue? c with
    | some n, some d => if d < base then some (n * base + d) else none
    | _, _ => none) (some 0)

/-- A number of an address: after `0x` in base sixteen, after `0` in base eight. -/
def ipv4Number? : List Char → Option Nat
  | [] => none
  | '0' :: 'x' :: rest => digitsIn? 16 rest
  | '0' :: 'X' :: rest => digitsIn? 16 rest
  | ['0'] => some 0
  | '0' :: rest => digitsIn? 8 rest
  | cs => digitsIn? 10 cs

/-- The parts of a name between points, without an empty one at the end. -/
def domainParts (name : List Char) : List (List Char) :=
  let parts := cutAtChar '.' name
  if parts.getLast? = some [] then parts.dropLast else parts

/-- Is the last part of a name a number? -/
def endsInNumber (name : List Char) : Bool :=
  match (domainParts name).getLast? with
  | none => false
  | some last =>
    (!last.isEmpty && last.all (fun c => '0' ≤ c && c ≤ '9')) || (ipv4Number? last).isSome

/-- All the values, if there are as many as parts. -/
def allNumbers? : List (List Char) → Option (List Nat)
  | [] => some []
  | part :: rest =>
    match ipv4Number? part, allNumbers? rest with
    | some n, some ns => some (n :: ns)
    | _, _ => none

/-- The address of up to four numbers: all but the last are bytes, the last fills the rest. -/
def ipv4OfNumbers? (numbers : List Nat) : Option Nat :=
  match numbers.reverse with
  | [] => none
  | last :: front =>
    let bytes := front.reverse
    if 4 < numbers.length || bytes.any (fun b => 255 < b) ||
        Nat.pow 2 (32 - 8 * bytes.length) ≤ last then none
    else
      some (bytes.zipIdx.foldl (fun sum (b, i) => sum + b * Nat.pow 2 (8 * (3 - i))) last)

/-- The address that a name stands for. -/
def ipv4OfDomain (name : List Char) : Except UrlError Nat :=
  match (allNumbers? (domainParts name)).bind ipv4OfNumbers? with
  | some address => .ok address
  | none => .error .badIpv4

/-! ## Addresses of 128 bits -/

/-- A byte in base ten, without a zero in front. -/
def decimalByte? (cs : List Char) : Option Nat :=
  match cs with
  | [] => none
  | ['0'] => some 0
  | '0' :: _ => none
  | cs => if 3 < cs.length then none else (digitsIn? 10 cs).bind (fun n => if n < 256 then some n else none)

/-- The last two parts of an address, written as four bytes. -/
def lastParts? (cs : List Char) : Option (List Nat) :=
  match cutAtChar '.' cs with
  | [a, b, c, d] =>
    match decimalByte? a, decimalByte? b, decimalByte? c, decimalByte? d with
    | some a, some b, some c, some d => some [a * 256 + b, c * 256 + d]
    | _, _, _, _ => none
  | _ => none

/-- A part of up to four digits. -/
def ipv6Part? (cs : List Char) : Option Nat :=
  if cs.isEmpty || 4 < cs.length then none else digitsIn? 16 cs

/-- The parts between colons; the last one may stand for two. -/
def ipv6Parts? : List (List Char) → Option (List Nat)
  | [] => some []
  | [last] =>
    if '.' ∈ last then lastParts? last else (ipv6Part? last).map (fun n => [n])
  | part :: rest =>
    match ipv6Part? part, ipv6Parts? rest with
    | some n, some ns => some (n :: ns)
    | _, _ => none

/-- The parts that a stretch of an address stands for, none if it is empty. -/
def ipv6Stretch? (cs : List Char) : Option (List Nat) :=
  if cs.isEmpty then some [] else ipv6Parts? (cutAtChar ':' cs)

/-- Cuts at the first two colons in a row. -/
def cutDoubleColon : List Char → Option (List Char × List Char)
  | ':' :: ':' :: rest => some ([], rest)
  | c :: rest => (cutDoubleColon rest).map (fun (a, b) => (c :: a, b))
  | [] => none

/-- The eight parts of an address; two colons in a row stand for one or more zeros. -/
def readIpv6 (cs : List Char) : Except UrlError (List Nat) :=
  match cutDoubleColon cs with
  | none =>
    match ipv6Stretch? cs with
    | some parts => if parts.length = 8 then .ok parts else .error .badIpv6
    | none => .error .badIpv6
  | some (before, behind) =>
    match ipv6Stretch? before, ipv6Stretch? behind with
    | some a, some b =>
      if '.' ∉ before && a.length + b.length < 8 then
        .ok (a ++ List.replicate (8 - a.length - b.length) 0 ++ b)
      else .error .badIpv6
    | _, _ => .error .badIpv6

/-! ## Hosts -/

/-- The address in brackets. -/
def bracketed (rest : List Char) : Except UrlError Host :=
  if rest.getLast? = some ']' then
    match readIpv6 rest.dropLast with
    | .ok parts => .ok (.ipv6 parts)
    | .error e => .error e
  else .error .badIpv6

/-- The host of a well-known scheme. -/
def hostOfText (cs : List Char) : Except UrlError Host :=
  match cs with
  | '[' :: rest => bracketed rest
  | _ =>
    match domainToAscii (percentDecode cs) with
    | none => .error .badDomain
    | some [] => .error .emptyHost
    | some name =>
      if endsInNumber name then
        match ipv4OfDomain name with
        | .ok address => .ok (.ipv4 address)
        | .error e => .error e
      else .ok (.domain name)

/-- Characters that no host can hold. -/
def isForbiddenInHost (c : Char) : Bool :=
  c = '\x00' || c = '\t' || c = '\n' || c = '\r' || c = ' ' || c = '#' || c = '/' || c = ':' ||
    c = '<' || c = '>' || c = '?' || c = '@' || c = '[' || c = '\\' || c = ']' || c = '^' || c = '|'

/-- The host of any other scheme. -/
def hostOfPlainText (cs : List Char) : Except UrlError Host :=
  match cs with
  | '[' :: rest => bracketed rest
  | _ =>
    if cs.any isForbiddenInHost then .error .badHostCharacter
    else .ok (.domain (percentEncode controlSet cs))

end Tagging.Url
