/-!
# Doubles

A double is kept as its 64 bits, so that what is not a number keeps its sign and payload, which
decide its place in the total order.  Numbers are computed as the machine computes them.

* `Double`, `Double.ofFloat`, `Double.value` — doubles and what their bits stand for;
* `Double.add` — sums, also of what is not a number;
* `Number.orderKey` — the total order in which every bit pattern has its place;
* `Decoded`, `decode` — sign, mantissa and power of two of a finite double;
* `roundDiv` — a quotient rounded to the nearest whole number, ties to the even one;
* `fixedPlaces` — a double with a fixed number of decimal places.
-/

namespace Tagging

/-- A double, as its bits. -/
structure Double where
  /-- Sign, exponent and fraction, the sign in the highest bit. -/
  bits : UInt64
  deriving DecidableEq, Repr, Inhabited

namespace Double

/-- The double of a computed number. -/
def ofFloat (x : Float) : Double := ⟨x.toBits⟩

/-- The machine's number of a double; all that is not a number is one and the same there. -/
def toFloat (x : Double) : Float := Float.ofBits x.bits

/-- What the bits stand for: zero, a finite number, an infinity or no number. -/
def value (x : Double) : Float.Model.UnpackedFloat :=
  .unpack .binary64 x.bits.toBitVec

instance (n : Nat) : OfNat Double n := ⟨ofFloat (OfNat.ofNat n)⟩

instance : OfScientific Double := ⟨fun m s e => ofFloat (OfScientific.ofScientific m s e)⟩

instance : LT Double := ⟨fun x y => x.value.lt y.value = true⟩

instance (x y : Double) : Decidable (x < y) :=
  inferInstanceAs (Decidable (x.value.lt y.value = true))

/-- Is it not a number? -/
def isNaN (x : Double) : Bool := x.value.isNaN

/-- Is it an infinity? -/
def isInf (x : Double) : Bool := x.value.isInf

/-- The same with the highest bit of the fraction set, which marks a quiet one among those that are
not numbers. -/
def quiet (x : Double) : Double := ⟨x.bits ||| 0x0008000000000000⟩

/-- What an operation on numbers gives that has no result. -/
def noResult : Double := ⟨0xFFF8000000000000⟩

/-- The sum.  The standard of arithmetic leaves open which of the doubles that are no number comes
out; x86-64 passes the first operand on if it is none, else the second, and makes it quiet. -/
def add (x y : Double) : Double :=
  if x.isNaN then x.quiet
  else if y.isNaN then y.quiet
  else if (x.toFloat + y.toFloat).isNaN then noResult
  else ofFloat (x.toFloat + y.toFloat)

instance : Add Double := ⟨add⟩

end Double

namespace Number

/-- The place of a double in the total order: negative ones, with the sign bit set, count down. -/
def orderKey (x : Double) : Int :=
  let n := x.bits.toNat
  if n < Nat.pow 2 63 then (n : Int) else Int.pow 2 63 - 1 - (n : Int)

/-- A finite double: `mantissa · 2 ^ exponent`, negated if `negative`. -/
structure Decoded where
  /-- Is the sign bit set? -/
  negative : Bool
  /-- The whole number that the power of two multiplies. -/
  mantissa : Nat
  /-- The power of two. -/
  exponent : Int
  deriving Repr, DecidableEq

/-- The parts of a double, `none` for infinities and for what is not a number. -/
def decode (x : Double) : Option Decoded :=
  let n := x.bits.toNat
  let negative := decide (Nat.pow 2 63 ≤ n)
  let biased : Nat := n / Nat.pow 2 52 % Nat.pow 2 11
  let fraction : Nat := n % Nat.pow 2 52
  if biased = 2047 then none
  else if biased = 0 then some ⟨negative, fraction, -1074⟩
  else some ⟨negative, Nat.pow 2 52 + fraction, (biased : Int) - 1075⟩

/-- The quotient rounded to the nearest whole number, a half to the even neighbour. -/
def roundDiv (num den : Nat) : Nat :=
  let q := num / den
  let r := num % den
  if 2 * r < den then q else if den < 2 * r then q + 1 else if q % 2 = 0 then q else q + 1

/-- A whole number written with at least `width` digits. -/
def padded (width n : Nat) : List Char :=
  let digits := Nat.toDigits 10 n
  List.replicate (width - digits.length) '0' ++ digits

/-- A double rounded to `places` decimal places, a tie to the even digit, with its sign kept. -/
def fixedPlaces (places : Nat) (x : Double) : String :=
  match decode x with
  | none => if x.isNaN then "NaN" else if x < 0 then "-inf" else "inf"
  | some d =>
    let scale := Nat.pow 10 places
    let scaled :=
      if d.exponent < 0 then roundDiv (d.mantissa * scale) (Nat.pow 2 d.exponent.natAbs)
      else d.mantissa * scale * Nat.pow 2 d.exponent.natAbs
    let whole := Nat.toDigits 10 (scaled / scale)
    let part := if places = 0 then [] else '.' :: padded places (scaled % scale)
    String.ofList ((if d.negative then ['-'] else []) ++ whole ++ part)

/-- The nearest single-precision value of a whole number below 2 ^ 32, ties to the even
mantissa: 24 leading bits are kept. -/
def roundToSingle (n : Nat) : Nat :=
  let extra := n.log2 + 1 - 24
  roundDiv n (Nat.pow 2 extra) * Nat.pow 2 extra

end Number

end Tagging
