import Mathlib.Algebra.Ring.Nat
import Mathlib.Data.Nat.Log
import Mathlib.Data.String.Basic
import Mathlib.Tactic.SplitIfs
import Tagging.Number.Double

/-!
# Numbers

Numbers in base ten, doubles above zero, and what rounding does: it keeps the order, within one
binade because a quotient is rounded, and between binades because powers of two are kept.

* `isDigit_of_mem_toString`, `toString_injective` — **different numbers** are written differently,
  with digits only;
* `isPositive`, `pos_iff` — **a double is above zero** if it is infinity, or finite and not zero,
  with the sign bit clear;
* `isNaN_eq_false_of_pos`, `pos_ofFloat_of_le` — it is a number then, and whatever is not below it
  is above zero, too;
* `roundDiv_mono`, `roundDiv_mul` — rounded quotients;
* `two_pow_le_roundToSingle`, `roundToSingle_le_two_pow` — a rounded number stays in its binade, or
  is the next power of two;
* `roundToSingle_mono` — **single precision keeps the order**;
* `decode_bounds` — the mantissa and the power of two of a finite double, which is below 2 ^ 1024;
* `whole_lt`, `length_fixedPlaces_le` — what stands before the point of a written double, and **its
  length**.
-/

namespace Tagging

/-! ## Numbers in base ten -/

theorem isDigit_of_mem_toString {n : Nat} {c : Char} (h : c ∈ (toString n).toList) :
    c.isDigit = true := by
  change c ∈ n.repr.toList at h
  rw [Nat.toList_repr] at h
  exact Nat.isDigit_of_mem_toDigits (by decide) (by decide) h

theorem toString_injective : Function.Injective fun n : Nat => toString n := by
  intro m n h
  dsimp only at h
  rw [Nat.toString_eq_ofList_toDigits, Nat.toString_eq_ofList_toDigits, String.ofList_inj] at h
  rw [← @Nat.ofDigitChars_ten_toDigits m, h, Nat.ofDigitChars_ten_toDigits]

namespace Number

/-! ## Doubles above zero -/

section

open Float.Model

/-- Infinity, and the finite numbers other than zero, with the sign bit clear. -/
def isPositive : UnpackedFloat → Bool
  | .infinity .positive | .finite .positive .. => true
  | _ => false

theorem zero_lt_unpacked (u : UnpackedFloat) :
    (UnpackedFloat.zero .positive).lt u = isPositive u := by
  cases u with
  | notANumber | zero s => rfl
  | infinity s | finite s m e hm => cases s <;> rfl

/-- What is not below a positive number is positive. -/
theorem isPositive_of_le {u v : UnpackedFloat} (hu : isPositive u = true) (h : u.le v = true) :
    isPositive v = true := by
  cases u with
  | notANumber | zero s => exact absurd hu Bool.false_ne_true
  | infinity s | finite s m e hm =>
    cases s with
    | negative => exact absurd hu Bool.false_ne_true
    | positive =>
      cases v with
      | notANumber | zero t => exact absurd h Bool.false_ne_true
      | infinity t | finite t n f hn =>
        cases t with
        | positive => rfl
        | negative => exact absurd h Bool.false_ne_true

/-- **A double is above zero** exactly in these cases; what is not a number is in none of them. -/
theorem pos_iff {x : Double} : x > 0 ↔ isPositive x.value = true := by
  rw [← zero_lt_unpacked]
  exact Iff.rfl

/-- A positive double is a number. -/
theorem isNaN_eq_false_of_pos {x : Double} (h : x > 0) : x.isNaN = false := by
  have hpos := pos_iff.1 h
  show x.value.isNaN = false
  cases hx : x.value with
  | notANumber =>
    rw [hx] at hpos
    exact absurd hpos Bool.false_ne_true
  | zero s | infinity s | finite s m e hm => rfl

/-- A computed number has its bits as a double. -/
theorem value_ofFloat (x : Float) : (Double.ofFloat x).value = x.toModel.unpack := rfl

/-- What is not below a positive number is positive. -/
theorem pos_ofFloat_of_le {x y : Float} (hx : Double.ofFloat x > 0) (h : x ≤ y) :
    Double.ofFloat y > 0 := by
  rw [pos_iff, value_ofFloat] at hx ⊢
  exact isPositive_of_le hx (of_decide_eq_true h)

end

/-! ## Rounded quotients and single precision -/

/-- A greater number has no lesser rounded quotient. -/
theorem roundDiv_mono {a b : Nat} (d : Nat) (h : a ≤ b) : roundDiv a d ≤ roundDiv b d := by
  have hquotient : a / d ≤ b / d := Nat.div_le_div_right h
  have ha := Nat.div_add_mod a d
  have hb := Nat.div_add_mod b d
  unfold roundDiv
  dsimp only
  rcases Nat.lt_or_eq_of_le hquotient with hlt | heq
  · -- the lesser one is rounded up by one at most
    split_ifs <;> omega
  · -- the rests are in order, and a tie goes the same way
    have hrest : a % d ≤ b % d := by
      rw [heq] at ha
      omega
    rw [heq]
    split_ifs <;> omega

/-- A multiple is kept. -/
theorem roundDiv_mul {d : Nat} (hd : 0 < d) (k : Nat) : roundDiv (k * d) d = k := by
  unfold roundDiv
  dsimp only
  rw [Nat.mul_mod_left, Nat.mul_div_cancel k hd, if_pos (by omega)]

/-- How many bits are too many for single precision. -/
def extraBits (n : Nat) : Nat := n.log2 + 1 - 24

theorem roundToSingle_eq (n : Nat) :
    roundToSingle n = roundDiv n (2 ^ extraBits n) * 2 ^ extraBits n := rfl

/-- A power of two of sufficient size is a multiple of the power of the extra bits. -/
theorem two_pow_eq {k e : Nat} (h : e ≤ k) : 2 ^ (k - e) * 2 ^ e = 2 ^ k := by
  rw [← Nat.pow_add, Nat.sub_add_cancel h]

/-- A rounded number is not below the power of two that begins its binade. -/
theorem two_pow_le_roundToSingle {n : Nat} (h : n ≠ 0) : 2 ^ n.log2 ≤ roundToSingle n := by
  have hpow := two_pow_eq (k := n.log2) (e := extraBits n) (by unfold extraBits; omega)
  have hround := roundDiv_mono (2 ^ extraBits n) (Nat.log2_self_le h)
  rw [← hpow, roundDiv_mul (Nat.two_pow_pos _)] at hround
  calc 2 ^ n.log2 = 2 ^ (n.log2 - extraBits n) * 2 ^ extraBits n := hpow.symm
    _ ≤ roundDiv n (2 ^ extraBits n) * 2 ^ extraBits n := Nat.mul_le_mul_right _ hround
    _ = roundToSingle n := (roundToSingle_eq n).symm

/-- A rounded number is not above the power of two that ends its binade. -/
theorem roundToSingle_le_two_pow (n : Nat) : roundToSingle n ≤ 2 ^ (n.log2 + 1) := by
  have hpow := two_pow_eq (k := n.log2 + 1) (e := extraBits n) (by unfold extraBits; omega)
  have hround := roundDiv_mono (2 ^ extraBits n) (Nat.le_of_lt (Nat.lt_log2_self (n := n)))
  rw [← hpow, roundDiv_mul (Nat.two_pow_pos _)] at hround
  calc roundToSingle n = roundDiv n (2 ^ extraBits n) * 2 ^ extraBits n := roundToSingle_eq n
    _ ≤ 2 ^ (n.log2 + 1 - extraBits n) * 2 ^ extraBits n := Nat.mul_le_mul_right _ hround
    _ = 2 ^ (n.log2 + 1) := hpow

/-- **Single precision keeps the order.** -/
theorem roundToSingle_mono {a b : Nat} (h : a ≤ b) : roundToSingle a ≤ roundToSingle b := by
  have hlog : a.log2 ≤ b.log2 := by
    rw [Nat.log2_eq_log_two, Nat.log2_eq_log_two]
    exact Nat.log_mono_right h
  rcases Nat.lt_or_eq_of_le hlog with hlt | heq
  · have hb : b ≠ 0 := by
      rintro rfl
      simp at hlt
    calc roundToSingle a ≤ 2 ^ (a.log2 + 1) := roundToSingle_le_two_pow a
      _ ≤ 2 ^ b.log2 := Nat.pow_le_pow_right (by omega) hlt
      _ ≤ roundToSingle b := two_pow_le_roundToSingle hb
  · have hextra : extraBits a = extraBits b := by
      unfold extraBits
      rw [heq]
    rw [roundToSingle_eq, roundToSingle_eq, hextra]
    exact Nat.mul_le_mul_right _ (roundDiv_mono _ h)

/-! ## Written doubles -/

/-- **The parts of a double**: a mantissa of 53 bits, and a power of two below that of an
infinity. -/
theorem decode_bounds {x : Double} {d : Decoded} (h : decode x = some d) :
    d.mantissa < Nat.pow 2 53 ∧ d.exponent ≤ 971 := by
  have hbits : Nat.pow 2 53 = Nat.pow 2 52 + Nat.pow 2 52 := rfl
  have hfraction : x.bits.toNat % Nat.pow 2 52 < Nat.pow 2 52 := Nat.mod_lt _ (by decide)
  have hbiased : x.bits.toNat / Nat.pow 2 52 % Nat.pow 2 11 < 2048 := Nat.mod_lt _ (by decide)
  unfold decode at h
  dsimp only at h
  split_ifs at h with hinfinite hsmall
  all_goals
    cases h
    dsimp only
    omega

/-- A rounded quotient is the quotient or the number behind it. -/
theorem roundDiv_le (num den : Nat) : roundDiv num den ≤ num / den + 1 := by
  unfold roundDiv
  dsimp only
  split_ifs <;> omega

theorem length_toDigits_le {width n : Nat} (hwidth : 0 < width) (h : n < Nat.pow 10 width) :
    (Nat.toDigits 10 n).length ≤ width :=
  (Nat.length_toDigits_le_iff (by decide) hwidth).2 h

/-- A number has the least number of digits that is asked for, if it needs no more. -/
theorem length_padded {width n : Nat} (hwidth : 0 < width) (h : n < Nat.pow 10 width) :
    (padded width n).length = width := by
  have hdigits := length_toDigits_le hwidth h
  rw [padded, List.length_append, List.length_replicate]
  omega

/-- A power of two has no more digits than a third of its exponent. -/
theorem two_pow_le {k n : Nat} (h : k ≤ 3 * n) : Nat.pow 2 k ≤ Nat.pow 10 n :=
  calc Nat.pow 2 k ≤ Nat.pow 2 (3 * n) := Nat.pow_le_pow_right (by decide) h
    _ = Nat.pow (Nat.pow 2 3) n := Nat.pow_mul 2 3 n
    _ ≤ Nat.pow 10 n := Nat.pow_le_pow_left (by decide) n

/-- As many digits as a double may have before its point. -/
def wholeDigits : Nat := 342

/-- **What stands before the point**, of a double that was multiplied by `scale` and rounded. -/
theorem whole_lt {d : Decoded} (hmantissa : d.mantissa < Nat.pow 2 53)
    (hexponent : d.exponent ≤ 971) {scale : Nat} (hscale : 0 < scale) :
    (if d.exponent < 0 then roundDiv (d.mantissa * scale) (Nat.pow 2 d.exponent.natAbs)
      else d.mantissa * scale * Nat.pow 2 d.exponent.natAbs) / scale < Nat.pow 10 wholeDigits := by
  split_ifs with hnegative
  · -- a quotient is no greater than what is divided, but for the rounding
    have hround : roundDiv (d.mantissa * scale) (Nat.pow 2 d.exponent.natAbs) ≤
        scale * (d.mantissa + 1) := by
      have hquotient := Nat.div_le_self (d.mantissa * scale) (Nat.pow 2 d.exponent.natAbs)
      have hone := roundDiv_le (d.mantissa * scale) (Nat.pow 2 d.exponent.natAbs)
      rw [Nat.mul_succ, Nat.mul_comm scale]
      omega
    calc roundDiv (d.mantissa * scale) (Nat.pow 2 d.exponent.natAbs) / scale
        ≤ d.mantissa + 1 := Nat.div_le_of_le_mul hround
      _ ≤ Nat.pow 2 53 := hmantissa
      _ < Nat.pow 2 54 := by decide
      _ ≤ Nat.pow 10 wholeDigits := two_pow_le (by decide)
  · calc d.mantissa * scale * Nat.pow 2 d.exponent.natAbs / scale
        = d.mantissa * Nat.pow 2 d.exponent.natAbs := by
          rw [Nat.mul_right_comm, Nat.mul_div_cancel _ hscale]
      _ < Nat.pow 2 53 * Nat.pow 2 d.exponent.natAbs :=
          Nat.mul_lt_mul_of_pos_right hmantissa (Nat.pow_pos (by decide))
      _ = Nat.pow 2 (53 + d.exponent.natAbs) := (Nat.pow_add 2 53 _).symm
      _ ≤ Nat.pow 10 wholeDigits := two_pow_le (by unfold wholeDigits; omega)

/-- **A written double** has a sign, the digits before its point, the point and the places behind
it, or fewer characters. -/
theorem length_fixedPlaces_le (places : Nat) (x : Double) :
    (fixedPlaces places x).length ≤ wholeDigits + places + 2 := by
  unfold fixedPlaces
  cases hx : decode x with
  | none =>
    have hshort : ∀ s ∈ ["NaN", "-inf", "inf"], s.length ≤ wholeDigits := by decide
    have hnames : (if x.isNaN = true then "NaN" else if x < 0 then "-inf" else "inf") ∈
        ["NaN", "-inf", "inf"] := by
      split_ifs <;> simp
    have hlength := hshort _ hnames
    dsimp only
    omega
  | some d =>
    obtain ⟨hmantissa, hexponent⟩ := decode_bounds hx
    have hscale : 0 < Nat.pow 10 places := Nat.pow_pos (by decide)
    have hwhole := length_toDigits_le (by decide) (whole_lt hmantissa hexponent hscale)
    have hpart : ∀ n, (if places = 0 then []
        else '.' :: padded places (n % Nat.pow 10 places)).length ≤ places + 1 := by
      intro n
      split_ifs with hzero
      · exact Nat.zero_le _
      · have hpadded := length_padded (Nat.pos_of_ne_zero hzero) (Nat.mod_lt n hscale)
        exact Nat.le_of_eq (by rw [List.length_cons, hpadded])
    have hsign : (if d.negative = true then ['-'] else []).length ≤ 1 := by
      split_ifs <;> simp
    dsimp only
    rw [String.length_ofList, List.length_append, List.length_append]
    have hbehind := hpart (if d.exponent < 0 then
      roundDiv (d.mantissa * Nat.pow 10 places) (Nat.pow 2 d.exponent.natAbs)
      else d.mantissa * Nat.pow 10 places * Nat.pow 2 d.exponent.natAbs)
    omega

end Number

end Tagging
