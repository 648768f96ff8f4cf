import Mathlib.Data.String.Basic

/-!
# The order of texts is the order of their bytes

Files are put in order by their ids.  The tables compare texts character by character; a database
and a byte-wise comparison look at the UTF-8 bytes.  Both give the same order: a greater character
has a byte sequence that is greater at the first byte where the two differ, whatever follows
(`encode_append_lt`), so comparing characters and comparing bytes decide at the same place
(`lt_iff_bytes_lt`).
-/

namespace Tagging.Text

/-- The bytes of a text in UTF-8. -/
def bytes (s : String) : List UInt8 := s.toByteArray.data.toList

/-- Does the first text come before the second one when their bytes are compared? -/
def BytesLt (a b : String) : Prop := bytes a < bytes b

/-- The bytes of a text are those of its characters, one after the other. -/
theorem bytes_eq_flatMap (s : String) : bytes s = s.toList.flatMap String.utf8EncodeChar := by
  rw [bytes, ← String.utf8Encode_toList, List.utf8Encode]
  simp

/-! ## One character -/

theorem ofNat_lt_ofNat {m n : Nat} (hm : m < 256) (hn : n < 256) :
    UInt8.ofNat m < UInt8.ofNat n ↔ m < n := by
  rw [UInt8.lt_iff_toNat_lt, UInt8.toNat_ofNat', UInt8.toNat_ofNat', Nat.mod_eq_of_lt hm,
    Nat.mod_eq_of_lt hn]

theorem ofNat_eq_ofNat {m n : Nat} (hm : m < 256) (hn : n < 256) :
    UInt8.ofNat m = UInt8.ofNat n ↔ m = n := by
  rw [← UInt8.toNat_inj, UInt8.toNat_ofNat', UInt8.toNat_ofNat', Nat.mod_eq_of_lt hm,
    Nat.mod_eq_of_lt hn]

/-- The digits of a number to the base 64, one division after the other. -/
theorem div_digits (n : Nat) : n / 4096 = n / 64 / 64 ∧ n / 262144 = n / 64 / 64 / 64 := by
  rw [Nat.div_div_eq_div_mul, Nat.div_div_eq_div_mul]
  exact ⟨rfl, rfl⟩

theorem lt_by_last_digit {m n : Nat} (h : m < n) :
    m / 64 < n / 64 ∨ m / 64 = n / 64 ∧ m % 64 < n % 64 := by omega

/-- Of two numbers the lesser one is lesser at the first of four digits where they differ. -/
theorem lt_by_digits {m n : Nat} (h : m < n) :
    m / 64 / 64 / 64 < n / 64 / 64 / 64 ∨ m / 64 / 64 / 64 = n / 64 / 64 / 64 ∧
      (m / 64 / 64 % 64 < n / 64 / 64 % 64 ∨ m / 64 / 64 % 64 = n / 64 / 64 % 64 ∧
        (m / 64 % 64 < n / 64 % 64 ∨ m / 64 % 64 = n / 64 % 64 ∧ m % 64 < n % 64)) := by
  rcases lt_by_last_digit h with h₁ | ⟨e₁, h₁⟩
  · rcases lt_by_last_digit h₁ with h₂ | ⟨e₂, h₂⟩
    · rcases lt_by_last_digit h₂ with h₃ | ⟨e₃, h₃⟩
      · exact Or.inl h₃
      · exact Or.inr ⟨e₃, Or.inl h₃⟩
    · exact Or.inr ⟨by rw [e₂], Or.inr ⟨by rw [e₂], Or.inl h₂⟩⟩
  · exact Or.inr ⟨by rw [e₁], Or.inr ⟨by rw [e₁], Or.inr ⟨by rw [e₁], h₁⟩⟩⟩

/-- A lesser character has lesser bytes, whatever follows. -/
theorem encode_append_lt {c d : Char} (h : c < d) (xs ys : List UInt8) :
    String.utf8EncodeChar c ++ xs < String.utf8EncodeChar d ++ ys := by
  have hlt : c.val.toNat < d.val.toNat := h
  have hd : d.val.toNat < 0x110000 := by
    have := d.valid
    unfold UInt32.isValidChar Nat.isValidChar at this
    omega
  unfold String.utf8EncodeChar
  generalize c.val.toNat = m at hlt
  generalize d.val.toNat = n at hlt hd
  have hdigits := lt_by_digits hlt
  have hm := div_digits m
  have hn := div_digits n
  have hm8 : m / 64 / 64 / 64 < 8 := by omega
  have hn8 : n / 64 / 64 / 64 < 8 := by omega
  -- one case for each pair of lengths; a lesser character has no more bytes than a greater one
  simp only [hm.1, hm.2, hn.1, hn.2, Nat.mod_eq_of_lt hm8, Nat.mod_eq_of_lt hn8]
  split_ifs <;> simp (disch := omega) only [List.cons_append, List.nil_append,
    List.cons_lt_cons_iff, ofNat_lt_ofNat, ofNat_eq_ofNat] <;> omega

theorem append_lt_append_left {zs xs ys : List UInt8} (h : xs < ys) : zs ++ xs < zs ++ ys := by
  induction zs with
  | nil => exact h
  | cons z zs ih => exact List.cons_lt_cons_iff.2 (Or.inr ⟨rfl, ih⟩)

/-! ## Texts -/

theorem flatMap_encode_lt {l m : List Char} (h : l < m) :
    l.flatMap String.utf8EncodeChar < m.flatMap String.utf8EncodeChar := by
  induction l generalizing m with
  | nil =>
    cases m with
    | nil => exact absurd h (List.lt_irrefl _)
    | cons d m =>
      rw [List.flatMap_nil, List.flatMap_cons]
      cases hd : String.utf8EncodeChar d with
      | nil => exact absurd hd String.utf8EncodeChar_ne_nil
      | cons b bs => exact List.nil_lt_cons _ _
  | cons c l ih =>
    cases m with
    | nil => exact absurd h (List.not_lt_nil _)
    | cons d m =>
      rw [List.flatMap_cons, List.flatMap_cons]
      rcases List.cons_lt_cons_iff.1 h with hcd | ⟨rfl, hlm⟩
      · exact encode_append_lt hcd _ _
      · exact append_lt_append_left (ih hlm)

/-- **Comparing texts is comparing their bytes.** -/
theorem lt_iff_bytes_lt {a b : String} : a < b ↔ BytesLt a b := by
  rw [BytesLt, bytes_eq_flatMap, bytes_eq_flatMap]
  constructor
  · exact flatMap_encode_lt
  · intro h
    rcases lt_trichotomy a b with hab | rfl | hba
    · exact hab
    · exact absurd h (List.lt_irrefl _)
    · exact absurd h (List.lt_asymm (flatMap_encode_lt hba))

end Tagging.Text
