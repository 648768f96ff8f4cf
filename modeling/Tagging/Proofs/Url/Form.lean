import Mathlib.Data.List.TakeWhile
import Mathlib.Tactic.SplitIfs
import Tagging.Url.Basic

/-!
# What is read from the pairs of a form

Writing the values of a form and reading them back, and the pairs of a query.

* `percentDecode_formChar` — reading undoes writing, **one character at a time**;
* `formDecode_formEncode` — **every value is read back**;
* `isFormWritten_of_mem_formEncode` — what a written value is made of;
* `asWritten_formEncode_iff` — **the values that need no escape**;
* `queryPairs_withPair` — a query with one more pair holds that pair behind its own.
-/

namespace Tagging.Url

/-! ## Bytes and their escapes -/

/-- A plus sign stands for a blank. -/
def blankForPlus (c : Char) : Char := if c = '+' then ' ' else c

theorem formDecode_eq (cs : List Char) :
    formDecode cs =
      String.fromUTF8? (ByteArray.mk (percentDecode (cs.map blankForPlus)).toArray) := rfl

/-- Reading goes on behind a character that begins no escape. -/
theorem percentDecode_cons_of_none {c : Char} {rest : List Char}
    (h : escapedByte? c rest = none) :
    percentDecode (c :: rest) = String.utf8EncodeChar c ++ percentDecode rest := by
  rw [percentDecode, h]

theorem escapedByte?_of_ne {c : Char} (h : c ≠ '%') (rest : List Char) :
    escapedByte? c rest = none := by
  unfold escapedByte?
  split
  · exact absurd rfl h
  · rfl

theorem percentDecode_cons_of_ne {c : Char} (h : c ≠ '%') (rest : List Char) :
    percentDecode (c :: rest) = String.utf8EncodeChar c ++ percentDecode rest :=
  percentDecode_cons_of_none (escapedByte?_of_ne h rest)

theorem hexValue?_hexUpper : ∀ n < 16, hexValue? (hexUpper n) = some n := by decide

/-- **An escape is read back as its byte.** -/
theorem percentDecode_percentByte (b : UInt8) (rest : List Char) :
    percentDecode (percentByte b ++ rest) = b :: percentDecode rest := by
  have hb : b.toNat < 256 := b.toNat_lt
  have hhigh := hexValue?_hexUpper (b.toNat / 16) (by omega)
  have hlow := hexValue?_hexUpper (b.toNat % 16) (by omega)
  have hescaped : escapedByte? '%' (hexUpper (b.toNat / 16) :: hexUpper (b.toNat % 16) :: rest) =
      some b := by
    simp only [escapedByte?, hhigh, hlow]
    rw [show b.toNat / 16 * 16 + b.toNat % 16 = b.toNat by omega, UInt8.ofNat_toNat]
  show percentDecode ('%' :: hexUpper (b.toNat / 16) :: hexUpper (b.toNat % 16) :: rest) = _
  rw [percentDecode, hescaped]
  rfl

theorem percentDecode_flatMap_percentByte (bytes : List UInt8) (rest : List Char) :
    percentDecode (bytes.flatMap percentByte ++ rest) = bytes ++ percentDecode rest := by
  induction bytes with
  | nil => rfl
  | cons b bytes ih =>
    rw [List.flatMap_cons, List.append_assoc, percentDecode_percentByte, ih, List.cons_append]

/-- The text that bytes stand for if they are those of characters. -/
theorem fromUTF8?_flatMap_utf8EncodeChar (cs : List Char) :
    String.fromUTF8? (ByteArray.mk (cs.flatMap String.utf8EncodeChar).toArray) =
      some (String.ofList cs) := by
  have hbytes : ByteArray.mk (cs.flatMap String.utf8EncodeChar).toArray = cs.utf8Encode :=
    ByteArray.ext List.data_toByteArray.symm
  rw [hbytes, String.fromUTF8?, dif_pos ⟨cs, rfl⟩]
  rfl

/-! ## Values -/

/-- A character that stands in written values of a form. -/
def isFormWritten (c : Char) : Bool := isFormSafe c || c = '+' || c = '%'

theorem isFormSafe_hexUpper : ∀ n < 16, isFormSafe (hexUpper n) = true := by decide

theorem isFormSafe_of_mem_percentChar {c x : Char} (h : x ∈ percentChar c) :
    isFormSafe x = true ∨ x = '%' := by
  obtain ⟨b, -, hx⟩ := List.mem_flatMap.1 h
  have hb : b.toNat < 256 := b.toNat_lt
  simp only [percentByte, List.mem_cons, List.not_mem_nil, or_false] at hx
  rcases hx with rfl | rfl | rfl
  · exact Or.inr rfl
  · exact Or.inl (isFormSafe_hexUpper _ (by omega))
  · exact Or.inl (isFormSafe_hexUpper _ (by omega))

/-- **Written values** are made of safe characters, plus signs and escapes. -/
theorem isFormWritten_of_mem_formEncode {s : String} {x : Char} (h : x ∈ formEncode s) :
    isFormWritten x = true := by
  obtain ⟨c, -, hx⟩ := List.mem_flatMap.1 h
  unfold formChar at hx
  unfold isFormWritten
  split_ifs at hx with hblank hsafe
  · obtain rfl := List.mem_singleton.1 hx
    rfl
  · obtain rfl := List.mem_singleton.1 hx
    rw [hsafe]
    rfl
  · rcases isFormSafe_of_mem_percentChar hx with hsafe | rfl
    · rw [hsafe]
      rfl
    · rfl

theorem ne_of_isFormSafe {c x : Char} (h : isFormSafe c = true) (hx : isFormSafe x = false) :
    c ≠ x := by
  rintro rfl
  rw [h] at hx
  cases hx

theorem map_blankForPlus_percentChar (c : Char) :
    (percentChar c).map blankForPlus = percentChar c := by
  have hsame : ∀ x ∈ percentChar c, blankForPlus x = x := by
    intro x hx
    have hplus : x ≠ '+' := by
      rcases isFormSafe_of_mem_percentChar hx with hsafe | rfl
      · exact ne_of_isFormSafe hsafe (by decide)
      · decide
    rw [blankForPlus, if_neg hplus]
  exact (List.map_congr_left hsame).trans (List.map_id _)

/-- **Reading undoes writing, one character at a time.** -/
theorem percentDecode_formChar (c : Char) (rest : List Char) :
    percentDecode ((formChar c).map blankForPlus ++ rest) =
      String.utf8EncodeChar c ++ percentDecode rest := by
  unfold formChar
  split_ifs with hblank hsafe
  · subst hblank
    exact percentDecode_cons_of_ne (by decide) rest
  · have hplus : c ≠ '+' := ne_of_isFormSafe hsafe (by decide)
    have hpercent : c ≠ '%' := ne_of_isFormSafe hsafe (by decide)
    rw [List.map_singleton, blankForPlus, if_neg hplus]
    exact percentDecode_cons_of_ne hpercent rest
  · rw [map_blankForPlus_percentChar]
    exact percentDecode_flatMap_percentByte _ rest

/-- **Every value of a form is read back.** -/
theorem formDecode_formEncode (s : String) : formDecode (formEncode s) = some s := by
  have hbytes : ∀ cs : List Char, percentDecode ((cs.flatMap formChar).map blankForPlus) =
      cs.flatMap String.utf8EncodeChar := by
    intro cs
    induction cs with
    | nil => simp [percentDecode]
    | cons c cs ih =>
      rw [List.flatMap_cons, List.map_append, percentDecode_formChar, ih, List.flatMap_cons]
  rw [formDecode_eq, formEncode, hbytes, fromUTF8?_flatMap_utf8EncodeChar, String.ofList_toList]

theorem not_mem_formEncode {c : Char} (hc : isFormWritten c = false) (s : String) :
    c ∉ formEncode s := by
  intro hmem
  rw [isFormWritten_of_mem_formEncode hmem] at hc
  cases hc

/-! ### Values that need no escape -/

/-- Text as it was written, but for its plus signs. -/
def asWritten (cs : List Char) : String := String.ofList (cs.map blankForPlus)

/-- Is the character written without an escape? -/
def isFormPlain (c : Char) : Bool := c = ' ' || isFormSafe c

theorem map_blankForPlus_formChar {c : Char} (h : isFormPlain c = true) :
    (formChar c).map blankForPlus = [c] := by
  unfold formChar
  split_ifs with hblank hsafe
  · subst hblank
    rfl
  · have hplus : c ≠ '+' := ne_of_isFormSafe hsafe (by decide)
    rw [List.map_singleton, blankForPlus, if_neg hplus]
  · rw [isFormPlain, decide_eq_false hblank, Bool.false_or] at h
    exact absurd h hsafe

theorem three_le_length_formChar {c : Char} (h : isFormPlain c = false) :
    3 ≤ (formChar c).length := by
  rw [isFormPlain, Bool.or_eq_false_iff, decide_eq_false_iff_not] at h
  rw [formChar, if_neg h.1, if_neg (by rw [h.2]; decide), percentChar]
  cases hbytes : String.utf8EncodeChar c with
  | nil =>
    have hlength := String.length_utf8EncodeChar c
    rw [hbytes] at hlength
    have hpos := c.utf8Size_pos
    rw [← hlength] at hpos
    cases hpos
  | cons b bytes =>
    rw [List.flatMap_cons, List.length_append]
    exact Nat.le_add_right 3 _

theorem length_le_length_flatMap_formChar (cs : List Char) :
    cs.length ≤ (cs.flatMap formChar).length := by
  induction cs with
  | nil => exact Nat.le_refl 0
  | cons c cs ih =>
    have hone : 1 ≤ (formChar c).length := by
      cases hplain : isFormPlain c with
      | true =>
        have hlength := congrArg List.length (map_blankForPlus_formChar hplain)
        rw [List.length_map] at hlength
        exact hlength.ge
      | false => exact Nat.le_trans (by decide) (three_le_length_formChar hplain)
    rw [List.flatMap_cons, List.length_append, List.length_cons]
    omega

/-- **A value stands as it was written** if, and only if, none of its characters needs an escape:
escapes only make it longer. -/
theorem asWritten_formEncode_iff (s : String) :
    asWritten (formEncode s) = s ↔ ∀ c ∈ s.toList, isFormPlain c = true := by
  have hchars : ∀ cs : List Char, (cs.flatMap formChar).map blankForPlus = cs ↔
      ∀ c ∈ cs, isFormPlain c = true := by
    intro cs
    induction cs with
    | nil => simp
    | cons c cs ih =>
      rw [List.flatMap_cons, List.map_append, List.forall_mem_cons, ← ih]
      cases hplain : isFormPlain c with
      | true =>
        rw [map_blankForPlus_formChar hplain, List.singleton_append, List.cons_inj_right]
        exact (and_iff_right rfl).symm
      | false =>
        refine iff_of_false (fun heq => ?_) (fun h => by cases h.1)
        have hlength := congrArg List.length heq
        rw [List.length_append, List.length_map, List.length_map, List.length_cons] at hlength
        have hthree := three_le_length_formChar hplain
        have hrest := length_le_length_flatMap_formChar cs
        omega
  rw [← hchars, asWritten, formEncode]
  constructor
  · intro h
    rw [← String.toList_inj, String.toList_ofList] at h
    exact h
  · intro h
    rw [h, String.ofList_toList]

/-! ## Pairs -/

theorem cutAtChar_ne_nil (sep : Char) (cs : List Char) : cutAtChar sep cs ≠ [] := by
  cases cs with
  | nil => simp [cutAtChar]
  | cons c rest =>
    rw [cutAtChar]
    split_ifs
    · simp
    · split <;> simp

/-- Text without the separator is one piece. -/
theorem cutAtChar_of_not_mem {sep : Char} {cs : List Char} (h : sep ∉ cs) :
    cutAtChar sep cs = [cs] := by
  induction cs with
  | nil => rfl
  | cons c rest ih =>
    rw [List.mem_cons, not_or] at h
    rw [cutAtChar, if_neg (Ne.symm h.1), ih h.2]

/-- Text without the separator goes with the piece behind it. -/
theorem cutAtChar_append_of_not_mem {sep : Char} {ds : List Char} (h : sep ∉ ds)
    {cs piece : List Char} {more : List (List Char)} (hcs : cutAtChar sep cs = piece :: more) :
    cutAtChar sep (ds ++ cs) = (ds ++ piece) :: more := by
  induction ds with
  | nil => exact hcs
  | cons d rest ih =>
    rw [List.mem_cons, not_or] at h
    rw [List.cons_append, cutAtChar, if_neg (Ne.symm h.1), ih h.2]
    rfl

/-- The pieces on both sides of a separator. -/
theorem cutAtChar_append (sep : Char) (cs ds : List Char) :
    cutAtChar sep (cs ++ sep :: ds) = cutAtChar sep cs ++ cutAtChar sep ds := by
  induction cs with
  | nil => simp [cutAtChar]
  | cons c rest ih =>
    rw [List.cons_append, cutAtChar, cutAtChar]
    by_cases hc : c = sep
    · rw [if_pos hc, if_pos hc, ih, List.cons_append]
    · rw [if_neg hc, if_neg hc, ih]
      cases hrest : cutAtChar sep rest with
      | nil => exact absurd hrest (cutAtChar_ne_nil sep rest)
      | cons piece more => rfl

theorem queryPairs_append (cs ds : List Char) :
    queryPairs (cs ++ '&' :: ds) = queryPairs cs ++ queryPairs ds := by
  rw [queryPairs, cutAtChar_append, List.filter_append, List.map_append]
  rfl

/-- A character that does not occur is none of those that do. -/
theorem decide_ne_of_not_mem {sep : Char} {cs : List Char} (h : sep ∉ cs) :
    ∀ c ∈ cs, decide (c ≠ sep) = true := by
  intro c hc
  apply decide_eq_true
  rintro rfl
  exact h hc

theorem cutPair_append {name : List Char} (h : '=' ∉ name) (value : List Char) :
    cutPair (name ++ '=' :: value) = (name, value) := by
  have hname := decide_ne_of_not_mem h
  rw [cutPair, List.takeWhile_append_of_pos hname, List.dropWhile_append_of_pos hname]
  simp

theorem cutPair_of_not_mem {cs : List Char} (h : '=' ∉ cs) : cutPair cs = (cs, []) := by
  have hall := decide_ne_of_not_mem h
  rw [cutPair, List.takeWhile_eq_self_iff.2 hall, List.dropWhile_eq_nil_iff.2 hall]
  rfl

/-- **A written pair is read as that pair.** -/
theorem queryPairs_pairText (name value : String) :
    queryPairs (pairText name value) = [(formEncode name, formEncode value)] := by
  have hamp : '&' ∉ pairText name value := by
    rw [pairText, List.mem_append, List.mem_cons, not_or, not_or]
    exact ⟨not_mem_formEncode (by decide) name, by decide, not_mem_formEncode (by decide) value⟩
  have hone : [pairText name value].filter (fun p => !p.isEmpty) = [pairText name value] := by
    simp [pairText]
  rw [queryPairs, cutAtChar_of_not_mem hamp, hone, List.map_singleton, pairText,
    cutPair_append (not_mem_formEncode (by decide) name)]

/-- **A query with one more pair** holds that pair behind its own. -/
theorem queryPairs_withPair (query : List Char) (name value : String) :
    queryPairs (withPair query name value) =
      queryPairs query ++ [(formEncode name, formEncode value)] := by
  unfold withPair
  split_ifs with hempty
  · rw [hempty, queryPairs_pairText]
    rfl
  · rw [queryPairs_append, queryPairs_pairText]

end Tagging.Url
