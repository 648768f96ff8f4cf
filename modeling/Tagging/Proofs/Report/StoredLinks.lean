import Tagging.Proofs.Url.Form
import Tagging.Report.Sheet

/-!
# What is read from a stored link

A sheet writes out some characters of a link unless it holds one of the written forms already, as
if it were written out as a whole.  A reader follows the link as it is stored, so an escape of the
link means what it meant only in the second case; in the first one it is read as it was written.

* `writeOut`, `escapeLink_eq` — writing out;
* `KeepsEscapes.percentDecode_writeOut`, `formDecode_writeOut`, `queryPairs_writeOut` — reading
  undoes **one** writing;
* `StoredLink.followed`, `queryOf`, `readPairs` — the URL that a reader follows, its query and the
  pairs in it;
* `readPairs_keepLink` — **what is read from a stored link**.
-/

namespace Tagging

open Url (formDecode queryPairs asWritten blankForPlus percentDecode cutAtChar cutPair)

/-! ## Writing out -/

/-- One character as it is written out. -/
def writeOutChar (c : Char) : List Char := (linkEscape? c).getD [c]

/-- The characters as they are written out. -/
def writeOut (cs : List Char) : List Char := cs.flatMap writeOutChar

theorem escapeLink_eq (cs : List Char) :
    escapeLink cs = if holdsEscape cs then cs else writeOut cs := rfl

/-- **What is written out** is the byte of a character, as a percent sign and two digits. -/
theorem exists_digits_of_linkEscape? {c : Char} {e : List Char} (h : linkEscape? c = some e) :
    ∃ a b high low, e = ['%', a, b] ∧ Url.hexValue? a = some high ∧ Url.hexValue? b = some low ∧
      String.utf8EncodeChar c = [UInt8.ofNat (high * 16 + low)] := by
  unfold linkEscape? at h
  split at h
  case h_12 => cases h
  all_goals exact ⟨_, _, _, _, (Option.some.inj h).symm, rfl, rfl, rfl⟩

/-- A character that is left as it is is no percent sign. -/
theorem ne_percent_of_linkEscape? {c : Char} (h : linkEscape? c = none) : c ≠ '%' := by
  rintro rfl
  cases h

/-- A change of characters that leaves the written forms and what they stand for as they are. -/
structure KeepsEscapes (f : Char → Char) : Prop where
  /-- A percent sign stays. -/
  percent : f '%' = '%'
  /-- Digits stay. -/
  digit : ∀ {c : Char} {n : Nat}, Url.hexValue? c = some n → f c = c
  /-- What is written out stays. -/
  escaped : ∀ {c : Char} {e : List Char}, linkEscape? c = some e → f c = c
  /-- Nothing else becomes a percent sign. -/
  plain : ∀ {c : Char}, linkEscape? c = none → f c ≠ '%'

namespace KeepsEscapes

variable {f : Char → Char} (h : KeepsEscapes f)
include h

/-- **One character that is written out is read back.** -/
theorem percentDecode_writeOutChar (c : Char) (rest : List Char) :
    percentDecode ((writeOutChar c).map f ++ rest) =
      String.utf8EncodeChar (f c) ++ percentDecode rest := by
  cases he : linkEscape? c with
  | none =>
    rw [writeOutChar, he]
    exact Url.percentDecode_cons_of_ne (h.plain he) rest
  | some e =>
    obtain ⟨a, b, high, low, rfl, ha, hb, hbytes⟩ := exists_digits_of_linkEscape? he
    rw [writeOutChar, he, h.escaped he, hbytes]
    show percentDecode (f '%' :: f a :: f b :: rest) = _
    rw [h.digit ha, h.digit hb, h.percent, percentDecode]
    simp only [Url.escapedByte?, ha, hb]
    rfl

/-- **What is written out is read as it was.** -/
theorem percentDecode_writeOut (cs : List Char) :
    percentDecode ((writeOut cs).map f) = (cs.map f).flatMap String.utf8EncodeChar := by
  induction cs with
  | nil => simp [writeOut, percentDecode]
  | cons c cs ih =>
    have hcons : writeOut (c :: cs) = writeOutChar c ++ writeOut cs := List.flatMap_cons
    rw [hcons, List.map_append, h.percentDecode_writeOutChar, ih, List.map_cons, List.flatMap_cons]

end KeepsEscapes

theorem keepsEscapes_blankForPlus : KeepsEscapes blankForPlus := by
  refine ⟨rfl, fun h => if_neg ?_, fun h => if_neg ?_, fun h => ?_⟩
  · rintro rfl
    cases h
  · rintro rfl
    cases h
  · unfold blankForPlus
    split_ifs
    · decide
    · exact ne_percent_of_linkEscape? h

/-- What is written out is read as it was, a plus sign as a blank. -/
theorem formDecode_writeOut (cs : List Char) :
    formDecode (writeOut cs) = some (asWritten cs) := by
  rw [Url.formDecode_eq, keepsEscapes_blankForPlus.percentDecode_writeOut,
    Url.fromUTF8?_flatMap_utf8EncodeChar]
  rfl

/-! ## Pairs that are written out -/

theorem writeOut_append (cs ds : List Char) : writeOut (cs ++ ds) = writeOut cs ++ writeOut ds :=
  List.flatMap_append

theorem writeOutChar_ne_nil (c : Char) : writeOutChar c ≠ [] := by
  unfold writeOutChar
  cases h : linkEscape? c with
  | none => simp
  | some e =>
    obtain ⟨a, b, -, -, rfl, -⟩ := exists_digits_of_linkEscape? h
    simp

theorem writeOut_cons (c : Char) (cs : List Char) :
    writeOut (c :: cs) = writeOutChar c ++ writeOut cs := List.flatMap_cons

/-- A character that nothing is written out with stays in its place. -/
structure StaysInPlace (sep : Char) : Prop where
  /-- It is left as it is. -/
  kept : linkEscape? sep = none
  /-- It is no digit. -/
  noDigit : Url.hexValue? sep = none

namespace StaysInPlace

variable {sep : Char} (h : StaysInPlace sep)
include h

theorem writeOutChar_eq : writeOutChar sep = [sep] := by
  rw [writeOutChar, h.kept]
  rfl

/-- Writing out brings in nothing but percent signs and digits. -/
theorem mem_of_mem_writeOut {cs : List Char} (hmem : sep ∈ writeOut cs) : sep ∈ cs := by
  obtain ⟨c, hc, hin⟩ := List.mem_flatMap.1 hmem
  unfold writeOutChar at hin
  cases he : linkEscape? c with
  | none =>
    rw [he, Option.getD_none, List.mem_singleton] at hin
    rwa [hin]
  | some e =>
    obtain ⟨a, b, high, low, rfl, ha, hb, -⟩ := exists_digits_of_linkEscape? he
    have hno := h.noDigit
    rw [he, Option.getD_some] at hin
    simp only [List.mem_cons, List.not_mem_nil, or_false] at hin
    rcases hin with rfl | rfl | rfl
    · exact absurd rfl (ne_percent_of_linkEscape? h.kept)
    · rw [ha] at hno
      cases hno
    · rw [hb] at hno
      cases hno

theorem not_mem_writeOut {cs : List Char} (hnot : sep ∉ cs) : sep ∉ writeOut cs :=
  fun hmem => hnot (h.mem_of_mem_writeOut hmem)

/-- Pieces are cut in the same places when they are written out. -/
theorem cutAtChar_writeOut (cs : List Char) :
    cutAtChar sep (writeOut cs) = (cutAtChar sep cs).map writeOut := by
  induction cs with
  | nil => rfl
  | cons c rest ih =>
    rw [writeOut_cons, cutAtChar]
    by_cases hc : c = sep
    · rw [if_pos hc, hc, h.writeOutChar_eq, List.singleton_append, cutAtChar, if_pos rfl, ih]
      rfl
    · rw [if_neg hc]
      have hnot : sep ∉ writeOutChar c := by
        intro hmem
        have hsep : sep ∈ writeOut [c] := by
          rwa [writeOut, List.flatMap_singleton]
        exact hc (List.mem_singleton.1 (h.mem_of_mem_writeOut hsep)).symm
      cases hrest : cutAtChar sep rest with
      | nil => exact absurd hrest (Url.cutAtChar_ne_nil sep rest)
      | cons piece more =>
        rw [hrest, List.map_cons] at ih
        rw [Url.cutAtChar_append_of_not_mem hnot ih, List.map_cons, writeOut_cons]

end StaysInPlace

theorem staysInPlace_ampersand : StaysInPlace '&' := ⟨rfl, rfl⟩

theorem staysInPlace_equals : StaysInPlace '=' := ⟨rfl, rfl⟩

theorem staysInPlace_question : StaysInPlace '?' := ⟨rfl, rfl⟩

theorem staysInPlace_number : StaysInPlace '#' := ⟨rfl, rfl⟩

theorem staysInPlace_tab : StaysInPlace '\t' := ⟨rfl, rfl⟩

theorem staysInPlace_return : StaysInPlace '\r' := ⟨rfl, rfl⟩

/-- Name and value are cut in the same place when a pair is written out. -/
theorem cutPair_writeOut (cs : List Char) :
    cutPair (writeOut cs) = (cutPair cs).map writeOut writeOut := by
  by_cases hmem : '=' ∈ cs
  · obtain ⟨name, value, rfl, hname⟩ := List.eq_append_cons_of_mem hmem
    have hname' : '=' ∉ writeOut name := staysInPlace_equals.not_mem_writeOut hname
    rw [writeOut_append, writeOut_cons, staysInPlace_equals.writeOutChar_eq,
      List.singleton_append, Url.cutPair_append hname', Url.cutPair_append hname]
    rfl
  · have hmem' : '=' ∉ writeOut cs := staysInPlace_equals.not_mem_writeOut hmem
    rw [Url.cutPair_of_not_mem hmem', Url.cutPair_of_not_mem hmem]
    rfl

/-- **The pairs of a query** are written out one by one. -/
theorem queryPairs_writeOut (query : List Char) :
    queryPairs (writeOut query) = (queryPairs query).map (Prod.map writeOut writeOut) := by
  have hempty : ∀ p : List Char, (writeOut p).isEmpty = p.isEmpty := by
    intro p
    cases p with
    | nil => rfl
    | cons c rest =>
      have hne : writeOut (c :: rest) ≠ [] := by
        rw [writeOut_cons]
        exact List.append_ne_nil_of_left_ne_nil (writeOutChar_ne_nil c) _
      exact List.isEmpty_eq_false_iff.2 hne
  unfold queryPairs
  rw [staysInPlace_ampersand.cutAtChar_writeOut, List.filter_map, List.map_map, List.map_map]
  have hkeep : ((fun p : List Char => !p.isEmpty) ∘ writeOut) = fun p => !p.isEmpty := by
    funext p
    rw [Function.comp_apply, hempty]
  rw [hkeep]
  exact List.map_congr_left fun p _ => cutPair_writeOut p

/-! ## Links that are followed -/

/-- A place behind its number sign. -/
def anchorText : Option (List Char) → List Char
  | some place => '#' :: place
  | none => []

/-- A place begins with a number sign. -/
theorem takeWhile_anchorText (place : Option (List Char)) :
    (anchorText place).takeWhile (fun c => c ≠ '#') = [] := by
  cases place <;> simp [anchorText]

/-- The URL that a reader of the sheet follows. -/
def StoredLink.followed (l : StoredLink) : List Char :=
  l.target.toList ++ anchorText (l.location.map String.toList)

/-- The query of a URL: what stands behind its first question mark, up to its first number sign. -/
def queryOf (url : List Char) : List Char :=
  ((url.takeWhile (fun c => c ≠ '#')).dropWhile (fun c => c ≠ '?')).drop 1

/-- The pairs that are read from a query. -/
def readPairs (query : List Char) : List (Option String × Option String) :=
  (queryPairs query).map (Prod.map formDecode formDecode)

/-- **What is read from a query that is written out**: its pairs as they were written. -/
theorem readPairs_writeOut (query : List Char) : readPairs (writeOut query) =
    (queryPairs query).map (Prod.map (some ∘ asWritten) (some ∘ asWritten)) := by
  rw [readPairs, queryPairs_writeOut, List.map_map]
  refine List.map_congr_left fun p _ => ?_
  exact Prod.ext (formDecode_writeOut p.1) (formDecode_writeOut p.2)

/-- Reading an attribute changes tabs and carriage returns only, to blanks. -/
theorem mem_of_mem_attributeText {c : Char} (hblank : c ≠ ' ') {cs : List Char}
    (h : c ∈ (attributeText cs).toList) : c ∈ cs := by
  rw [attributeText, String.toList_ofList] at h
  obtain ⟨d, hd, hc⟩ := List.mem_map.1 h
  split_ifs at hc
  · exact absurd hc.symm hblank
  · rwa [← hc]

theorem attributeText_eq {cs : List Char} (htab : '\t' ∉ cs) (hreturn : '\r' ∉ cs) :
    (attributeText cs).toList = cs := by
  rw [attributeText, String.toList_ofList]
  have hsame : ∀ c ∈ cs, (if c = '\t' || c = '\r' then ' ' else c) = c := by
    intro c hc
    have hne : c ≠ '\t' := by
      rintro rfl
      exact htab hc
    have hne' : c ≠ '\r' := by
      rintro rfl
      exact hreturn hc
    simp [hne, hne']
  exact (List.map_congr_left hsame).trans (List.map_id _)

theorem attributeText_append (cs ds : List Char) :
    (attributeText (cs ++ ds)).toList = (attributeText cs).toList ++ (attributeText ds).toList := by
  simp [attributeText]

/-- **The query of a link that is followed** stands behind its first question mark, whatever place
it leads to. -/
theorem queryOf_followed {front query : List Char} (hquestion : '?' ∉ front) (hnumber : '#' ∉ front)
    (hquery : '#' ∉ query ∧ '\t' ∉ query ∧ '\r' ∉ query) (location : Option String) :
    queryOf (StoredLink.followed ⟨attributeText (front ++ '?' :: query), location⟩) = query := by
  have htail : (attributeText ('?' :: query)).toList = '?' :: query := by
    refine attributeText_eq ?_ ?_
    · rw [List.mem_cons, not_or]
      exact ⟨by decide, hquery.2.1⟩
    · rw [List.mem_cons, not_or]
      exact ⟨by decide, hquery.2.2⟩
  have htarget : (attributeText (front ++ '?' :: query)).toList =
      (attributeText front).toList ++ '?' :: query := by
    rw [attributeText_append, htail]
  have hnumber' : '#' ∉ (attributeText front).toList ++ '?' :: query := by
    intro hmem
    rcases List.mem_append.1 hmem with hfront | hbehind
    · exact hnumber (mem_of_mem_attributeText (by decide) hfront)
    · rcases List.mem_cons.1 hbehind with heq | hin
      · exact absurd heq (by decide)
      · exact hquery.1 hin
  have hquestion' : '?' ∉ (attributeText front).toList := by
    intro hmem
    exact hquestion (mem_of_mem_attributeText (by decide) hmem)
  rw [StoredLink.followed, queryOf, htarget,
    List.takeWhile_append_of_pos (Url.decide_ne_of_not_mem hnumber'),
    takeWhile_anchorText, List.append_nil,
    List.dropWhile_append_of_pos (Url.decide_ne_of_not_mem hquestion')]
  simp

/-- **What is read from a stored link**: its pairs, if it holds a written form already, and else its
pairs as they were written. -/
theorem readPairs_keepLink {front query : List Char} (hquestion : '?' ∉ front)
    (hnumber : '#' ∉ front) (hquery : '#' ∉ query ∧ '\t' ∉ query ∧ '\r' ∉ query)
    (location : Option (List Char)) :
    readPairs (queryOf (keepLink (front ++ '?' :: query) location).followed) =
      if holdsEscape (front ++ '?' :: query) then readPairs query
      else (queryPairs query).map (Prod.map (some ∘ asWritten) (some ∘ asWritten)) := by
  rw [keepLink, escapeLink_eq]
  split_ifs
  · rw [queryOf_followed hquestion hnumber hquery]
  · have hquestion' := staysInPlace_question.not_mem_writeOut hquestion
    have hnumber' := staysInPlace_number.not_mem_writeOut hnumber
    have hquery' := And.intro (staysInPlace_number.not_mem_writeOut hquery.1)
      (And.intro (staysInPlace_tab.not_mem_writeOut hquery.2.1)
        (staysInPlace_return.not_mem_writeOut hquery.2.2))
    rw [writeOut_append, writeOut_cons, staysInPlace_question.writeOutChar_eq,
      List.singleton_append, queryOf_followed hquestion' hnumber' hquery', readPairs_writeOut]

end Tagging
