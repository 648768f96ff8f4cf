import Tagging.CommandLine.Arguments
import Tagging.Proofs.Report.LiveLinks

/-!
# Targets of live links

A live link is its base with two more pairs in the query.  No form escapes what it cannot give back,
no id holds the comma that stands between ids, and no part of a URL holds the mark that begins the
next one.  So the link says what it was made for, and different links were made for different
things.

* `signedValue?_toString`, `readIds?_idList` — numbers and **lists of ids, read back**;
* `idList_injective` — **different lists** are written differently;
* `Url.Written.read_chars` — a URL in its parts, read from its text;
* `live_link_reads_back` — **what a live link says**, for every base, file and list of ids.
-/

namespace Tagging

open Url (cutAtChar formDecode formEncode mapAll? queryPairs)

/-! ## Whole numbers -/

/-- A whole number in base ten, with or without a sign. -/
def signedValue? : List Char → Option Int
  | '-' :: cs => (digitsValue? cs).map fun n => -(n : Int)
  | '+' :: cs => (digitsValue? cs).map Int.ofNat
  | cs => (digitsValue? cs).map Int.ofNat

theorem digitsValue?_toDigits (n : Nat) : digitsValue? (Nat.toDigits 10 n) = some n := by
  have hdigits : (Nat.toDigits 10 n).all Char.isDigit = true :=
    List.all_eq_true.2 fun c hc => Nat.isDigit_of_mem_toDigits (by decide) (by decide) hc
  have hvalue : (Nat.toDigits 10 n).foldl (fun m c => m * 10 + (c.toNat - '0'.toNat)) 0 = n := by
    simp only [Nat.mul_comm _ 10]
    exact Nat.ofDigitChars_ten_toDigits
  rw [digitsValue?, hdigits, hvalue]
  simp [Nat.toDigits_ne_nil]

/-- **A number is read back.** -/
theorem signedValue?_toString (n : Int) : signedValue? (toString n).toList = some n := by
  cases n with
  | ofNat n =>
    show signedValue? n.repr.toList = _
    rw [Nat.toList_repr]
    have hdigit : ∀ c ∈ Nat.toDigits 10 n, c.isDigit = true := fun c hc =>
      Nat.isDigit_of_mem_toDigits (by decide) (by decide) hc
    -- no digit is a sign
    unfold signedValue?
    split
    · rename_i heq
      exact absurd (hdigit '-' (by rw [heq]; exact List.mem_cons_self ..)) (by decide)
    · rename_i heq
      exact absurd (hdigit '+' (by rw [heq]; exact List.mem_cons_self ..)) (by decide)
    · rw [digitsValue?_toDigits]
      rfl
  | negSucc n =>
    have htext : (toString (Int.negSucc n)).toList = '-' :: Nat.toDigits 10 (n + 1) := by
      show ("-" ++ (n + 1).repr).toList = _
      rw [String.toList_append, Nat.toList_repr]
      rfl
    rw [htext, signedValue?, digitsValue?_toDigits]
    rfl

theorem toString_int_injective : Function.Injective fun n : Int => (toString n).toList := by
  intro m n h
  have hread := congrArg signedValue? h
  rw [signedValue?_toString, signedValue?_toString] at hread
  exact Option.some.inj hread

theorem toList_toString_ne_nil (n : Int) : (toString n).toList ≠ [] := by
  intro hnil
  have hread := signedValue?_toString n
  rw [hnil] at hread
  cases hread

/-! ## Lists of ids -/

/-- The number takes 64 bits with its sign. -/
def Signed64 (n : Int) : Prop := -(Int.pow 2 63) ≤ n ∧ n < Int.pow 2 63

instance : DecidablePred Signed64 := fun _ => inferInstanceAs (Decidable (_ ∧ _))

/-- The id that a text stands for. -/
def readId? (cs : List Char) : Option QueryId :=
  (signedValue? cs).filter fun n => decide (Signed64 n)

/-- The ids that a text stands for, with commas between them. -/
def readIds? (s : String) : Option (List QueryId) := mapAll? readId? (cutAtChar ',' s.toList)

theorem comma_not_mem_toString (id : QueryId) : ',' ∉ (toString id).toList := by
  intro hmem
  exact absurd (isFormPlain_of_mem_toString hmem) (by decide)

/-- **A list of ids** is cut into its ids. -/
theorem cutAtChar_idList {ids : List QueryId} (h : ids ≠ []) :
    cutAtChar ',' (idList ids).toList = ids.map fun id => (toString id).toList := by
  induction ids with
  | nil => exact absurd rfl h
  | cons a rest ih =>
    have hone := Url.cutAtChar_of_not_mem (comma_not_mem_toString a)
    cases rest with
    | nil => rw [idList, List.map_singleton, String.intercalate_singleton, hone, List.map_singleton]
    | cons b more =>
      rw [toList_idList_cons_cons, Url.cutAtChar_append, hone, ih (List.cons_ne_nil _ _)]
      rfl

/-- **A list of ids is read back.** -/
theorem readIds?_idList {ids : List QueryId} (h : ids ≠ []) (hids : ∀ id ∈ ids, Signed64 id) :
    readIds? (idList ids) = some ids := by
  rw [readIds?, cutAtChar_idList h]
  clear h
  induction ids with
  | nil => rfl
  | cons a rest ih =>
    obtain ⟨ha, hrest⟩ := List.forall_mem_cons.1 hids
    have hread : readId? (toString a).toList = some a := by
      rw [readId?, signedValue?_toString, Option.filter_eq_some_iff]
      exact ⟨rfl, decide_eq_true ha⟩
    rw [List.map_cons, mapAll?, hread, ih hrest]

/-- **Different lists** are written differently, the empty one among them. -/
theorem idList_injective : Function.Injective idList := by
  have hempty : ∀ {ids : List QueryId}, idList ids = "" → ids = [] := by
    intro ids hnil
    by_contra hne
    have hcut := cutAtChar_idList hne
    rw [hnil] at hcut
    obtain ⟨a, rest, rfl⟩ := List.exists_cons_of_ne_nil hne
    exact toList_toString_ne_nil a (List.cons.inj hcut).1.symm
  intro ids ids' h
  by_cases hids : ids = []
  · subst hids
    exact (hempty h.symm).symm
  · have hids' : ids' ≠ [] := by
      rintro rfl
      exact hids (hempty h)
    have hcut : cutAtChar ',' (idList ids).toList = cutAtChar ',' (idList ids').toList := by rw [h]
    rw [cutAtChar_idList hids, cutAtChar_idList hids'] at hcut
    exact List.map_injective_iff.2 toString_int_injective hcut

/-! ## URLs in their parts -/

namespace Url

/-- What stands in a URL before its first mark: scheme, host and path. -/
def frontOf (url : List Char) : List Char := url.takeWhile fun c => !endsPath c

/-- What stands in a URL behind its first number sign, if there is one. -/
def fragmentOf (url : List Char) : Option (List Char) := (url.dropWhile fun c => c ≠ '#').tail?

/-- **A URL is read from its text** in the parts that it was written in. -/
theorem Written.read_chars {u : Url} (h : Written u) :
    frontOf u.chars = u.front ∧ queryOf u.chars = u.query.getD [] ∧
      fragmentOf u.chars = u.fragment := by
  obtain ⟨hquestion, hnumber⟩ := unmarked_iff.1 h.front
  have hfront : ∀ c ∈ u.front, (!endsPath c) = true := fun c hc => by rw [h.front c hc]; rfl
  cases hquery : u.query with
  | none =>
    have hchars : u.chars = u.front ++ anchorText u.fragment := by
      rw [chars, hquery, List.append_nil]
      rfl
    rw [hchars]
    refine ⟨?_, ?_, ?_⟩
    · rw [frontOf, List.takeWhile_append_of_pos hfront]
      cases u.fragment <;> simp [anchorText, endsPath]
    · rw [queryOf, List.takeWhile_append_of_pos (decide_ne_of_not_mem hnumber),
        takeWhile_anchorText, List.append_nil,
        List.dropWhile_eq_nil_iff.2 (decide_ne_of_not_mem hquestion)]
      rfl
    · rw [fragmentOf, List.dropWhile_append_of_pos (decide_ne_of_not_mem hnumber)]
      cases u.fragment <;> simp [anchorText]
  | some q =>
    have hchars : u.chars = u.front ++ '?' :: q ++ anchorText u.fragment := by
      rw [chars, hquery]
      rfl
    have hnumber' : '#' ∉ u.front ++ '?' :: q := by
      rw [List.mem_append, List.mem_cons, not_or, not_or]
      exact ⟨hnumber, by decide, (h.query q hquery).1⟩
    rw [hchars]
    refine ⟨?_, ?_, ?_⟩
    · rw [frontOf, List.append_assoc, List.takeWhile_append_of_pos hfront]
      simp [endsPath]
    · rw [queryOf, List.takeWhile_append_of_pos (decide_ne_of_not_mem hnumber'),
        takeWhile_anchorText, List.append_nil,
        List.dropWhile_append_of_pos (decide_ne_of_not_mem hquestion)]
      simp
    · rw [fragmentOf, List.dropWhile_append_of_pos (decide_ne_of_not_mem hnumber')]
      cases u.fragment <;> simp [anchorText]

end Url

/-! ## Live links -/

section Link

variable {base : Url} {fileId fileId' : String} {ids ids' : List QueryId}

/-- **The parts of a live link** are those of its base but for the query. -/
theorem liveLink_eq : liveLink base fileId ids =
    Url.text { base with query := some (liveQuery base fileId ids) } := rfl

/-- Its marks stand in their places as those of its base do. -/
theorem written_liveQuery (hbase : Url.Written base) :
    Url.Written { base with query := some (liveQuery base fileId ids) } := by
  refine ⟨hbase.scheme, hbase.authority, hbase.path, ?_, hbase.special⟩
  rintro q ⟨⟩
  exact kept_liveQuery hbase

/-- **What is read from a live link.** -/
theorem read_liveLink (hbase : Url.Written base) (fileId : String) (ids : List QueryId) :
    Url.frontOf (liveLink base fileId ids).toList = base.front ∧
      queryOf (liveLink base fileId ids).toList = liveQuery base fileId ids ∧
      Url.fragmentOf (liveLink base fileId ids).toList = base.fragment := by
  rw [liveLink_eq, Url.text, String.toList_ofList]
  exact (written_liveQuery hbase).read_chars

/-- **Links over one base** are different for different files and lists. -/
theorem eq_of_liveLink_eq (hbase : Url.Written base)
    (h : liveLink base fileId ids = liveLink base fileId' ids') : fileId = fileId' ∧ ids = ids' := by
  have hquery : liveQuery base fileId ids = liveQuery base fileId' ids' := by
    rw [← (read_liveLink hbase fileId ids).2.1, h, (read_liveLink hbase fileId' ids').2.1]
  have hpairs := congrArg readPairs hquery
  rw [readPairs_liveQuery, readPairs_liveQuery, List.append_cancel_left_eq] at hpairs
  simp only [List.cons.injEq, Prod.mk.injEq, Option.some.injEq, true_and, and_true] at hpairs
  exact ⟨hpairs.1, idList_injective hpairs.2⟩

end Link

/-- **What a live link says.**  Take a base that is read from any text, any file and any ids of 64
bits, one at least.  Then the link is written as the base with another query, and so it is read: the
scheme, the host and the path in front, the fragment behind, and the pairs of the base with two more
behind them.  Read as a form, the first of these two gives back the file; the other gives back the
ids, cut at the commas.  And no other file or list has the same link over this base. -/
theorem live_link_reads_back {text : String} {base : Url} (hbase : Url.ofText text = .ok base)
    (fileId : String) {ids : List QueryId} (hsome : ids ≠ []) (hids : ∀ id ∈ ids, Signed64 id) :
    (∃ query file queries,
      liveLink base fileId ids = Url.text { base with query := some query } ∧
      Url.frontOf (liveLink base fileId ids).toList = Url.frontOf base.text.toList ∧
      Url.fragmentOf (liveLink base fileId ids).toList = Url.fragmentOf base.text.toList ∧
      queryOf (liveLink base fileId ids).toList = query ∧
      queryPairs query = queryPairs (queryOf base.text.toList) ++ [file, queries] ∧
      formDecode file.1 = some "file_id" ∧ formDecode file.2 = some fileId ∧
      formDecode queries.1 = some "query_ids" ∧
      (formDecode queries.2).bind readIds? = some ids) ∧
    ∀ (fileId' : String) (ids' : List QueryId),
      liveLink base fileId' ids' = liveLink base fileId ids → fileId' = fileId ∧ ids' = ids := by
  have hwritten := Url.written_of_ofText hbase
  obtain ⟨hfront, hquery, hfragment⟩ := read_liveLink hwritten fileId ids
  obtain ⟨hfront', hquery', hfragment'⟩ := hwritten.read_chars
  have htext : base.text.toList = base.chars := String.toList_ofList
  refine ⟨⟨liveQuery base fileId ids, (formEncode "file_id", formEncode fileId),
    (formEncode "query_ids", formEncode (idList ids)), liveLink_eq, ?_, ?_, hquery, ?_,
    Url.formDecode_formEncode _, Url.formDecode_formEncode _, Url.formDecode_formEncode _, ?_⟩,
    fun fileId' ids' h => eq_of_liveLink_eq hwritten h⟩
  · rw [hfront, htext, hfront']
  · rw [hfragment, htext, hfragment']
  · rw [queryPairs_liveQuery, htext, hquery']
  · rw [Url.formDecode_formEncode]
    exact readIds?_idList hsome hids

/-- A file id with all that a form escapes, a negative id, and a base with a pair and a fragment. -/
theorem live_link_reads_back_escapes :
    let base : Url := ⟨"http".toList, some ⟨[], none, some (.domain "h".toList), none⟩,
      .segments ["s".toList], some "lang=en".toList, some "top".toList⟩
    let link := (liveLink base "a b+&=%,ü" [-5, 7]).toList
    Url.ofText "http://h/s?lang=en#top" = .ok base ∧
      Url.frontOf link = "http://h/s".toList ∧ Url.fragmentOf link = some "top".toList ∧
      ∃ file queries,
        queryPairs (queryOf link) = [("lang".toList, "en".toList), file, queries] ∧
        formDecode file.2 = some "a b+&=%,ü" ∧
        (formDecode queries.2).bind readIds? = some [-5, 7] := by
  intro base link
  have hbase : Url.ofText "http://h/s?lang=en#top" = .ok base := by decide +kernel
  have hids : ∀ id ∈ ([-5, 7] : List QueryId), Signed64 id := by decide
  obtain ⟨⟨query, file, queries, -, hfront, hfragment, hquery, hpairs, -, hfile, -, hread⟩, -⟩ :=
    live_link_reads_back hbase "a b+&=%,ü" (List.cons_ne_nil _ _) hids
  refine ⟨hbase, hfront.trans (by decide +kernel), hfragment.trans (by decide +kernel), file,
    queries, ?_, hfile, hread⟩
  have hown : queryPairs (queryOf base.text.toList) = [("lang".toList, "en".toList)] := by
    decide +kernel
  rw [hquery, hpairs, hown]
  rfl

end Tagging
