import Tagging.FileTree
import Tagging.Proofs.Report.StoredLinks
import Tagging.Report.Link

/-!
# Where a stored file link leads

A file link is kept relative to the directory of its sheet where that can be told, cut at its first
number sign and written out.  Who follows it undoes the escapes and takes what they get as a path.

* `percentText?`, `percentText?_cases` — a text with its escapes undone is **the same or shorter**;
* `percentText?_writeOut` — what is written out is read as it was, but for tabs;
* `storeLink?_file` — **what is kept of a file link**;
* `snapshotPath`, `toList_snapshotLink` — the path in the link to a snapshot;
* `firstSegment`, `firstSegment_read`, `firstSegment_snapshotPath` — what stands in front of the
  first separator;
* `StoredLink.path?`, `StoredLink.isRelative`, `StoredLink.LeadsTo` — where a stored link leads.
-/

namespace Tagging

open Url (percentDecode)

/-! ## Escapes undone -/

/-- The text that characters stand for with their escapes undone, if its bytes are a text. -/
def percentText? (cs : List Char) : Option String :=
  String.fromUTF8? (ByteArray.mk (percentDecode cs).toArray)

/-- How many bytes characters have. -/
def byteCount (cs : List Char) : Nat := (cs.flatMap String.utf8EncodeChar).length

theorem byteCount_append (cs ds : List Char) :
    byteCount (cs ++ ds) = byteCount cs + byteCount ds := by
  rw [byteCount, List.flatMap_append, List.length_append]
  rfl

theorem byteCount_cons (c : Char) (cs : List Char) :
    byteCount (c :: cs) = c.utf8Size + byteCount cs := by
  rw [byteCount, List.flatMap_cons, List.length_append, String.length_utf8EncodeChar]
  rfl

theorem byteCount_pos {cs : List Char} (h : cs ≠ []) : 0 < byteCount cs := by
  obtain ⟨c, rest, rfl⟩ := List.exists_cons_of_ne_nil h
  rw [byteCount_cons]
  exact Nat.add_pos_left c.utf8Size_pos _

theorem exists_of_escapedByte? {c : Char} {rest : List Char} {byte : UInt8}
    (h : Url.escapedByte? c rest = some byte) : ∃ a b more, rest = a :: b :: more := by
  unfold Url.escapedByte? at h
  split at h
  · exact ⟨_, _, _, rfl⟩
  · cases h

/-- Each escape takes three characters and leaves a byte. -/
theorem percentDecode_cases (cs : List Char) :
    percentDecode cs = cs.flatMap String.utf8EncodeChar ∨
      (percentDecode cs).length < byteCount cs := by
  fun_induction percentDecode cs with
  | case1 => exact .inl rfl
  | case2 c rest byte hescaped ih =>
    right
    obtain ⟨a, b, more, rfl⟩ := exists_of_escapedByte? hescaped
    have hc := c.utf8Size_pos
    have ha := a.utf8Size_pos
    have hb := b.utf8Size_pos
    rw [List.drop_succ_cons, List.drop_succ_cons, List.drop_zero] at ih ⊢
    rw [List.length_cons, byteCount_cons, byteCount_cons, byteCount_cons]
    rcases ih with heq | hlt
    · rw [heq, ← byteCount]
      omega
    · omega
  | case3 c rest hplain ih =>
    rw [List.flatMap_cons, byteCount_cons, List.length_append, String.length_utf8EncodeChar]
    rcases ih with heq | hlt
    · exact .inl (by rw [heq])
    · exact .inr (by omega)

theorem flatMap_of_percentText? {cs : List Char} {s : String} (h : percentText? cs = some s) :
    s.toList.flatMap String.utf8EncodeChar = percentDecode cs := by
  unfold percentText? at h
  have hvalid : (ByteArray.mk (percentDecode cs).toArray).IsValidUTF8 := by
    by_contra hnot
    rw [String.fromUTF8?, dif_neg hnot] at h
    cases h
  obtain ⟨ds, hds⟩ := hvalid
  have hbytes : percentDecode cs = ds.flatMap String.utf8EncodeChar := by
    have harray := congrArg (fun b : ByteArray => b.data.toList) hds
    simpa [List.utf8Encode] using harray
  rw [hbytes, Url.fromUTF8?_flatMap_utf8EncodeChar] at h
  rw [← Option.some.inj h, String.toList_ofList, hbytes]

/-- **A text with its escapes undone** is the same or has fewer bytes. -/
theorem percentText?_cases {cs : List Char} {s : String} (h : percentText? cs = some s) :
    s.toList = cs ∨ byteCount s.toList < byteCount cs := by
  rcases percentDecode_cases cs with hsame | hfewer
  · left
    rw [percentText?, hsame, Url.fromUTF8?_flatMap_utf8EncodeChar] at h
    rw [← Option.some.inj h, String.toList_ofList]
  · right
    rwa [byteCount, flatMap_of_percentText? h]

/-! ## Tabs -/

/-- Is it a tab or a carriage return? -/
def isTab (c : Char) : Bool := c = '\t' || c = '\r'

/-- A tab or a carriage return is read as a blank. -/
def blankForTab (c : Char) : Char := if isTab c then ' ' else c

theorem toList_attributeText (cs : List Char) : (attributeText cs).toList = cs.map blankForTab := by
  rw [attributeText, String.toList_ofList]
  rfl

theorem blankForTab_eq_self {c : Char} : blankForTab c = c ↔ isTab c = false := by
  unfold blankForTab
  split_ifs with h
  · rw [h]
    refine iff_of_false ?_ (by decide)
    rintro rfl
    cases h
  · simp [h]

/-- A text without tabs and carriage returns. -/
def Tabless (s : String) : Prop := ∀ c ∈ s.toList, isTab c = false

instance (s : String) : Decidable (Tabless s) :=
  List.decidableBAll (fun c => isTab c = false) s.toList

/-- Nothing but a blank comes from a tab. -/
theorem blankForTab_eq_iff {c d : Char} (hd : d ≠ ' ') (htab : isTab d = false) :
    blankForTab c = d ↔ c = d := by
  unfold blankForTab
  split_ifs with h
  · refine iff_of_false hd.symm ?_
    rintro rfl
    rw [h] at htab
    cases htab
  · rfl

theorem map_blankForTab_eq_self {cs : List Char} :
    cs.map blankForTab = cs ↔ ∀ c ∈ cs, isTab c = false := by
  induction cs with
  | nil => simp
  | cons c cs ih => simp [ih, blankForTab_eq_self]

theorem keepsEscapes_blankForTab : KeepsEscapes blankForTab := by
  have hkept {c : Char} (h : c ≠ '\t') (h' : c ≠ '\r') : blankForTab c = c :=
    blankForTab_eq_self.2 (by simp [isTab, h, h'])
  refine ⟨rfl, fun h => hkept ?_ ?_, fun h => hkept ?_ ?_, fun h => ?_⟩
  · rintro rfl
    cases h
  · rintro rfl
    cases h
  · rintro rfl
    cases h
  · rintro rfl
    cases h
  · rw [Ne, blankForTab_eq_iff (by decide) rfl]
    exact ne_percent_of_linkEscape? h

/-- **What is written out is read as it was**, but for tabs. -/
theorem percentText?_writeOut (cs : List Char) :
    percentText? ((writeOut cs).map blankForTab) = some (String.ofList (cs.map blankForTab)) := by
  rw [percentText?, keepsEscapes_blankForTab.percentDecode_writeOut,
    Url.fromUTF8?_flatMap_utf8EncodeChar]

/-- What nothing is written out with stays away from what is read. -/
theorem StaysInPlace.not_mem_read {sep : Char} (h : StaysInPlace sep) (hblank : sep ≠ ' ')
    (htab : isTab sep = false) {cs : List Char} (hnot : sep ∉ cs) :
    sep ∉ (writeOut cs).map blankForTab := by
  intro hmem
  obtain ⟨c, hc, heq⟩ := List.mem_map.1 hmem
  rw [blankForTab_eq_iff hblank htab] at heq
  exact h.not_mem_writeOut hnot (heq ▸ hc)

theorem staysInPlace_slash : StaysInPlace '/' := ⟨rfl, rfl⟩

theorem staysInPlace_colon : StaysInPlace ':' := ⟨rfl, rfl⟩

/-! ## First segments -/

/-- The characters in front of the first separator. -/
def firstSegment (cs : List Char) : List Char := cs.takeWhile fun c => c ≠ '/'

theorem firstSegment_of_notMem {cs : List Char} (h : '/' ∉ cs) : firstSegment cs = cs := by
  refine List.takeWhile_eq_self_iff.2 fun c hc => decide_eq_true ?_
  rintro rfl
  exact h hc

theorem firstSegment_append {cs : List Char} (h : '/' ∉ cs) (rest : List Char) :
    firstSegment (cs ++ '/' :: rest) = cs := by
  rw [firstSegment, List.takeWhile_append_of_pos (Url.decide_ne_of_not_mem h)]
  simp

/-- The first segment of what is read is read from the first segment. -/
theorem firstSegment_read (cs : List Char) :
    firstSegment ((writeOut cs).map blankForTab) =
      (writeOut (firstSegment cs)).map blankForTab := by
  have hread {ds : List Char} (h : '/' ∉ ds) := staysInPlace_slash.not_mem_read (by decide) rfl h
  by_cases hmem : '/' ∈ cs
  · obtain ⟨front, rest, rfl, hfront⟩ := List.eq_append_cons_of_mem hmem
    rw [firstSegment_append hfront, writeOut_append, writeOut_cons,
      staysInPlace_slash.writeOutChar_eq, List.singleton_append, List.map_append, List.map_cons]
    exact firstSegment_append (hread hfront) _
  · rw [firstSegment_of_notMem hmem, firstSegment_of_notMem (hread hmem)]

/-! ## What is kept of a file link -/

theorem holdsEscape_cons_of_ne {c : Char} (h : c ≠ '%') (rest : List Char) :
    holdsEscape (c :: rest) = holdsEscape rest := by
  have hnone : linkEscapes.any (fun e => e.isPrefixOf (c :: rest)) = false := by
    have hpercent : ∀ e ∈ linkEscapes, e.head? = some '%' := by decide
    refine List.any_eq_false.2 fun e he hbegins => ?_
    obtain ⟨more, rfl⟩ := List.head?_eq_some_iff.1 (hpercent e he)
    rw [List.isPrefixOf_cons_cons, Bool.and_eq_true, beq_iff_eq] at hbegins
    exact h hbegins.1.symm
  rw [holdsEscape, hnone, Bool.false_or]

theorem holdsEscape_append_of_notMem {cs : List Char} (h : '%' ∉ cs) (rest : List Char) :
    holdsEscape (cs ++ rest) = holdsEscape rest := by
  induction cs with
  | nil => rfl
  | cons c cs ih =>
    rw [List.mem_cons, not_or] at h
    rw [List.cons_append, holdsEscape_cons_of_ne (Ne.symm h.1), ih h.2]

theorem holdsEscape_eq_false {cs : List Char} (h : '%' ∉ cs) : holdsEscape cs = false := by
  rw [← List.append_nil cs, holdsEscape_append_of_notMem h]
  rfl

theorem isRelativeLink_cons_cons (c d : Char) (more : List Char) :
    isRelativeLink (c :: d :: more) =
      (!(c = '\\' && d = '\\') && (d ≠ ':' || c = ':' || 0x7F < c.toNat)) := by
  by_cases hback : c = '\\' ∧ d = '\\'
  · obtain ⟨rfl, rfl⟩ := hback
    rfl
  have hneither : (c = '\\' && d = '\\') = false := by simpa using hback
  rw [hneither, Bool.not_false, Bool.true_and]
  unfold isRelativeLink
  split
  · rename_i heq
    obtain ⟨hc, hrest⟩ := List.cons.inj heq
    exact absurd ⟨hc, (List.cons.inj hrest).1⟩ hback
  · rename_i heq
    obtain ⟨rfl, hrest⟩ := List.cons.inj heq
    obtain ⟨rfl, -⟩ := List.cons.inj hrest
    rfl
  · rename_i hother
    have hcolon : d ≠ ':' := fun hd => hother c more (hd ▸ rfl)
    simp [hcolon]

/-- Whether a path is relative is told by its first name, if that is long enough. -/
theorem isRelativeLink_append {cs : List Char} (hlength : 2 ≤ cs.length) (rest : List Char) :
    isRelativeLink (cs ++ rest) = isRelativeLink cs := by
  match cs, hlength with
  | c :: d :: more, _ =>
    rw [List.cons_append, List.cons_append, isRelativeLink_cons_cons, isRelativeLink_cons_cons]

theorem isRelativeLink_of_notMem {cs : List Char} (hlength : 2 ≤ cs.length) (hcolon : ':' ∉ cs)
    (hback : '\\' ∉ cs) : isRelativeLink cs = true := by
  match cs, hlength with
  | c :: d :: more, _ =>
    rw [List.mem_cons, List.mem_cons, not_or, not_or] at hcolon
    rw [List.mem_cons, not_or] at hback
    simp [isRelativeLink_cons_cons, Ne.symm hcolon.2.1, Ne.symm hback.1]

/-- The part of a file link that a sheet keeps: the path, if it is relative. -/
def keptPath (path : List Char) : List Char :=
  if isRelativeLink path then path else "file:///".toList ++ path

theorem dropBeginning?_append (beginning : String) (rest : List Char) :
    dropBeginning? beginning (beginning.toList ++ rest) = some rest := by
  rw [dropBeginning?, if_pos (List.isPrefixOf_iff_prefix.2 (List.prefix_append _ _)),
    ← String.length_toList, List.drop_left]

theorem exists_of_dropBeginning? {beginning : String} {cs rest : List Char}
    (h : dropBeginning? beginning cs = some rest) : cs = beginning.toList ++ rest := by
  unfold dropBeginning? at h
  split_ifs at h with hbegins
  obtain ⟨more, rfl⟩ := List.isPrefixOf_iff_prefix.1 hbegins
  rw [← String.length_toList, List.drop_left, Option.some.injEq] at h
  rw [h]

/-- **What is kept of a file link.** -/
theorem storeLink?_file {url : String} {path : List Char}
    (h : url.toList = "file:///".toList ++ path) {link : StoredLink} {own : String}
    (hstored : storeLink? url = some (link, own)) :
    link = keepLink (cutLocation (keptPath path)).1 (cutLocation (keptPath path)).2 := by
  have hpage : ["http://", "https://", "ftp://", "ftps://"].any
      (fun b => (dropBeginning? b ("file:///".toList ++ path)).isSome) = false := rfl
  have hmail : dropBeginning? "mailto:" ("file:///".toList ++ path) = none := rfl
  have hfile : dropBeginning? "file:///" ("file:///".toList ++ path) = some path :=
    dropBeginning?_append "file:///" path
  unfold storeLink? at hstored
  simp only [h, hpage, hmail, hfile, Bool.false_eq_true, if_false, Option.some.injEq,
    Prod.mk.injEq] at hstored
  exact hstored.1.symm

theorem cutLocation_of_notMem {cs : List Char} (h : '#' ∉ cs) : cutLocation cs = (cs, none) := by
  have hall : ∀ c ∈ cs, decide (c ≠ '#') = true := by
    intro c hc
    rw [decide_eq_true_iff]
    rintro rfl
    exact h hc
  rw [cutLocation, List.takeWhile_eq_self_iff.2 hall, List.dropWhile_eq_nil_iff.2 hall]

/-- The path in the link to a snapshot. -/
def snapshotPath (directory : String) (location : Path) : List Char :=
  directory.toList ++ location.components.flatMap fun c => '/' :: (stepText c).toList

theorem toList_snapshotLink (directory : String) (location : Path) :
    (snapshotLink directory location).toList =
      "file:///".toList ++ snapshotPath directory location := by
  rw [snapshotLink, snapshotPath, String.toList_append, String.toList_append, String.toList_join,
    List.flatMap_map, List.append_assoc]
  simp only [String.toList_append]
  rfl

theorem firstSegment_snapshotPath {directory : String} (h : '/' ∉ directory.toList)
    (location : Path) : firstSegment (snapshotPath directory location) = directory.toList := by
  rw [snapshotPath]
  cases location.components with
  | nil => rw [List.flatMap_nil, List.append_nil, firstSegment_of_notMem h]
  | cons first more => exact firstSegment_append h _

/-! ## Links that are followed as paths -/

namespace StoredLink

/-- Does the link begin with a name, and not with a scheme or a separator? -/
def isRelative (l : StoredLink) : Bool :=
  let first := firstSegment l.target.toList
  !first.isEmpty && !first.contains ':'

/-- The path that a relative link means, from the directory of its sheet. -/
def path? (l : StoredLink) : Option Path := (percentText? l.target.toList).map Path.mk

/-- Does the link lead to a place, if it is followed from a directory? -/
def LeadsTo {α : Type} (l : StoredLink) (t : FileTree α) (directory : Path) (place : Place) :
    Prop := ∃ path, l.path? = some path ∧ t.resolve (directory.join path) = .ok place

theorem leadsTo_iff {α : Type} {l : StoredLink} {t : FileTree α} {directory path : Path}
    {place : Place} (h : l.path? = some path) :
    l.LeadsTo t directory place ↔ t.resolve (directory.join path) = .ok place := by
  rw [LeadsTo, h]
  simp only [Option.some.injEq, exists_eq_left']

end StoredLink

end Tagging
