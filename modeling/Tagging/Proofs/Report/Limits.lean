import Tagging.Proofs.Number
import Tagging.Proofs.Report.Layout

/-!
# Sheets within their limits

A sheet has so many rows and columns, takes texts up to a length, and knows links by how they begin.
Where there is room for all rows and columns and all texts are short enough, only a link that the
sheet does not know can keep it from being laid out.

* `linkBeginnings`, `KnownLink`, `storeLink?_eq_none_iff` — the links that a sheet takes;
* `exists_textCell`, `exists_numberCell`, `exists_linkCell`, `linkCell_eq_error` — **one cell**;
* `Sheet.HasRoom`, `PlannedRow.IsShort` — the limits of a sheet;
* `rowCells_cases`, `error_mem_rowCells` — **one row** fails at its links only;
* `exists_of_collectCells_eq_ok`, `mem_of_collectCells_eq_error`, `layout_cases` — and so does
  **the whole sheet**.
-/

namespace Tagging

/-! ## Links that a sheet takes -/

/-- The beginnings by which a sheet knows a link. -/
def linkBeginnings : List String :=
  ["http://", "https://", "ftp://", "ftps://", "mailto:", "file:///"]

/-- The link begins as one that a sheet knows. -/
def KnownLink (url : String) : Prop := ∃ b ∈ linkBeginnings, b.toList <+: url.toList

instance (url : String) : Decidable (KnownLink url) :=
  inferInstanceAs (Decidable (∃ b ∈ linkBeginnings, b.toList <+: url.toList))

theorem dropBeginning?_eq_some_iff {b : String} {cs rest : List Char} :
    dropBeginning? b cs = some rest ↔ b.toList <+: cs ∧ cs.drop b.length = rest := by
  unfold dropBeginning?
  rw [← List.isPrefixOf_iff_prefix]
  by_cases h : b.toList.isPrefixOf cs = true <;> simp [h]

theorem dropBeginning?_eq_none_iff {b : String} {cs : List Char} :
    dropBeginning? b cs = none ↔ ¬ b.toList <+: cs := by
  unfold dropBeginning?
  rw [← List.isPrefixOf_iff_prefix]
  by_cases h : b.toList.isPrefixOf cs = true <;> simp [h]

/-- **A sheet refuses a link** that does not begin in one of these ways, and no other. -/
theorem storeLink?_eq_none_iff {url : String} : storeLink? url = none ↔ ¬ KnownLink url := by
  have hweb : ["http://", "https://", "ftp://", "ftps://"].any
      (fun b => (dropBeginning? b url.toList).isSome) = true ↔
        ∃ b ∈ ["http://", "https://", "ftp://", "ftps://"], b.toList <+: url.toList := by
    rw [List.any_eq_true]
    refine exists_congr fun b => and_congr_right fun _ => ?_
    rw [Option.isSome_iff_ne_none, ne_eq, dropBeginning?_eq_none_iff, not_not]
  have hknown : KnownLink url ↔
      (∃ b ∈ ["http://", "https://", "ftp://", "ftps://"], b.toList <+: url.toList) ∨
        "mailto:".toList <+: url.toList ∨ "file:///".toList <+: url.toList := by
    simp only [KnownLink, linkBeginnings, List.mem_cons, List.not_mem_nil, or_false,
      exists_eq_or_imp, exists_eq_left, or_assoc]
  rw [hknown, ← hweb, storeLink?]
  dsimp only
  by_cases hany : ["http://", "https://", "ftp://", "ftps://"].any
      (fun b => (dropBeginning? b url.toList).isSome) = true
  · rw [if_pos hany]
    exact iff_of_false nofun fun h => h (.inl hany)
  rw [if_neg hany]
  cases hmail : dropBeginning? "mailto:" url.toList with
  | some address =>
    exact iff_of_false nofun fun h => h (.inr (.inl (dropBeginning?_eq_some_iff.1 hmail).1))
  | none =>
    cases hfile : dropBeginning? "file:///" url.toList with
    | some path =>
      exact iff_of_false nofun fun h => h (.inr (.inr (dropBeginning?_eq_some_iff.1 hfile).1))
    | none =>
      refine iff_of_true rfl ?_
      rintro (hbegins | hbegins | hbegins)
      · exact hany hbegins
      · exact dropBeginning?_eq_none_iff.1 hmail hbegins
      · exact dropBeginning?_eq_none_iff.1 hfile hbegins

/-- The own text of a link is a part of it. -/
theorem length_le_of_storeLink? {url own : String} {link : StoredLink}
    (h : storeLink? url = some (link, own)) : own.length ≤ url.length := by
  have hpart : ∀ {b : String} {rest : List Char}, dropBeginning? b url.toList = some rest →
      (String.ofList rest).length ≤ url.length := by
    intro b rest hdrop
    obtain ⟨-, rfl⟩ := dropBeginning?_eq_some_iff.1 hdrop
    rw [String.length_ofList, List.length_drop, ← String.length_toList]
    exact Nat.sub_le ..
  unfold storeLink? at h
  dsimp only at h
  split_ifs at h with hany
  · cases h
    exact Nat.le_refl _
  · split at h
    · rename_i hmail
      cases h
      exact hpart hmail
    · split at h
      · rename_i hfile
        cases h
        exact hpart hfile
      · cases h

/-! ## Single cells -/

section Single

variable {row column : Nat} (hinside : insideSheet row column = true)
include hinside

theorem exists_textCell {s : String} (style : CellStyle) (hlength : s.length ≤ maxTextLength) :
    ∃ piece, textCell row column s style = .ok piece := by
  unfold textCell
  rw [hinside, if_neg (by simp), if_neg (Nat.not_lt.2 hlength)]
  split_ifs <;> exact ⟨_, rfl⟩

theorem exists_numberCell (x : Double) : ∃ piece, numberCell row column x = .ok piece := by
  unfold numberCell
  rw [hinside, if_neg (by simp)]
  split_ifs <;> exact ⟨_, rfl⟩

/-- **A link that a sheet knows** has its cell. -/
theorem exists_linkCell {url text : String} (hknown : KnownLink url)
    (htext : text.length ≤ maxTextLength) (hurl : url.length ≤ maxTextLength) :
    ∃ piece, linkCell row column url text = .ok piece := by
  obtain ⟨⟨link, own⟩, hstored⟩ := Option.ne_none_iff_exists'.1
    fun hnone => storeLink?_eq_none_iff.1 hnone hknown
  have hshown : ¬ maxTextLength < (if text = "" then own else text).length := by
    have hown := length_le_of_storeLink? hstored
    split_ifs <;> omega
  unfold linkCell
  rw [hinside, if_neg (by simp), hstored]
  exact ⟨_, if_neg hshown⟩

/-- **A link that a sheet does not know** is a fault. -/
theorem linkCell_eq_error {url : String} (hunknown : ¬ KnownLink url) (text : String) :
    linkCell row column url text = .error (.unsupportedLink url) := by
  unfold linkCell
  rw [hinside, if_neg (by simp), storeLink?_eq_none_iff.2 hunknown]

end Single

/-! ## Rows -/

/-- A sheet has room for the heading of some queries, and for so many rows. -/
structure Sheet.HasRoom (queries : List NamedQuery) (rows : Nat) : Prop where
  /-- There are columns enough: one for each query and three more. -/
  columns : queries.length + 3 ≤ maxColumns
  /-- There are rows enough, with one for the heading. -/
  rows : rows + 1 ≤ maxRows
  /-- The names of the queries are short enough. -/
  names : ∀ q ∈ queries, q.name.length ≤ maxTextLength

theorem Sheet.HasRoom.insideSheet {queries : List NamedQuery} {rows : Nat}
    (h : Sheet.HasRoom queries rows) {row column : Nat} (hrow : row ≤ rows)
    (hcolumn : column ≤ queries.length + 2) : insideSheet row column = true := by
  have hrows := h.rows
  have hcolumns := h.columns
  simp only [Tagging.insideSheet, Bool.and_eq_true, decide_eq_true_eq]
  omega

/-- The texts and links of a row are short enough for a sheet. -/
structure PlannedRow.IsShort (queries : List NamedQuery) (p : PlannedRow) : Prop where
  /-- What names the row. -/
  label : p.label.length ≤ maxTextLength
  /-- Its path. -/
  path : p.relativePath.length ≤ maxTextLength
  /-- Its links. -/
  links : ∀ column url, p.LinksAt queries column url → url.length ≤ maxTextLength

section Rows

variable {queries : List NamedQuery} {planned : List PlannedRow} {p : PlannedRow} {rows row : Nat}

theorem exists_headingCells (hroom : Sheet.HasRoom queries rows) :
    ∀ part ∈ headingCells queries, ∃ piece, part = .ok piece := by
  have hinside : ∀ {column}, column ≤ queries.length + 2 → insideSheet 0 column = true :=
    hroom.insideSheet (Nat.zero_le _)
  intro part hpart
  unfold headingCells at hpart
  rcases List.mem_append.1 hpart with hfront | htotal
  · rcases List.mem_cons.1 hfront with rfl | hfront
    · exact exists_textCell (hinside (by omega)) _ (by decide)
    rcases List.mem_cons.1 hfront with rfl | hqueries
    · exact exists_textCell (hinside (by omega)) _ (by decide)
    · obtain ⟨⟨q, j⟩, hq, rfl⟩ := List.mem_map.1 hqueries
      have hheading := List.mem_zipIdx_iff_getElem?.1 hq
      have hj := (List.getElem?_eq_some_iff.1 hheading).1
      exact exists_textCell (hinside (by omega)) _ (hroom.names q (List.mem_of_getElem? hheading))
  · obtain rfl := List.mem_singleton.1 htotal
    exact exists_textCell (hinside (Nat.le_refl _)) _ (by decide)

/-- **Each value of a row** has its cells, unless it has a link that the sheet does not know. -/
theorem rowCells_cases (hroom : Sheet.HasRoom queries rows) (hrow : row ≤ rows)
    (hshort : p.IsShort queries) {part : Except SheetFault (List Cell)}
    (hpart : part ∈ rowCells queries p row) :
    (∃ piece, part = .ok piece) ∨ ∃ column url, p.LinksAt queries column url ∧
      ¬ KnownLink url ∧ part = .error (.unsupportedLink url) := by
  have hlink : ∀ {column url text}, p.LinksAt queries column url → column ≤ queries.length + 2 →
      text.length ≤ maxTextLength → (∃ piece, linkCell row column url text = .ok piece) ∨
        ∃ column' url', p.LinksAt queries column' url' ∧ ¬ KnownLink url' ∧
          linkCell row column url text = .error (.unsupportedLink url') := by
    intro column url text hat hcolumn htext
    have hinside := hroom.insideSheet hrow hcolumn
    by_cases hknown : KnownLink url
    · exact .inl (exists_linkCell hinside hknown htext (hshort.links column url hat))
    · exact .inr ⟨column, url, hat, hknown, linkCell_eq_error hinside hknown text⟩
  unfold rowCells at hpart
  rcases List.mem_append.1 hpart with hfront | htotal
  · rcases List.mem_cons.1 hfront with rfl | hfront
    · unfold PlannedRow.labelCell
      cases hfile : p.fileLink with
      | some url => exact hlink (.label hfile) (Nat.zero_le _) hshort.label
      | none => exact .inl (exists_textCell (hroom.insideSheet hrow (Nat.zero_le _)) _ hshort.label)
    rcases List.mem_cons.1 hfront with rfl | hweights
    · exact .inl (exists_textCell (hroom.insideSheet hrow (by omega)) _ hshort.path)
    · obtain ⟨⟨q, j⟩, hq, rfl⟩ := List.mem_map.1 hweights
      have hheading := List.mem_zipIdx_iff_getElem?.1 hq
      have hj := (List.getElem?_eq_some_iff.1 hheading).1
      dsimp only
      unfold PlannedRow.weightCell
      cases hweight : p.weights.lookup q.id with
      | none => exact .inl ⟨[], rfl⟩
      | some weight =>
        cases hcell : p.cellLinks.lookup q.id with
        | some url =>
          have hplaces := Number.length_fixedPlaces_le 3 weight
          have hlimit : Number.wholeDigits + 3 + 2 ≤ maxTextLength := by decide
          exact hlink (.weight hheading hweight hcell) (by omega) (Nat.le_trans hplaces hlimit)
        | none => exact .inl (exists_numberCell (hroom.insideSheet hrow (by omega)) weight)
  · obtain rfl := List.mem_singleton.1 htotal
    exact .inl (exists_numberCell (hroom.insideSheet hrow (Nat.le_refl _)) _)

/-- **A link that the sheet does not know** is a fault of the row. -/
theorem error_mem_rowCells (hroom : Sheet.HasRoom queries rows) (hrow : row ≤ rows) {column : Nat}
    {url : String} (hat : p.LinksAt queries column url) (hunknown : ¬ KnownLink url) :
    .error (.unsupportedLink url) ∈ rowCells queries p row := by
  cases hat with
  | label link =>
    have hcell : p.labelCell row = .error (.unsupportedLink url) := by
      unfold PlannedRow.labelCell
      rw [link]
      exact linkCell_eq_error (hroom.insideSheet hrow (Nat.zero_le _)) hunknown _
    rw [rowCells, hcell]
    exact List.mem_cons_self ..
  | @weight j q weight url heading weighed link =>
    have hj := (List.getElem?_eq_some_iff.1 heading).1
    have hcell : p.weightCell row (j + 2) q.id = .error (.unsupportedLink url) := by
      unfold PlannedRow.weightCell
      rw [weighed]
      dsimp only
      rw [link]
      exact linkCell_eq_error (hroom.insideSheet hrow (by omega)) hunknown _
    rw [rowCells, ← hcell]
    refine List.mem_append_left _ (List.mem_cons_of_mem _ (List.mem_cons_of_mem _ ?_))
    exact List.mem_map.2 ⟨(q, j), List.mem_zipIdx_iff_getElem?.2 heading, rfl⟩

/-! ## Sheets -/

/-- Cells are collected from values that all have theirs. -/
theorem exists_of_collectCells_eq_ok {parts : List (Except SheetFault (List Cell))}
    {cells : List Cell} (h : collectCells parts = .ok cells) :
    ∀ part ∈ parts, ∃ piece, part = .ok piece := by
  obtain ⟨pieces, rfl, -⟩ := collectCells_eq_ok.1 h
  intro part hpart
  obtain ⟨piece, -, rfl⟩ := List.mem_map.1 hpart
  exact ⟨piece, rfl⟩

/-- A fault is that of a value. -/
theorem mem_of_collectCells_eq_error {parts : List (Except SheetFault (List Cell))}
    {e : SheetFault} (h : collectCells parts = .error e) : .error e ∈ parts := by
  induction parts with
  | nil => cases h
  | cons part rest ih =>
    cases part with
    | error f =>
      cases h
      exact List.mem_cons_self ..
    | ok piece =>
      cases hrest : collectCells rest with
      | error f =>
        rw [collectCells, hrest] at h
        cases h
        exact List.mem_cons_of_mem _ (ih hrest)
      | ok more =>
        rw [collectCells, hrest] at h
        cases h

/-- **A sheet within its limits** is laid out if it knows all links of its rows; otherwise the fault
is a link that it does not know. -/
theorem layout_cases (hroom : Sheet.HasRoom queries planned.length)
    (hshort : ∀ p ∈ planned, p.IsShort queries) :
    ((∃ sheet, layout queries planned = .ok sheet) ∧
      ∀ p ∈ planned, ∀ column url, p.LinksAt queries column url → KnownLink url) ∨
    ∃ p ∈ planned, ∃ column url, p.LinksAt queries column url ∧ ¬ KnownLink url ∧
      layout queries planned = .error (.unsupportedLink url) := by
  have hnumbers : ¬ columnNumbers ≤ queries.length + 2 := by
    have hcolumns := hroom.columns
    have hmore : maxColumns < columnNumbers := by decide
    omega
  have hrow : ∀ {p i}, (p, i) ∈ planned.zipIdx → p ∈ planned ∧ i + 1 ≤ planned.length := by
    intro p i hp
    have hplace := List.mem_zipIdx_iff_getElem?.1 hp
    exact ⟨List.mem_of_getElem? hplace, (List.getElem?_eq_some_iff.1 hplace).1⟩
  unfold layout
  rw [if_neg hnumbers]
  split
  case h_1 cells hcells =>
    refine .inl ⟨⟨_, rfl⟩, fun p hp column url hat => ?_⟩
    by_contra hunknown
    obtain ⟨i, hi⟩ := List.mem_iff_getElem?.1 hp
    have hplace : (p, i) ∈ planned.zipIdx := List.mem_zipIdx_iff_getElem?.2 hi
    have hfault := error_mem_rowCells hroom (hrow hplace).2 hat hunknown
    obtain ⟨piece, hpiece⟩ := exists_of_collectCells_eq_ok hcells _
      (List.mem_append_right _ (List.mem_flatMap.2 ⟨(p, i), hplace, hfault⟩))
    cases hpiece
  case h_2 e herror =>
    rcases List.mem_append.1 (mem_of_collectCells_eq_error herror) with hheading | hrows
    · obtain ⟨piece, hpiece⟩ := exists_headingCells hroom _ hheading
      cases hpiece
    · obtain ⟨⟨p, i⟩, hplace, hpart⟩ := List.mem_flatMap.1 hrows
      obtain ⟨hp, hi⟩ := hrow hplace
      rcases rowCells_cases hroom hi (hshort p hp) hpart with
        ⟨piece, hpiece⟩ | ⟨column, url, hat, hunknown, hfault⟩
      · cases hpiece
      · cases hfault
        exact .inr ⟨p, hp, column, url, hat, hunknown, rfl⟩

end Rows

end Tagging
