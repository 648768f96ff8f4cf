import Mathlib.Data.List.Basic
import Mathlib.Tactic.SplitIfs
import Tagging.Report.Sheet

/-!
# The cells of a sheet

A sheet is laid out cell by cell, or not at all, so each of its cells comes from one value of the
heading or of one row and stands where that value belongs.

* `collectCells_eq_ok` — the cells of all values;
* `Cell.Stands` — where a cell stands and leads;
* `PlannedRow.LinksAt` — the links of a row by the columns in which they stand;
* `linksAt_of_layout` — **every link of a sheet** is one of the row in whose cell it stands.
-/

namespace Tagging

/-! ## All cells -/

/-- **All cells in order** are there if every value has its cells. -/
theorem collectCells_eq_ok {parts : List (Except SheetFault (List Cell))} {cells : List Cell} :
    collectCells parts = .ok cells ↔
      ∃ pieces : List (List Cell), parts = pieces.map .ok ∧ cells = pieces.flatten := by
  induction parts generalizing cells with
  | nil =>
    constructor
    · intro h
      cases h
      exact ⟨[], rfl, rfl⟩
    · rintro ⟨pieces, hparts, rfl⟩
      rw [List.map_eq_nil_iff.1 hparts.symm]
      rfl
  | cons part rest ih =>
    constructor
    · intro h
      cases part with
      | error f => cases h
      | ok piece =>
        rw [collectCells] at h
        split at h
        · rename_i more hmore
          cases h
          obtain ⟨pieces, rfl, rfl⟩ := ih.1 hmore
          exact ⟨piece :: pieces, rfl, rfl⟩
        · cases h
    · rintro ⟨pieces, hparts, rfl⟩
      cases pieces with
      | nil => cases hparts
      | cons piece pieces =>
        obtain ⟨rfl, hrest⟩ := List.cons.inj hparts
        rw [collectCells, ih.2 ⟨pieces, hrest, rfl⟩]
        rfl

theorem exists_of_mem_collectCells {parts : List (Except SheetFault (List Cell))}
    {cells : List Cell} {cell : Cell} (h : collectCells parts = .ok cells) (hmem : cell ∈ cells) :
    ∃ piece, .ok piece ∈ parts ∧ cell ∈ piece := by
  obtain ⟨pieces, rfl, rfl⟩ := collectCells_eq_ok.1 h
  obtain ⟨piece, hpiece, hcell⟩ := List.mem_flatten.1 hmem
  exact ⟨piece, List.mem_map_of_mem hpiece, hcell⟩

/-! ## Single cells -/

/-- Where a cell stands and leads. -/
structure Cell.Stands (cell : Cell) (row column : Nat) (link : Option StoredLink) : Prop where
  /-- Its row. -/
  row : cell.row = row
  /-- Its column. -/
  column : cell.column = column
  /-- Its link. -/
  link : cell.link = link

section Single

variable {row column : Nat} {cells : List Cell} {cell : Cell}

/-- **A text** leads nowhere. -/
theorem stands_of_textCell {s : String} {style : CellStyle}
    (h : textCell row column s style = .ok cells) (hmem : cell ∈ cells) :
    cell.Stands row column none := by
  unfold textCell at h
  split_ifs at h
  · cases h
    obtain rfl := List.mem_singleton.1 hmem
    exact ⟨rfl, rfl, rfl⟩
  · cases h
    cases hmem
  · cases h
    obtain rfl := List.mem_singleton.1 hmem
    exact ⟨rfl, rfl, rfl⟩

/-- **A number** leads nowhere. -/
theorem stands_of_numberCell {x : Double} (h : numberCell row column x = .ok cells)
    (hmem : cell ∈ cells) : cell.Stands row column none := by
  unfold numberCell at h
  split_ifs at h
  all_goals
    cases h
    obtain rfl := List.mem_singleton.1 hmem
    exact ⟨rfl, rfl, rfl⟩

/-- **A link** is stored as the sheet stores it. -/
theorem stands_of_linkCell {url text : String} (h : linkCell row column url text = .ok cells)
    (hmem : cell ∈ cells) :
    ∃ link own, storeLink? url = some (link, own) ∧ cell.Stands row column (some link) := by
  unfold linkCell at h
  split at h
  · cases h
  split at h
  · cases h
  rename_i link own hstored
  simp only at h
  by_cases hlong : maxTextLength < (if text = "" then own else text).length
  · rw [if_pos hlong] at h
    cases h
  · rw [if_neg hlong] at h
    cases h
    obtain rfl := List.mem_singleton.1 hmem
    exact ⟨link, own, hstored, rfl, rfl, rfl⟩

end Single

/-! ## Rows -/

/-- The links of a row by the columns in which they stand: that of the row itself in the first one,
those of its weights under the headings of their queries. -/
inductive PlannedRow.LinksAt (queries : List NamedQuery) (p : PlannedRow) :
    Nat → String → Prop where
  /-- The link of the row. -/
  | label {url : String} (link : p.fileLink = some url) : LinksAt queries p 0 url
  /-- The link of a weight. -/
  | weight {j : Nat} {q : NamedQuery} {weight : Double} {url : String}
      (heading : queries[j]? = some q) (weighed : p.weights.lookup q.id = some weight)
      (link : p.cellLinks.lookup q.id = some url) : LinksAt queries p (j + 2) url

namespace PlannedRow

variable {queries : List NamedQuery} {p : PlannedRow} {row : Nat} {cells : List Cell} {cell : Cell}
  {link : StoredLink}

theorem linksAt_of_labelCell (h : p.labelCell row = .ok cells) (hmem : cell ∈ cells)
    (hlink : cell.link = some link) :
    cell.row = row ∧ ∃ url own, p.LinksAt queries cell.column url ∧
      storeLink? url = some (link, own) := by
  unfold labelCell at h
  split at h
  · rename_i url hurl
    obtain ⟨stored, own, hstored, hstands⟩ := stands_of_linkCell h hmem
    rw [hstands.link] at hlink
    cases hlink
    rw [hstands.column]
    exact ⟨hstands.row, url, own, .label hurl, hstored⟩
  · rw [(stands_of_textCell h hmem).link] at hlink
    cases hlink

theorem linksAt_of_weightCell {j : Nat} {q : NamedQuery} (hq : queries[j]? = some q)
    (h : p.weightCell row (j + 2) q.id = .ok cells) (hmem : cell ∈ cells)
    (hlink : cell.link = some link) :
    cell.row = row ∧ ∃ url own, p.LinksAt queries cell.column url ∧
      storeLink? url = some (link, own) := by
  unfold weightCell at h
  split at h
  · cases h
    cases hmem
  rename_i weight hweight
  split at h
  · rename_i url hurl
    obtain ⟨stored, own, hstored, hstands⟩ := stands_of_linkCell h hmem
    rw [hstands.link] at hlink
    cases hlink
    rw [hstands.column]
    exact ⟨hstands.row, url, own, .weight hq hweight hurl, hstored⟩
  · rw [(stands_of_numberCell h hmem).link] at hlink
    cases hlink

/-- **The links in the cells of a row** are its own. -/
theorem linksAt_of_rowCells (h : .ok cells ∈ rowCells queries p row) (hmem : cell ∈ cells)
    (hlink : cell.link = some link) :
    cell.row = row ∧ ∃ url own, p.LinksAt queries cell.column url ∧
      storeLink? url = some (link, own) := by
  unfold rowCells at h
  rcases List.mem_append.1 h with hfront | htotal
  · rcases List.mem_cons.1 hfront with hlabel | hfront
    · exact linksAt_of_labelCell hlabel.symm hmem hlink
    rcases List.mem_cons.1 hfront with hpath | hweights
    · rw [(stands_of_textCell hpath.symm hmem).link] at hlink
      cases hlink
    · obtain ⟨⟨q, j⟩, hq, hweight⟩ := List.mem_map.1 hweights
      exact linksAt_of_weightCell (List.mem_zipIdx_iff_getElem?.1 hq) hweight hmem hlink
  · rw [(stands_of_numberCell (List.mem_singleton.1 htotal).symm hmem).link] at hlink
    cases hlink

end PlannedRow

/-! ## Sheets -/

variable {queries : List NamedQuery} {planned : List PlannedRow} {sheet : Sheet} {cell : Cell}
  {link : StoredLink}

/-- No heading leads anywhere. -/
theorem link_eq_none_of_headingCells {cells : List Cell} (h : .ok cells ∈ headingCells queries)
    (hmem : cell ∈ cells) : cell.link = none := by
  unfold headingCells at h
  rcases List.mem_append.1 h with hfront | htotal
  · rcases List.mem_cons.1 hfront with hfile | hfront
    · exact (stands_of_textCell hfile.symm hmem).link
    rcases List.mem_cons.1 hfront with hpath | hqueries
    · exact (stands_of_textCell hpath.symm hmem).link
    · obtain ⟨⟨q, j⟩, -, hname⟩ := List.mem_map.1 hqueries
      exact (stands_of_textCell hname hmem).link
  · exact (stands_of_textCell (List.mem_singleton.1 htotal).symm hmem).link

/-- **Every link of a sheet** is one of the row in whose cell it stands, as the sheet stores it. -/
theorem linksAt_of_layout (h : layout queries planned = .ok sheet) (hcell : cell ∈ sheet.cells)
    (hlink : cell.link = some link) :
    ∃ i p url own, planned[i]? = some p ∧ cell.row = i + 1 ∧ p.LinksAt queries cell.column url ∧
      storeLink? url = some (link, own) := by
  unfold layout at h
  split_ifs at h
  split at h
  case h_2 => cases h
  rename_i cells hcells
  cases h
  obtain ⟨piece, hpiece, hmem⟩ := exists_of_mem_collectCells hcells hcell
  rcases List.mem_append.1 hpiece with hheading | hrows
  · rw [link_eq_none_of_headingCells hheading hmem] at hlink
    cases hlink
  · obtain ⟨⟨p, i⟩, hp, hrow⟩ := List.mem_flatMap.1 hrows
    obtain ⟨hrow, url, own, hat, hstored⟩ := PlannedRow.linksAt_of_rowCells hrow hmem hlink
    exact ⟨i, p, url, own, List.mem_zipIdx_iff_getElem?.1 hp, hrow, hat, hstored⟩

end Tagging
