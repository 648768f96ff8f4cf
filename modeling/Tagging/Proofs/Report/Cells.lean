import Mathlib.Data.List.Forall2
import Tagging.Proofs.Report.Budget
import Tagging.Proofs.Report.Layout
import Tagging.Proofs.Report.Snapshots

/-!
# Sheets place by place

The sheet of a report has a place for each column of its heading and of each of its rows.  What a
place shows comes from the row alone, and whether it leads anywhere from the link that the row has
for this column.

* `Slot`, `Slot.cells` — a place, what it shows, and the cell it has with a link or without;
* `sheetSlots`, `pairwise_sheetSlots` — the places of a sheet, **row by row and column by column**;
* `Laid`, `laid_of_layout` — **the cells of a sheet** are those of its places;
* `Laid.pairwise` — no place has two cells, and they come in the order of their places;
* `Laid.linked_keepFirst` — with the first of the links only, **the first of the linked cells** are
  linked;
* `Laid.mem_iff_of_keepFirst` — all other cells stay as they are.
-/

namespace Tagging

/-! ## Places -/

/-- What a place of a sheet shows. -/
inductive SlotValue where
  /-- A text in some style. -/
  | text (s : String) (style : CellStyle)
  /-- A number. -/
  | number (x : Double)
  /-- Nothing. -/
  | nothing

/-- The text of a link that shows the value. -/
def SlotValue.linkText : SlotValue → String
  | text s _ => s
  | number x => Number.fixedPlaces 3 x
  | nothing => ""

/-- A place of a sheet and what it shows. -/
structure Slot where
  /-- The row. -/
  row : Nat
  /-- The column. -/
  column : Nat
  /-- What it shows. -/
  value : SlotValue

namespace Slot

/-- The cell of a place with a link or without; a place that shows nothing has none. -/
def cells (s : Slot) : Option String → Except SheetFault (List Cell)
  | some link => linkCell s.row s.column link s.value.linkText
  | none =>
    match s.value with
    | .text t style => textCell s.row s.column t style
    | .number x => numberCell s.row s.column x
    | .nothing => .ok []

variable {s : Slot} {piece : List Cell} {cell : Cell}

/-- **A place without a link** has one cell at most, and it leads nowhere. -/
theorem cells_none_eq_ok (h : s.cells none = .ok piece) :
    piece = [] ∨ ∃ cell, piece = [cell] ∧ cell.Stands s.row s.column none := by
  rcases s with ⟨row, column, t | x | _⟩
  · change textCell row column t _ = .ok piece at h
    have hstands : ∀ cell ∈ piece, cell.Stands row column none :=
      fun cell hcell => stands_of_textCell h hcell
    unfold textCell at h
    split_ifs at h <;> cases h
    · exact .inr ⟨_, rfl, hstands _ (List.mem_singleton_self _)⟩
    · exact .inl rfl
    · exact .inr ⟨_, rfl, hstands _ (List.mem_singleton_self _)⟩
  · change numberCell row column x = .ok piece at h
    have hstands : ∀ cell ∈ piece, cell.Stands row column none :=
      fun cell hcell => stands_of_numberCell h hcell
    unfold numberCell at h
    split_ifs at h <;> cases h <;>
      exact .inr ⟨_, rfl, hstands _ (List.mem_singleton_self _)⟩
  · cases h
    exact .inl rfl

/-- **A place with a link** has one cell, and it leads where the link leads. -/
theorem cells_some_eq_ok {url : String} (h : s.cells (some url) = .ok piece) :
    ∃ cell link own, piece = [cell] ∧ storeLink? url = some (link, own) ∧
      cell.Stands s.row s.column (some link) := by
  have hone : ∃ cell, piece = [cell] := by
    change linkCell s.row s.column url _ = .ok piece at h
    unfold linkCell at h
    split at h
    · cases h
    split at h
    · cases h
    dsimp only at h
    split at h <;> split at h <;> cases h <;> exact ⟨_, rfl⟩
  obtain ⟨cell, rfl⟩ := hone
  obtain ⟨link, own, hstored, hstands⟩ := stands_of_linkCell h (List.mem_singleton_self _)
  exact ⟨cell, link, own, rfl, hstored, hstands⟩

end Slot

/-! ## The places of a sheet -/

/-- The places of the heading. -/
def headingSlots (queries : List NamedQuery) : List Slot :=
  ⟨0, 0, .text "File" .heading⟩ :: ⟨0, 1, .text "Path" .heading⟩ ::
    queries.zipIdx.map (fun (q, i) => ⟨0, i + 2, .text q.name .heading⟩) ++
    [⟨0, queries.length + 2, .text "Total" .heading⟩]

/-- What is shown for a query: the weight, if there is one. -/
def SortedRow.shownWeight (r : SortedRow) (q : QueryId) : SlotValue :=
  match r.weight? q with
  | some weight => .number weight
  | none => .nothing

/-- The places of a row. -/
def SortedRow.slots (queries : List NamedQuery) (r : SortedRow) (row : Nat) : List Slot :=
  ⟨row, 0, .text (PlannedRow.ofRow r).label .plain⟩ :: ⟨row, 1, .text r.relativePath .plain⟩ ::
    queries.zipIdx.map (fun (q, i) => ⟨row, i + 2, r.shownWeight q.id⟩) ++
    [⟨row, queries.length + 2, .number r.total⟩]

/-- The places of rows, the first of them with a given number. -/
def rowSlots (queries : List NamedQuery) : Nat → List SortedRow → List Slot
  | _, [] => []
  | row, r :: rest => r.slots queries row ++ rowSlots queries (row + 1) rest

/-- The places of a sheet. -/
def sheetSlots (queries : List NamedQuery) (rows : List SortedRow) : List Slot :=
  headingSlots queries ++ rowSlots queries 1 rows

/-- The links of a sheet, one for each place; the heading has none. -/
def sheetLinks (queries : List NamedQuery) (planned : List PlannedRow) : List (Option String) :=
  columns none (queries.map fun _ => none) ++
    planned.flatMap (PlannedRow.columnLinks queries)

section Columns

variable {queries : List NamedQuery} {j : Nat} {q : NamedQuery}

/-- The value in the column of a query. -/
theorem getElem?_places {label path total : Slot} {places : NamedQuery × Nat → Slot}
    (hq : queries[j]? = some q) :
    (label :: path :: queries.zipIdx.map places ++ [total])[j + 2]? = some (places (q, j)) := by
  have hj : j < queries.length := (List.getElem?_eq_some_iff.1 hq).1
  have hbehind : (label :: path :: queries.zipIdx.map places ++ [total])[j + 2]? =
      (queries.zipIdx.map places ++ [total])[j]? := rfl
  rw [hbehind, List.getElem?_append_left (by simpa using hj), List.getElem?_map,
    List.getElem?_zipIdx, hq, Option.map_some, Option.map_some, Nat.zero_add]

/-- The value in the last column. -/
theorem getElem?_total {label path total : Slot} {places : NamedQuery × Nat → Slot} :
    (label :: path :: queries.zipIdx.map places ++ [total])[queries.length + 2]? = some total := by
  have hbehind : (label :: path :: queries.zipIdx.map places ++ [total])[queries.length + 2]? =
      (queries.zipIdx.map places ++ [total])[queries.length]? := rfl
  rw [hbehind, List.getElem?_append_right (by simp)]
  simp

theorem getElem?_columns {label : Option String} {links : NamedQuery → Option String}
    (hq : queries[j]? = some q) :
    (columns label (queries.map links))[j + 2]? = some (links q) := by
  have hj : j < queries.length := (List.getElem?_eq_some_iff.1 hq).1
  have hbehind : (columns label (queries.map links))[j + 2]? =
      (queries.map links ++ [none])[j]? := rfl
  rw [hbehind, List.getElem?_append_left (by simpa using hj), List.getElem?_map, hq,
    Option.map_some]

theorem getElem?_columns_total {label : Option String} {links : NamedQuery → Option String} :
    (columns label (queries.map links))[queries.length + 2]? = some none := by
  have hbehind : (columns label (queries.map links))[queries.length + 2]? =
      (queries.map links ++ [none])[queries.length]? := rfl
  rw [hbehind, List.getElem?_append_right (by simp)]
  simp

end Columns

/-! ## The cells of the places -/

/-- The cells of some places with their links. -/
inductive Laid : List Slot → List (Option String) → List Cell → Prop where
  /-- There are no more places. -/
  | nil : Laid [] [] []
  /-- One place, and those behind it. -/
  | cons {s : Slot} {link : Option String} {piece : List Cell} {slots : List Slot}
      {links : List (Option String)} {cells : List Cell} (here : s.cells link = .ok piece)
      (behind : Laid slots links cells) : Laid (s :: slots) (link :: links) (piece ++ cells)

theorem laid_of_collectCells {slots : List Slot} {links : List (Option String)}
    {cells : List Cell} (hlength : slots.length = links.length)
    (h : collectCells (List.zipWith Slot.cells slots links) = .ok cells) :
    Laid slots links cells := by
  induction slots generalizing links cells with
  | nil =>
    obtain rfl := List.length_eq_zero_iff.1 hlength.symm
    cases h
    exact .nil
  | cons s rest ih =>
    obtain ⟨link, more, rfl⟩ := List.exists_cons_of_length_eq_add_one hlength.symm
    obtain ⟨pieces, hpieces, rfl⟩ := collectCells_eq_ok.1 h
    rw [List.zipWith_cons_cons] at hpieces
    obtain ⟨piece, others, rfl, hpiece, hothers⟩ := List.map_eq_cons_iff.1 hpieces.symm
    rw [List.flatten_cons]
    exact .cons hpiece.symm
      (ih (by simpa using hlength) (collectCells_eq_ok.2 ⟨others, hothers.symm, rfl⟩))

section Places

variable {queries : List NamedQuery} {r : SortedRow} {p : PlannedRow} {rows : List SortedRow}
  {planned : List PlannedRow}

/-- The values of all columns, each with its link. -/
theorem zipWith_columns (label path total : Slot) (places : NamedQuery × Nat → Slot)
    (link : Option String) (links : NamedQuery → Option String) (queries : List NamedQuery) :
    List.zipWith Slot.cells (label :: path :: queries.zipIdx.map places ++ [total])
        (columns link (queries.map links)) =
      label.cells link :: path.cells none ::
        queries.zipIdx.map (fun x => (places x).cells (links x.1)) ++ [total.cells none] := by
  have hlinks : queries.map links = queries.zipIdx.map (fun x => links x.1) := by
    conv_lhs => rw [← List.zipIdx_map_fst 0 queries, List.map_map]
    rfl
  rw [columns, hlinks]
  simp [List.zipWith_append, List.zipWith_map, List.zipWith_self]

theorem headingCells_eq : headingCells queries =
    List.zipWith Slot.cells (headingSlots queries) (columns none (queries.map fun _ => none)) := by
  rw [headingSlots, zipWith_columns]
  rfl

/-- **The cells of a row** are those of its places. -/
theorem rowCells_eq (h : p.Shows r) (row : Nat) : rowCells queries p row =
    List.zipWith Slot.cells (r.slots queries row) (p.columnLinks queries) := by
  have hlabel : p.labelCell row =
      (⟨row, 0, .text (PlannedRow.ofRow r).label .plain⟩ : Slot).cells p.fileLink := by
    rw [h]
    unfold PlannedRow.labelCell
    cases p.fileLink <;> rfl
  have hweight : ∀ x : NamedQuery × Nat, p.weightCell row (x.2 + 2) x.1.id =
      (⟨row, x.2 + 2, r.shownWeight x.1.id⟩ : Slot).cells (p.weightLink? x.1.id) := by
    intro x
    have hweights : p.weights.lookup x.1.id = r.weight? x.1.id := by
      rw [h]
      rfl
    unfold PlannedRow.weightCell PlannedRow.weightLink? SortedRow.shownWeight
    rw [hweights]
    cases r.weight? x.1.id with
    | none => rfl
    | some weight => cases p.cellLinks.lookup x.1.id <;> rfl
  have hpath : p.relativePath = r.relativePath := congrArg PlannedRow.relativePath h
  have htotal : p.total = r.total := congrArg PlannedRow.total h
  rw [SortedRow.slots, PlannedRow.columnLinks, zipWith_columns, rowCells, hlabel, hpath, htotal]
  simp only [hweight]
  rfl

theorem length_headingSlots : (headingSlots queries).length = queries.length + 3 := by
  simp [headingSlots]

theorem length_slots (row : Nat) : (r.slots queries row).length = queries.length + 3 := by
  simp [SortedRow.slots]

theorem length_columnLinks : (p.columnLinks queries).length = queries.length + 3 := by
  rw [PlannedRow.columnLinks, length_columns, List.length_map]

/-- The cells of all rows are those of their places. -/
theorem flatMap_rowCells_eq (h : List.Forall₂ PlannedRow.Shows rows planned) (n : Nat) :
    (planned.zipIdx n).flatMap (fun (p, i) => rowCells queries p (i + 1)) =
      List.zipWith Slot.cells (rowSlots queries (n + 1) rows)
        (planned.flatMap (PlannedRow.columnLinks queries)) := by
  induction h generalizing n with
  | nil => rfl
  | @cons r p rows planned hshows _ ih =>
    rw [List.zipIdx_cons, List.flatMap_cons, List.flatMap_cons, ih, rowSlots,
      List.zipWith_append (by rw [length_slots, length_columnLinks]), ← rowCells_eq hshows]

theorem length_rowSlots (h : List.Forall₂ PlannedRow.Shows rows planned) (n : Nat) :
    (rowSlots queries n rows).length =
      (planned.flatMap (PlannedRow.columnLinks queries)).length := by
  induction h generalizing n with
  | nil => rfl
  | @cons r p rows planned _ _ ih =>
    rw [rowSlots, List.flatMap_cons, List.length_append, List.length_append, ih, length_slots,
      length_columnLinks]

/-- **The cells of a sheet** are those of its places, with the links of the planned rows. -/
theorem laid_of_layout (hshows : List.Forall₂ PlannedRow.Shows rows planned) {sheet : Sheet}
    (h : layout queries planned = .ok sheet) :
    Laid (sheetSlots queries rows) (sheetLinks queries planned) sheet.cells := by
  unfold layout at h
  split_ifs at h
  split at h
  case h_2 => cases h
  rename_i cells hcells
  cases h
  have hheading : (headingSlots queries).length =
      (columns none (queries.map fun _ => none)).length := by
    rw [length_headingSlots, length_columns, List.length_map]
  refine laid_of_collectCells ?_ ?_
  · rw [sheetSlots, sheetLinks, List.length_append, List.length_append, hheading,
      length_rowSlots hshows]
  · rw [sheetSlots, sheetLinks, List.zipWith_append hheading, ← flatMap_rowCells_eq hshows 0,
      ← headingCells_eq]
    exact hcells

end Places

/-! ## The order of places and cells -/

/-- Where a place is. -/
def Slot.position (s : Slot) : Nat × Nat := (s.row, s.column)

/-- Where a cell stands. -/
def Cell.position (c : Cell) : Nat × Nat := (c.row, c.column)

theorem Cell.Stands.position {cell : Cell} {row column : Nat} {link : Option StoredLink}
    (h : cell.Stands row column link) : cell.position = (row, column) :=
  Prod.ext h.row h.column

/-- A place has one cell at most, and it stands there. -/
theorem Slot.cells_eq_ok {s : Slot} {link : Option String} {piece : List Cell}
    (h : s.cells link = .ok piece) :
    piece = [] ∨ ∃ cell, piece = [cell] ∧ cell.position = s.position := by
  cases link with
  | none =>
    rcases cells_none_eq_ok h with hnil | ⟨cell, hcell, hstands⟩
    · exact .inl hnil
    · exact .inr ⟨cell, hcell, hstands.position⟩
  | some url =>
    obtain ⟨cell, link, own, hcell, -, hstands⟩ := cells_some_eq_ok h
    exact .inr ⟨cell, hcell, hstands.position⟩

theorem Slot.position_of_mem {s : Slot} {link : Option String} {piece : List Cell} {cell : Cell}
    (h : s.cells link = .ok piece) (hcell : cell ∈ piece) : cell.position = s.position := by
  rcases cells_eq_ok h with rfl | ⟨c, rfl, hposition⟩
  · cases hcell
  · rw [List.mem_singleton.1 hcell, hposition]

/-- Row by row, and column by column within a row. -/
def RowMajor (a b : Nat × Nat) : Prop := a.1 < b.1 ∨ a.1 = b.1 ∧ a.2 < b.2

theorem RowMajor.irrefl (a : Nat × Nat) : ¬ RowMajor a a := by
  unfold RowMajor
  omega

section Order

variable {queries : List NamedQuery} {rows : List SortedRow}

/-- The columns of a row follow each other. -/
theorem position_of_getElem? {row : Nat} {label path total : Slot}
    {places : NamedQuery × Nat → Slot} (hlabel : label.position = (row, 0))
    (hpath : path.position = (row, 1)) (htotal : total.position = (row, queries.length + 2))
    (hplaces : ∀ x, (places x).position = (row, x.2 + 2)) {j : Nat} {s : Slot}
    (h : (label :: path :: queries.zipIdx.map places ++ [total])[j]? = some s) :
    s.position = (row, j) := by
  match j with
  | 0 =>
    cases h
    exact hlabel
  | 1 =>
    cases h
    exact hpath
  | j + 2 =>
    have hbehind : (queries.zipIdx.map places ++ [total])[j]? = some s := h
    by_cases hj : j < queries.length
    · rw [List.getElem?_append_left (by simpa using hj), List.getElem?_map,
        List.getElem?_zipIdx, List.getElem?_eq_getElem hj] at hbehind
      simp only [Option.map_some, Option.some.injEq, Nat.zero_add] at hbehind
      rw [← hbehind, hplaces]
    · rw [List.getElem?_append_right (by simpa using hj), List.length_map,
        List.length_zipIdx] at hbehind
      rw [List.getElem?_singleton] at hbehind
      split_ifs at hbehind with hzero
      cases hbehind
      rw [htotal, Prod.mk.injEq]
      omega

theorem pairwise_of_position {row : Nat} {slots : List Slot}
    (h : ∀ {j : Nat} {s : Slot}, slots[j]? = some s → s.position = (row, j)) :
    slots.Pairwise (fun s t => RowMajor s.position t.position) := by
  refine List.pairwise_iff_getElem.2 fun i j hi hj hij => ?_
  rw [h (List.getElem?_eq_getElem hi), h (List.getElem?_eq_getElem hj)]
  exact .inr ⟨rfl, hij⟩

/-- The places of rows come in order, from the first of them on. -/
theorem pairwise_rowSlots (queries : List NamedQuery) (rows : List SortedRow) (row : Nat) :
    (rowSlots queries row rows).Pairwise (fun s t => RowMajor s.position t.position) ∧
      ∀ s ∈ rowSlots queries row rows, row ≤ s.row := by
  induction rows generalizing row with
  | nil => simp [rowSlots]
  | cons r rest ih =>
    obtain ⟨hrest, hlater⟩ := ih (row + 1)
    have hfirst : ∀ {j : Nat} {s : Slot}, (r.slots queries row)[j]? = some s →
        s.position = (row, j) := fun h => position_of_getElem? rfl rfl rfl (fun _ => rfl) h
    have hrow : ∀ s ∈ r.slots queries row, s.row = row := by
      intro s hs
      obtain ⟨j, hj⟩ := List.mem_iff_getElem?.1 hs
      exact congrArg Prod.fst (hfirst hj)
    rw [rowSlots]
    refine ⟨List.pairwise_append.2 ⟨pairwise_of_position hfirst, hrest, ?_⟩, ?_⟩
    · intro s hs t ht
      left
      have hs' : s.position.1 = row := hrow s hs
      have ht' : row + 1 ≤ t.position.1 := hlater t ht
      omega
    · intro s hs
      rcases List.mem_append.1 hs with hs | hs
      · exact Nat.le_of_eq (hrow s hs).symm
      · exact Nat.le_of_succ_le (hlater s hs)

/-- **The places of a sheet** come row by row and column by column. -/
theorem pairwise_sheetSlots :
    (sheetSlots queries rows).Pairwise (fun s t => RowMajor s.position t.position) := by
  have hheading : ∀ {j : Nat} {s : Slot}, (headingSlots queries)[j]? = some s →
      s.position = (0, j) := fun h => position_of_getElem? rfl rfl rfl (fun _ => rfl) h
  obtain ⟨hrows, hlater⟩ := pairwise_rowSlots queries rows 1
  refine List.pairwise_append.2 ⟨pairwise_of_position hheading, hrows, ?_⟩
  intro s hs t ht
  left
  obtain ⟨j, hj⟩ := List.mem_iff_getElem?.1 hs
  have hs' : s.position.1 = 0 := congrArg Prod.fst (hheading hj)
  have ht' : 1 ≤ t.position.1 := hlater t ht
  omega

end Order

namespace Laid

variable {slots : List Slot} {links : List (Option String)} {cells full : List Cell} {n : Nat}

/-- No place has two cells, and cells come in the order of their places. -/
theorem sublist (h : Laid slots links cells) :
    (cells.map Cell.position).Sublist (slots.map Slot.position) := by
  induction h with
  | nil => exact .slnil
  | @cons s link piece slots links cells here _ ih =>
    rw [List.map_cons]
    rcases s.cells_eq_ok here with rfl | ⟨cell, rfl, hposition⟩
    · exact ih.cons _
    · rw [List.map_append, List.map_singleton, List.singleton_append, hposition]
      exact ih.cons_cons _

/-- **Cells come in the order of their places.** -/
theorem pairwise (h : Laid slots links cells)
    (hslots : slots.Pairwise fun s t => RowMajor s.position t.position) :
    cells.Pairwise (fun c d => RowMajor c.position d.position) :=
  List.pairwise_map.1 ((List.pairwise_map.2 hslots).sublist h.sublist)

end Laid

/-! ## Linked cells -/

/-- The cells that lead somewhere. -/
def linkedCells (cells : List Cell) : List Cell := cells.filter fun c => c.link.isSome

theorem linkedCells_append (front back : List Cell) :
    linkedCells (front ++ back) = linkedCells front ++ linkedCells back := by
  rw [linkedCells, List.filter_append]
  rfl

namespace Laid

variable {slots : List Slot} {links : List (Option String)} {cells full : List Cell} {n : Nat}

theorem linkedCells_none {s : Slot} {piece : List Cell} (h : s.cells none = .ok piece) :
    linkedCells piece = [] := by
  rcases Slot.cells_none_eq_ok h with rfl | ⟨cell, rfl, hstands⟩
  · rfl
  · simp [linkedCells, hstands.link]

theorem linkedCells_some {s : Slot} {url : String} {piece : List Cell}
    (h : s.cells (some url) = .ok piece) : linkedCells piece = piece ∧ piece.length = 1 := by
  obtain ⟨cell, link, own, rfl, -, hstands⟩ := Slot.cells_some_eq_ok h
  simp [linkedCells, hstands.link]

/-- **There is a linked cell for each link.** -/
theorem length_linkedCells (h : Laid slots links cells) :
    (linkedCells cells).length = links.reduceOption.length := by
  induction h with
  | nil => rfl
  | @cons s link piece slots links cells here _ ih =>
    rw [linkedCells_append, List.length_append, ih, reduceOption_cons, List.length_append]
    cases link with
    | none => simp [linkedCells_none here]
    | some url =>
      obtain ⟨hall, hone⟩ := linkedCells_some here
      rw [hall, hone]
      rfl

/-- **With the first of the links only**, the first of the linked cells are linked. -/
theorem linked_keepFirst (hfull : Laid slots links full)
    (h : Laid slots (keepFirst n links) cells) :
    linkedCells cells = (linkedCells full).take n := by
  induction hfull generalizing n cells with
  | nil =>
    cases h
    simp [linkedCells]
  | @cons s link piece slots links full here _ ih =>
    rw [keepFirst] at h
    cases h with
    | @cons _ _ piece' _ _ cells here' behind' =>
      rw [linkedCells_append, linkedCells_append, ih behind']
      cases link with
      | none =>
        rw [ite_self] at here'
        simp [linkedCells_none here, linkedCells_none here']
      | some url =>
        obtain ⟨hall, hone⟩ := linkedCells_some here
        by_cases hn : n = 0
        · rw [if_pos hn] at here'
          simp [hn, linkedCells_none here']
        · rw [if_neg hn, here] at here'
          cases here'
          have hwhole : piece.take n = piece := List.take_of_length_le (by omega)
          rw [List.take_append, hall, hone, hwhole]
          rfl

/-- **All other cells** stay as they are. -/
theorem mem_iff_of_keepFirst (hfull : Laid slots links full)
    (h : Laid slots (keepFirst n links) cells) {cell : Cell}
    (hcell : ∀ c ∈ linkedCells full, c.position ≠ cell.position) :
    cell ∈ cells ↔ cell ∈ full := by
  induction hfull generalizing n cells with
  | nil =>
    cases h
    rfl
  | @cons s link piece slots links full here _ ih =>
    rw [keepFirst] at h
    rw [linkedCells_append] at hcell
    cases h with
    | @cons _ _ piece' _ _ cells here' behind' =>
      rw [List.mem_append, List.mem_append,
        ih behind' fun c hc => hcell c (List.mem_append_right _ hc)]
      refine or_congr_left' fun _ => ?_
      cases link with
      | none =>
        rw [ite_self, here] at here'
        cases here'
        rfl
      | some url =>
        -- the place has a linked cell, so the cell does not stand there
        obtain ⟨hall, hone⟩ := linkedCells_some here
        obtain ⟨c, hc⟩ := List.exists_mem_of_length_pos (Nat.lt_of_lt_of_eq Nat.one_pos hone.symm)
        have hc' : c ∈ linkedCells piece := by rwa [hall]
        have hne := hcell c (List.mem_append_left _ hc')
        rw [Slot.position_of_mem here hc] at hne
        refine iff_of_false (fun hmem => ?_) (fun hmem => ?_)
        · exact hne (Slot.position_of_mem here' hmem).symm
        · exact hne (Slot.position_of_mem here hmem).symm

/-- A cell whose link is not among the first ones: its place has the cells that it has without a
link. -/
theorem exists_unlinked (hfull : Laid slots links full) (h : Laid slots (keepFirst n links) cells)
    {c : Cell} (hc : c ∈ linkedCells full) (hgone : c ∉ cells) :
    ∃ s url piece, s ∈ slots ∧ s.cells (some url) = .ok [c] ∧ s.cells none = .ok piece ∧
      ∀ d ∈ piece, d ∈ cells := by
  induction hfull generalizing n cells with
  | nil => cases hc
  | @cons s link piece slots links full here _ ih =>
    rw [keepFirst] at h
    cases h with
    | @cons _ _ piece' _ _ cells here' behind' =>
      rw [List.mem_append, not_or] at hgone
      rw [linkedCells_append, List.mem_append] at hc
      rcases hc with hc | hc
      · cases link with
        | none =>
          rw [linkedCells_none here] at hc
          cases hc
        | some url =>
          obtain ⟨hall, hone⟩ := linkedCells_some here
          rw [hall] at hc
          obtain ⟨d, rfl⟩ := List.length_eq_one_iff.1 hone
          obtain rfl := List.mem_singleton.1 hc
          by_cases hn : n = 0
          · rw [if_pos hn] at here'
            exact ⟨s, url, piece', List.mem_cons_self .., here, here',
              fun d hd => List.mem_append_left _ hd⟩
          · rw [if_neg hn, here] at here'
            cases here'
            exact absurd hc hgone.1
      · obtain ⟨s', url, piece'', hs', hfull', hnone, hin⟩ := ih behind' hc hgone.2
        exact ⟨s', url, piece'', List.mem_cons_of_mem _ hs', hfull', hnone,
          fun d hd => List.mem_append_right _ (hin d hd)⟩

/-- There is a cell for the link of a place. -/
theorem exists_linked (h : Laid slots links cells) {i : Nat} {s : Slot} {url : String}
    (hs : slots[i]? = some s) (hurl : links[i]? = some (some url)) :
    ∃ c ∈ cells, ∃ link own, storeLink? url = some (link, own) ∧
      c.Stands s.row s.column (some link) := by
  induction h generalizing i with
  | nil => cases hs
  | @cons s' link' piece slots links cells here _ ih =>
    cases i with
    | zero =>
      cases hs
      cases hurl
      obtain ⟨c, link, own, rfl, hstored, hstands⟩ := Slot.cells_some_eq_ok here
      exact ⟨c, List.mem_append_left _ (List.mem_singleton_self c), link, own, hstored, hstands⟩
    | succ i =>
      obtain ⟨c, hc, hlink⟩ := ih hs hurl
      exact ⟨c, List.mem_append_right _ hc, hlink⟩

/-- The places of two parts have the cells of both. -/
theorem exists_append {slots slots' : List Slot} {links links' : List (Option String)}
    (h : Laid (slots ++ slots') (links ++ links') cells) (hlength : slots.length = links.length) :
    ∃ front back, cells = front ++ back ∧ Laid slots links front ∧ Laid slots' links' back := by
  induction slots generalizing links cells with
  | nil =>
    obtain rfl := List.length_eq_zero_iff.1 hlength.symm
    exact ⟨[], cells, rfl, .nil, h⟩
  | cons s rest ih =>
    obtain ⟨link, more, rfl⟩ := List.exists_cons_of_length_eq_add_one hlength.symm
    cases h with
    | cons here behind =>
      obtain ⟨front, back, rfl, hfront, hback⟩ := ih behind (by simpa using hlength)
      exact ⟨_ ++ front, back, (List.append_assoc ..).symm, .cons here hfront, hback⟩

/-- **The cells of a row** are among those of all rows. -/
theorem exists_row {queries : List NamedQuery} {rows : List SortedRow} {planned : List PlannedRow}
    {row i : Nat} {r : SortedRow} {p : PlannedRow}
    (h : Laid (rowSlots queries row rows) (planned.flatMap (PlannedRow.columnLinks queries)) cells)
    (hr : rows[i]? = some r) (hp : planned[i]? = some p) :
    ∃ own, Laid (r.slots queries (row + i)) (p.columnLinks queries) own ∧
      ∀ c ∈ own, c ∈ cells := by
  induction rows generalizing planned row i cells with
  | nil => cases hr
  | cons first rest ih =>
    cases planned with
    | nil => cases hp
    | cons p' later =>
      rw [rowSlots, List.flatMap_cons] at h
      obtain ⟨front, back, rfl, hfront, hback⟩ :=
        h.exists_append (by rw [length_slots, length_columnLinks])
      cases i with
      | zero =>
        cases hr
        cases hp
        exact ⟨front, hfront, fun c hc => List.mem_append_left _ hc⟩
      | succ i =>
        obtain ⟨own, hown, hin⟩ := ih hback hr hp
        rw [Nat.add_right_comm] at hown
        exact ⟨own, hown, fun c hc => List.mem_append_right _ (hin c hc)⟩

end Laid

/-! ## Links and their places -/

section Places

variable {queries : List NamedQuery} {rows : List SortedRow} {planned : List PlannedRow}
  {r : SortedRow} {p : PlannedRow}

theorem position_of_mem_slots {row j : Nat} {s : Slot} (h : (r.slots queries row)[j]? = some s) :
    s.position = (row, j) :=
  position_of_getElem? rfl rfl rfl (fun _ => rfl) h

/-- The links of a row by column are those that stand in its cells. -/
theorem columnLinks_of_linksAt {column : Nat} {url : String} (h : p.LinksAt queries column url) :
    (p.columnLinks queries)[column]? = some (some url) := by
  cases h with
  | label link => exact congrArg some link
  | @weight j q weight url heading weighed link =>
    have hcolumn : (p.columnLinks queries)[j + 2]? = some (p.weightLink? q.id) :=
      getElem?_columns heading
    rw [hcolumn, PlannedRow.weightLink?, weighed, link]
    rfl

/-- **Each link of a row** stands in the sheet, in its row and column. -/
theorem exists_linked_of_columnLinks {sheet : Sheet}
    (h : Laid (sheetSlots queries rows) (sheetLinks queries planned) sheet.cells) {i column : Nat}
    {url : String} (hr : rows[i]? = some r) (hp : planned[i]? = some p)
    (hurl : (p.columnLinks queries)[column]? = some (some url)) :
    ∃ c ∈ sheet.cells, ∃ link own, storeLink? url = some (link, own) ∧
      c.Stands (i + 1) column (some link) := by
  obtain ⟨front, back, hcells, -, hback⟩ := h.exists_append
    (by rw [length_headingSlots, length_columns, List.length_map])
  obtain ⟨own, hown, hin⟩ := hback.exists_row hr hp
  have hcolumn : column < (r.slots queries (1 + i)).length := by
    obtain ⟨hlt, -⟩ := List.getElem?_eq_some_iff.1 hurl
    rwa [length_columnLinks, ← length_slots (r := r) (1 + i)] at hlt
  have hs := List.getElem?_eq_getElem hcolumn
  obtain ⟨c, hc, link, text, hstored, hstands⟩ := hown.exists_linked hs hurl
  have hposition := position_of_mem_slots hs
  refine ⟨c, ?_, link, text, hstored, ?_⟩
  · rw [hcells]
    exact List.mem_append_right _ (hin c hc)
  · have hrow : (r.slots queries (1 + i))[column].row = 1 + i := congrArg Prod.fst hposition
    have hcol : (r.slots queries (1 + i))[column].column = column := congrArg Prod.snd hposition
    rwa [hrow, hcol, Nat.add_comm] at hstands

theorem exists_of_mem_rowSlots {row : Nat} {s : Slot} (h : s ∈ rowSlots queries row rows) :
    ∃ i, ∃ r : SortedRow, rows[i]? = some r ∧ s ∈ r.slots queries (row + i) := by
  induction rows generalizing row with
  | nil => cases h
  | cons first rest ih =>
    rw [rowSlots, List.mem_append] at h
    rcases h with h | h
    · exact ⟨0, first, rfl, h⟩
    · obtain ⟨i, r, hr, hs⟩ := ih h
      rw [Nat.add_right_comm] at hs
      exact ⟨i + 1, r, hr, hs⟩

/-- The place of a column of a row. -/
theorem exists_of_mem_sheetSlots {s : Slot} (h : s ∈ sheetSlots queries rows) {i column : Nat}
    (hposition : s.position = (i + 1, column)) :
    ∃ r : SortedRow, rows[i]? = some r ∧ (r.slots queries (i + 1))[column]? = some s := by
  rcases List.mem_append.1 h with hheading | hrows
  · obtain ⟨j, hj⟩ := List.mem_iff_getElem?.1 hheading
    have hrow : s.position = (0, j) := position_of_getElem? rfl rfl rfl (fun _ => rfl) hj
    rw [hrow] at hposition
    cases hposition
  · obtain ⟨k, r, hr, hs⟩ := exists_of_mem_rowSlots hrows
    obtain ⟨j, hj⟩ := List.mem_iff_getElem?.1 hs
    rw [position_of_mem_slots hj, Prod.mk.injEq] at hposition
    obtain ⟨hrow, rfl⟩ := hposition
    obtain rfl : k = i := by omega
    rw [Nat.add_comm] at hj
    exact ⟨r, hr, hj⟩

/-- **The linked cells of a sheet** are those of the links of its rows. -/
theorem linked_iff (hshows : List.Forall₂ PlannedRow.Shows rows planned) {sheet : Sheet}
    (h : layout queries planned = .ok sheet) (i column : Nat) (link : StoredLink) :
    (∃ c ∈ sheet.cells, c.Stands (i + 1) column (some link)) ↔
      ∃ links url own, (planned.map (PlannedRow.columnLinks queries))[i]? = some links ∧
        links[column]? = some (some url) ∧ storeLink? url = some (link, own) := by
  constructor
  · rintro ⟨c, hc, hstands⟩
    obtain ⟨k, p, url, own, hp, hrow, hat, hstored⟩ := linksAt_of_layout h hc hstands.link
    rw [hstands.row] at hrow
    obtain rfl : k = i := by omega
    rw [hstands.column] at hat
    exact ⟨_, url, own, by rw [List.getElem?_map, hp]; rfl, columnLinks_of_linksAt hat, hstored⟩
  · rintro ⟨links, url, own, hi, hurl, hstored⟩
    rw [List.getElem?_map, Option.map_eq_some_iff] at hi
    obtain ⟨p, hp, rfl⟩ := hi
    obtain ⟨r, hr, -⟩ := exists_getElem?_of_forall₂ hshows hp
    obtain ⟨c, hc, link', own', hstored', hstands⟩ :=
      exists_linked_of_columnLinks (laid_of_layout hshows h) hr hp hurl
    rw [hstored] at hstored'
    cases hstored'
    exact ⟨c, hc, hstands⟩

end Places

end Tagging
