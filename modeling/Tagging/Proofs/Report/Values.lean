import Tagging.Proofs.Report.Caps

/-!
# What a report shows

A saved report is read place by place.  Its heading names the queries in the order in which they
were given; under it comes one row for each row that is shown, in order, with each weight in the
column of its query.

* `Sheet.cellAt?`, `Sheet.valueAt?`, `Sheet.linkAt?` — what stands in a place;
* `Slot.shown`, `Laid.find?_place` — **a place shows** its value, and nothing else stands there;
* `Laid.place_cases` — the same with a link and without;
* `Sheet.ShowsHeading`, `Sheet.ShowsRow` — what a heading and a row show, column by column;
* `showsHeading_of_layout`, `showsRow_of_layout` — a sheet that is laid out shows them;
* `values_of_report` — **every value stands in its cell**;
* `unnamed_row_shows_link` — a row without a name shows its link instead.
-/

namespace Tagging

/-! ## Reading a sheet -/

namespace Sheet

/-- The first cell of a place. -/
def cellAt? (sheet : Sheet) (row column : Nat) : Option Cell :=
  sheet.cells.find? fun c => c.position = (row, column)

/-- What a place shows. -/
def valueAt? (sheet : Sheet) (row column : Nat) : Option CellValue :=
  (sheet.cellAt? row column).map Cell.value

/-- Where a place leads. -/
def linkAt? (sheet : Sheet) (row column : Nat) : Option StoredLink :=
  (sheet.cellAt? row column).bind Cell.link

end Sheet

/-- What a text without a link shows; there is no cell for an empty one. -/
def textShown (s : String) : Option CellValue := if s = "" then none else some (.text s)

/-- What a number without a link shows; what is no finite number is shown as a text. -/
def numberShown (x : Double) : CellValue :=
  if x.isNaN then .text "NAN"
  else if x.isInf then .text (if x < 0 then "-INF" else "INF")
  else .number x

/-! ## Places -/

namespace Slot

/-- What a place shows without a link. -/
def shown (s : Slot) : Option CellValue :=
  match s.value with
  | .text t style => if t = "" ∧ style ≠ .plain then some .blank else textShown t
  | .number x => some (numberShown x)
  | .nothing => none

variable {s : Slot} {piece : List Cell}

theorem shown_plain (row column : Nat) (t : String) :
    (⟨row, column, .text t .plain⟩ : Slot).shown = textShown t :=
  if_neg fun h => h.2 rfl

theorem shown_heading (row column : Nat) (t : String) :
    (⟨row, column, .text t .heading⟩ : Slot).shown = some (if t = "" then .blank else .text t) := by
  change (if t = "" ∧ CellStyle.heading ≠ .plain then some .blank else textShown t) = _
  by_cases ht : t = ""
  · rw [if_pos ⟨ht, by decide⟩, if_pos ht]
  · rw [if_neg fun h => ht h.1, if_neg ht, textShown, if_neg ht]

/-- **A place without a link** shows its value. -/
theorem head?_of_cells_none (h : s.cells none = .ok piece) :
    piece.head?.map Cell.value = s.shown ∧ piece.head?.bind Cell.link = none := by
  rcases s with ⟨row, column, t | x | _⟩
  · rename_i style
    change textCell row column t style = .ok piece at h
    unfold textCell at h
    split_ifs at h with hinside hlong hempty hplain <;> cases h
    · simp [shown, textShown, hempty]
    · simp [shown, textShown, hempty, hplain]
    · simp [shown, hempty, hplain]
  · change numberCell row column x = .ok piece at h
    unfold numberCell at h
    have hshown : (⟨row, column, .number x⟩ : Slot).shown = some (numberShown x) := rfl
    rw [hshown, numberShown]
    split_ifs at h ⊢ <;> cases h <;> exact ⟨rfl, rfl⟩
  · cases h
    exact ⟨rfl, rfl⟩

/-- **A place with a link** shows its value as a text, or the link's own text if that is empty. -/
theorem head?_of_cells_some {url : String} (h : s.cells (some url) = .ok piece) :
    ∃ link own, storeLink? url = some (link, own) ∧ piece.head?.bind Cell.link = some link ∧
      piece.head?.map Cell.value =
        some (.text (if s.value.linkText = "" then own else s.value.linkText)) := by
  change linkCell s.row s.column url s.value.linkText = .ok piece at h
  unfold linkCell at h
  split at h
  · cases h
  split at h
  · cases h
  rename_i link own hstored
  dsimp only at h
  refine ⟨link, own, hstored, ?_⟩
  by_cases hlong : maxTextLength <
      (if s.value.linkText = "" then own else s.value.linkText).length
  · rw [if_pos hlong] at h
    cases h
  · rw [if_neg hlong] at h
    cases h
    exact ⟨rfl, rfl⟩

end Slot

namespace Laid

variable {slots : List Slot} {links : List (Option String)} {cells : List Cell} {s : Slot}
  {link : Option String}

/-- A cell stands in one of the places. -/
theorem exists_slot (h : Laid slots links cells) {c : Cell} (hc : c ∈ cells) :
    ∃ s ∈ slots, s.position = c.position :=
  List.mem_map.1 (h.sublist.subset (List.mem_map_of_mem hc))

theorem find?_eq_none {position : Nat × Nat} (h : Laid slots links cells)
    (hnone : ∀ s ∈ slots, s.position ≠ position) :
    cells.find? (fun c => c.position = position) = none := by
  refine List.find?_eq_none.2 fun c hc => ?_
  obtain ⟨s, hs, hposition⟩ := h.exists_slot hc
  rw [decide_eq_true_iff, ← hposition]
  exact hnone s hs

/-- **In a place stands its own cell**, or none. -/
theorem find?_place (h : Laid slots links cells)
    (hslots : slots.Pairwise fun s t => RowMajor s.position t.position)
    (hmem : (s, link) ∈ slots.zip links) :
    ∃ piece, s.cells link = .ok piece ∧
      cells.find? (fun c => c.position = s.position) = piece.head? := by
  induction h with
  | nil => cases hmem
  | @cons t other piece slots links cells here behind ih =>
    obtain ⟨hfirst, hrest⟩ := List.pairwise_cons.1 hslots
    rw [List.find?_append]
    rw [List.zip_cons_cons, List.mem_cons] at hmem
    rcases hmem with heq | hmem
    · cases heq
      refine ⟨piece, here, ?_⟩
      rcases Slot.cells_eq_ok here with rfl | ⟨cell, rfl, hposition⟩
      · refine behind.find?_eq_none fun t ht heq => ?_
        exact RowMajor.irrefl _ (heq ▸ hfirst t ht)
      · rw [List.find?_singleton, if_pos (decide_eq_true hposition)]
        rfl
    · obtain ⟨own, hown, hfind⟩ := ih hrest hmem
      refine ⟨own, hown, ?_⟩
      -- the cell of an earlier place stands elsewhere
      have hnone : piece.find? (fun c => c.position = s.position) = none := by
        refine List.find?_eq_none.2 fun c hc => ?_
        rw [decide_eq_true_iff, Slot.position_of_mem here hc]
        intro heq
        exact RowMajor.irrefl _ (heq ▸ hfirst s (List.of_mem_zip hmem).1)
      rw [hnone, Option.none_or, hfind]

end Laid

/-! ## The places of headings and rows -/

section Places

variable {queries : List NamedQuery} {rows : List SortedRow} {planned : List PlannedRow}
  {r : SortedRow} {p : PlannedRow}

theorem mem_zip_of_getElem? {α β : Type} {as : List α} {bs : List β} {a : α} {b : β} {k : Nat}
    (ha : as[k]? = some a) (hb : bs[k]? = some b) : (a, b) ∈ as.zip bs :=
  List.mem_of_getElem? (List.getElem?_zip_eq_some.2 ⟨ha, hb⟩)

/-- A place of the heading. -/
theorem mem_zip_heading {s : Slot} {link : Option String} {k : Nat}
    (hs : (headingSlots queries)[k]? = some s)
    (hlink : (columns none (queries.map fun _ => none))[k]? = some link) :
    (s, link) ∈ (sheetSlots queries rows).zip (sheetLinks queries planned) := by
  rw [sheetSlots, sheetLinks, List.zip_append
    (by rw [length_headingSlots, length_columns, List.length_map])]
  exact List.mem_append_left _ (mem_zip_of_getElem? hs hlink)

theorem mem_zip_rowSlots (h : List.Forall₂ PlannedRow.Shows rows planned) {n i : Nat}
    (hr : rows[i]? = some r) (hp : planned[i]? = some p) {s : Slot} {link : Option String}
    (hmem : (s, link) ∈ (r.slots queries (n + i)).zip (p.columnLinks queries)) :
    (s, link) ∈ (rowSlots queries n rows).zip
      (planned.flatMap (PlannedRow.columnLinks queries)) := by
  induction h generalizing n i with
  | nil => cases hr
  | @cons first firstPlanned rows planned _ _ ih =>
    rw [rowSlots, List.flatMap_cons, List.zip_append (by rw [length_slots, length_columnLinks])]
    cases i with
    | zero =>
      cases hr
      cases hp
      exact List.mem_append_left _ hmem
    | succ i =>
      refine List.mem_append_right _ (ih hr hp ?_)
      rwa [Nat.add_right_comm]

/-- A place of a row. -/
theorem mem_zip_row (h : List.Forall₂ PlannedRow.Shows rows planned) {i k : Nat}
    (hr : rows[i]? = some r) (hp : planned[i]? = some p) {s : Slot} {link : Option String}
    (hs : (r.slots queries (i + 1))[k]? = some s)
    (hlink : (p.columnLinks queries)[k]? = some link) :
    (s, link) ∈ (sheetSlots queries rows).zip (sheetLinks queries planned) := by
  rw [sheetSlots, sheetLinks, List.zip_append
    (by rw [length_headingSlots, length_columns, List.length_map])]
  refine List.mem_append_right _ (mem_zip_rowSlots h hr hp ?_)
  rw [Nat.add_comm]
  exact mem_zip_of_getElem? hs hlink

end Places

/-! ## What a sheet shows -/

/-- What names a row: the name that is shown, or the file's own if that is empty. -/
def SortedRow.label (r : SortedRow) : String :=
  if r.displayName = "" then r.fileId else r.displayName

/-- The first row of a sheet names the columns, the queries in the order in which they are given. -/
structure Sheet.ShowsHeading (sheet : Sheet) (queries : List NamedQuery) : Prop where
  /-- The first column is for the files. -/
  file : sheet.valueAt? 0 0 = some (.text "File")
  /-- The second is for their paths. -/
  path : sheet.valueAt? 0 1 = some (.text "Path")
  /-- Each query has a column; an empty name leaves a blank cell. -/
  query : ∀ j q, queries[j]? = some q →
    sheet.valueAt? 0 (j + 2) = some (if q.name = "" then .blank else .text q.name)
  /-- The last column is for the totals. -/
  total : sheet.valueAt? 0 (queries.length + 2) = some (.text "Total")
  /-- There are no more columns. -/
  nothingElse : ∀ column, queries.length + 2 < column → sheet.cellAt? 0 column = none

/-- A row of a sheet shows a row of a report, each weight in the column of its query. -/
structure Sheet.ShowsRow (sheet : Sheet) (queries : List NamedQuery) (row : Nat) (r : SortedRow) :
    Prop where
  /-- The label of the row. -/
  label : r.label ≠ "" → sheet.valueAt? row 0 = some (.text r.label)
  /-- A row without a label has no cell for it, unless it has a link. -/
  unnamed : r.label = "" → sheet.linkAt? row 0 = none → sheet.cellAt? row 0 = none
  /-- A row without a label that has a link shows the link's own text. -/
  unnamedLink : r.label = "" → ∀ link, sheet.linkAt? row 0 = some link →
    ∃ url own, storeLink? url = some (link, own) ∧ sheet.valueAt? row 0 = some (.text own)
  /-- The path. -/
  path : sheet.valueAt? row 1 = textShown r.relativePath
  /-- The weight of a query, if there is one: a number, or with a link its three decimal places. -/
  weight : ∀ j q, queries[j]? = some q →
    sheet.valueAt? row (j + 2) = (r.weight? q.id).map fun weight =>
      if (sheet.linkAt? row (j + 2)).isSome then .text (Number.fixedPlaces 3 weight)
      else numberShown weight
  /-- The total. -/
  total : sheet.valueAt? row (queries.length + 2) = some (numberShown r.total)
  /-- There are no more cells. -/
  nothingElse : ∀ column, queries.length + 2 < column → sheet.cellAt? row column = none

section Sheets

variable {queries : List NamedQuery} {rows : List SortedRow} {planned : List PlannedRow}
  {sheet : Sheet} {s : Slot}

theorem Sheet.valueAt?_eq_none_iff {row column : Nat} :
    sheet.valueAt? row column = none ↔ sheet.cellAt? row column = none :=
  Option.map_eq_none_iff

/-- Three decimal places are never an empty text. -/
theorem fixedPlaces_ne_empty (x : Double) : Number.fixedPlaces 3 x ≠ "" := by
  unfold Number.fixedPlaces
  split
  · split_ifs <;> decide
  · intro h
    have hchars := congrArg String.toList h
    simp at hchars

/-- **A place shows its value**: as it is without a link, and as a text with one.  The link shows
its own text if the value has none. -/
theorem Laid.place_cases {link : Option String}
    (h : Laid (sheetSlots queries rows) (sheetLinks queries planned) sheet.cells)
    (hmem : (s, link) ∈ (sheetSlots queries rows).zip (sheetLinks queries planned)) :
    (link = none ∧ sheet.linkAt? s.row s.column = none ∧ sheet.valueAt? s.row s.column = s.shown) ∨
    ∃ url stored own, link = some url ∧ storeLink? url = some (stored, own) ∧
      sheet.linkAt? s.row s.column = some stored ∧ sheet.valueAt? s.row s.column =
        some (.text (if s.value.linkText = "" then own else s.value.linkText)) := by
  obtain ⟨piece, hpiece, hfind⟩ := h.find?_place pairwise_sheetSlots hmem
  have hcell : sheet.cellAt? s.row s.column = piece.head? := hfind
  rw [Sheet.valueAt?, Sheet.linkAt?, hcell]
  cases link with
  | none =>
    obtain ⟨hvalue, hlink⟩ := Slot.head?_of_cells_none hpiece
    exact .inl ⟨rfl, hlink, hvalue⟩
  | some url =>
    obtain ⟨stored, own, hstored, hlink, hvalue⟩ := Slot.head?_of_cells_some hpiece
    exact .inr ⟨url, stored, own, rfl, hstored, hlink, hvalue⟩

theorem Laid.place_none
    (h : Laid (sheetSlots queries rows) (sheetLinks queries planned) sheet.cells)
    (hmem : (s, none) ∈ (sheetSlots queries rows).zip (sheetLinks queries planned)) :
    sheet.valueAt? s.row s.column = s.shown := by
  rcases h.place_cases hmem with ⟨-, -, hvalue⟩ | ⟨url, -, -, hurl, -⟩
  · exact hvalue
  · cases hurl

/-- No place lies beyond the last column or below the last row. -/
theorem bounds_of_mem_sheetSlots (h : s ∈ sheetSlots queries rows) :
    s.row ≤ rows.length ∧ s.column ≤ queries.length + 2 := by
  rcases List.mem_append.1 h with hheading | hrows
  · obtain ⟨j, hj⟩ := List.mem_iff_getElem?.1 hheading
    have hposition : s.position = (0, j) := position_of_getElem? rfl rfl rfl (fun _ => rfl) hj
    have hlt := (List.getElem?_eq_some_iff.1 hj).1
    rw [length_headingSlots] at hlt
    obtain ⟨hrow, hcolumn⟩ := Prod.mk.injEq .. ▸ hposition
    omega
  · obtain ⟨i, r, hr, hs⟩ := exists_of_mem_rowSlots hrows
    obtain ⟨j, hj⟩ := List.mem_iff_getElem?.1 hs
    have hi := (List.getElem?_eq_some_iff.1 hr).1
    have hlt := (List.getElem?_eq_some_iff.1 hj).1
    rw [length_slots] at hlt
    obtain ⟨hrow, hcolumn⟩ := Prod.mk.injEq .. ▸ position_of_mem_slots hj
    omega

theorem Laid.cellAt?_eq_none {row column : Nat}
    (h : Laid (sheetSlots queries rows) (sheetLinks queries planned) sheet.cells)
    (hout : rows.length < row ∨ queries.length + 2 < column) : sheet.cellAt? row column = none := by
  refine h.find?_eq_none fun s hs hposition => ?_
  obtain ⟨hrow, hcolumn⟩ := bounds_of_mem_sheetSlots hs
  obtain ⟨rfl, rfl⟩ := Prod.mk.injEq .. ▸ hposition
  omega

/-- **The heading of a sheet.** -/
theorem showsHeading_of_layout (hshows : List.Forall₂ PlannedRow.Shows rows planned)
    (h : layout queries planned = .ok sheet) : sheet.ShowsHeading queries := by
  have hlaid := laid_of_layout hshows h
  have hplace {k : Nat} {s : Slot} (hs : (headingSlots queries)[k]? = some s)
      (hlink : (columns none (queries.map fun _ => none))[k]? = some none) :=
    hlaid.place_none (mem_zip_heading hs hlink)
  refine ⟨hplace (k := 0) rfl rfl, hplace (k := 1) rfl rfl, fun j q hq => ?_, ?_, ?_⟩
  · exact (hplace (getElem?_places hq) (getElem?_columns hq)).trans (Slot.shown_heading ..)
  · exact hplace getElem?_total getElem?_columns_total
  · exact fun column hcolumn => hlaid.cellAt?_eq_none (.inr hcolumn)

/-- **The weight of a query** stands in its column. -/
theorem Laid.valueAt?_weight {r : SortedRow} {p : PlannedRow} (hshow : p.Shows r) {row column : Nat}
    {q : QueryId} (h : Laid (sheetSlots queries rows) (sheetLinks queries planned) sheet.cells)
    (hmem : (⟨row, column, r.shownWeight q⟩, p.weightLink? q) ∈
      (sheetSlots queries rows).zip (sheetLinks queries planned)) :
    sheet.valueAt? row column = (r.weight? q).map fun weight =>
      if (sheet.linkAt? row column).isSome then .text (Number.fixedPlaces 3 weight)
      else numberShown weight := by
  have hlookup : p.weights.lookup q = r.weight? q := by
    rw [hshow]
    rfl
  rw [PlannedRow.weightLink?, hlookup, SortedRow.shownWeight] at hmem
  cases hweight : r.weight? q with
  | none =>
    rw [hweight] at hmem
    exact h.place_none hmem
  | some weight =>
    rw [hweight] at hmem
    rw [Option.map_some]
    rcases h.place_cases hmem with ⟨-, hlink, hvalue⟩ | ⟨url, stored, own, -, -, hlink, hvalue⟩
    · rw [hlink, hvalue]
      rfl
    · rw [hlink, hvalue]
      have htext : (if Number.fixedPlaces 3 weight = "" then own else Number.fixedPlaces 3 weight) =
          Number.fixedPlaces 3 weight := if_neg (fixedPlaces_ne_empty weight)
      exact congrArg (fun t => some (CellValue.text t)) htext

/-- **The rows of a sheet**, in order. -/
theorem showsRow_of_layout (hshows : List.Forall₂ PlannedRow.Shows rows planned)
    (h : layout queries planned = .ok sheet) {i : Nat} {r : SortedRow} (hr : rows[i]? = some r) :
    sheet.ShowsRow queries (i + 1) r := by
  have hlaid := laid_of_layout hshows h
  have hi : i < planned.length := hshows.length_eq ▸ (List.getElem?_eq_some_iff.1 hr).1
  have hp := List.getElem?_eq_getElem hi
  generalize planned[i] = p at hp
  obtain ⟨r', hr', hshow⟩ := exists_getElem?_of_forall₂ hshows hp
  obtain rfl : r' = r := Option.some.inj (hr'.symm.trans hr)
  have hzip {k : Nat} {s : Slot} {link : Option String}
      (hs : (r'.slots queries (i + 1))[k]? = some s)
      (hlink : (p.columnLinks queries)[k]? = some link) :=
    mem_zip_row hshows hr hp hs hlink
  have hlabel : (sheet.linkAt? (i + 1) 0 = none ∧ sheet.valueAt? (i + 1) 0 = textShown r'.label) ∨
      ∃ url link own, storeLink? url = some (link, own) ∧ sheet.linkAt? (i + 1) 0 = some link ∧
        sheet.valueAt? (i + 1) 0 = some (.text (if r'.label = "" then own else r'.label)) := by
    rcases hlaid.place_cases (hzip (k := 0) rfl rfl) with
      ⟨-, hlink, hvalue⟩ | ⟨url, link, own, -, hstored, hlink, hvalue⟩
    · exact .inl ⟨hlink, hvalue.trans (Slot.shown_plain ..)⟩
    · exact .inr ⟨url, link, own, hstored, hlink, hvalue⟩
  refine ⟨fun hnamed => ?_, fun hempty hnone => ?_, fun hempty link hleads => ?_, ?_, ?_, ?_, ?_⟩
  · rcases hlabel with ⟨-, hvalue⟩ | ⟨url, link, own, -, -, hvalue⟩
    · rw [hvalue, textShown, if_neg hnamed]
    · rw [hvalue, if_neg hnamed]
  · rcases hlabel with ⟨-, hvalue⟩ | ⟨url, link, own, -, hleads, -⟩
    · rw [← Sheet.valueAt?_eq_none_iff, hvalue, textShown, if_pos hempty]
    · rw [hnone] at hleads
      cases hleads
  · rcases hlabel with ⟨hnone, -⟩ | ⟨url, link', own, hstored, hleads', hvalue⟩
    · rw [hnone] at hleads
      cases hleads
    · obtain rfl := Option.some.inj (hleads'.symm.trans hleads)
      rw [if_pos hempty] at hvalue
      exact ⟨url, own, hstored, hvalue⟩
  · exact (hlaid.place_none (hzip (k := 1) rfl rfl)).trans (Slot.shown_plain ..)
  · exact fun j q hq =>
      hlaid.valueAt?_weight hshow (hzip (getElem?_places hq) (getElem?_columns hq))
  · exact hlaid.place_none (hzip getElem?_total getElem?_columns_total)
  · exact fun column hcolumn => hlaid.cellAt?_eq_none (.inr hcolumn)

end Sheets

/-! ## Reports -/

/-- **A report shows every value in its cell.**  It has as many rows as are asked for and there, and
tells whether some are left out.  Its cells come row by row and column by column, no two of them in
one place.  The heading names the queries in the order in which they are given, and row by row the
sheet shows the rows of the report: the label, the path, each weight in the column of its query, and
the total.  There are no other cells. -/
theorem values_of_report {options : ReportOptions} {index : SearchIndex} {given : Option Renderer}
    {x y : Writer} (hnew : Writer.new options index given = .ok x) {queries : List NamedQuery}
    (hids : (queries.map NamedQuery.id).Nodup) {rows : List SortedRow} {w w' : Workspace}
    {artifact : Artifact} (hwrite : x.write queries rows w = (y, w', .ok artifact)) :
    artifact.rowsWritten = min (options.topN.getD rows.length) rows.length ∧
    (artifact.truncated = true ↔ artifact.rowsWritten < rows.length) ∧
    ∃ sheet, w'.tree.read? options.output = some (.sheet sheet) ∧
      (sheet.cells.Pairwise fun c d => RowMajor c.position d.position) ∧
      sheet.ShowsHeading queries ∧
      (∀ i r, i < artifact.rowsWritten → rows[i]? = some r → sheet.ShowsRow queries (i + 1) r) ∧
      ∀ row column, artifact.rowsWritten < row → sheet.cellAt? row column = none := by
  obtain ⟨rfl, -, -⟩ := Writer.new_eq_ok.1 hnew
  obtain ⟨v₁, v₂, planned, used, sheet, tree, -, hplan, hlayout, hsave, rfl, rfl⟩ :=
    Writer.write_eq_ok hwrite
  obtain ⟨hshows, -⟩ := Writer.planRows_spec hnew hids hplan
  dsimp only at hshows ⊢
  have hshown : options.shown rows.length = min (options.topN.getD rows.length) rows.length := by
    unfold ReportOptions.shown
    cases options.topN <;> simp
  have hcount : planned.length = options.shown rows.length := by
    rw [← hshows.length_eq, List.length_take, hshown]
    omega
  have hlaid := laid_of_layout hshows hlayout
  refine ⟨hcount.trans hshown, by rw [hcount, decide_eq_true_iff], sheet,
    FileTree.read?_writeFile hsave, hlaid.pairwise pairwise_sheetSlots,
    showsHeading_of_layout hshows hlayout, fun i r hi hr => ?_, fun row column hrow => ?_⟩
  · refine showsRow_of_layout hshows hlayout ?_
    rwa [List.getElem?_take_of_lt (hcount ▸ hi)]
  · exact hlaid.cellAt?_eq_none (.inl (hshows.length_eq ▸ hrow))

/-- The first of two rows is shown, each of its weights under the query that it is for. -/
theorem values_of_report_two_queries :
    let base : Url := ⟨"http".toList, some ⟨[], none, some (.domain "h".toList), none⟩,
      .segments ["s".toList], none, none⟩
    let options : ReportOptions := ⟨⟨"tags.xlsx"⟩, .live base, some 1, 2⟩
    let index : SearchIndex := Script.index ⟨[], [], [], [], [], [], [], false⟩
    let queries : List NamedQuery :=
      [⟨7, "late", "c", -1, -1⟩, ⟨1, "early", "a", -1, -1⟩, ⟨3, "", "b", -1, -1⟩]
    let rows : List SortedRow :=
      [⟨"x", 3, "x.txt", "docs/x.txt", some 0, [(1, 1), (7, 2)]⟩,
        ⟨"y", 1, "", "", some 1, [(3, 1)]⟩]
    let w : Workspace := ⟨⟨[(["work"], .directory)], ["work"]⟩, [], .sound⟩
    ∃ x y v artifact, Writer.new options index none = .ok x ∧
      (queries.map NamedQuery.id).Nodup ∧ x.write queries rows w = (y, v, .ok artifact) ∧
      artifact.rowsWritten = 1 ∧ artifact.truncated = true ∧
      ∃ sheet, v.tree.read? options.output = some (.sheet sheet) ∧
        sheet.valueAt? 0 2 = some (.text "late") ∧ sheet.valueAt? 0 4 = some .blank ∧
        sheet.valueAt? 1 0 = some (.text "x.txt") ∧
        sheet.valueAt? 1 2 = some (if (sheet.linkAt? 1 2).isSome then .text "2.000"
          else numberShown 2) ∧
        sheet.cellAt? 1 4 = none ∧ sheet.cellAt? 2 0 = none := by
  intro base options index queries rows w
  have hname : options.output.fileName? = some "tags.xlsx" := by decide +kernel
  have hnew : Writer.new options index none = .ok ⟨options, index, none, false⟩ :=
    Writer.new_eq_ok.2 ⟨rfl, ⟨_, hname⟩, fun _ hmode => nomatch hmode⟩
  have hok : (Writer.write ⟨options, index, none, false⟩ queries rows w).2.2.toOption.map
      Artifact.rowsWritten = some 1 := by
    decide +kernel
  have hplaces : Number.fixedPlaces 3 2 = "2.000" := by decide +kernel
  have hids : (queries.map NamedQuery.id).Nodup := by decide
  rcases hwrite : Writer.write ⟨options, index, none, false⟩ queries rows w with
    ⟨y, v, f | artifact⟩
  · rw [hwrite] at hok
    cases hok
  rw [hwrite] at hok
  have hone : artifact.rowsWritten = 1 := Option.some.inj hok
  obtain ⟨-, htruncated, sheet, hread, -, hheading, hrows, hbelow⟩ :=
    values_of_report hnew hids hwrite
  have hrow := hrows 0 _ (by omega) rfl
  refine ⟨_, y, v, artifact, hnew, hids, hwrite, hone, htruncated.2 (hone ▸ by decide), sheet,
    hread, hheading.query 0 _ rfl, hheading.query 2 _ rfl, hrow.label (by decide), ?_, ?_,
    hbelow 2 0 (by omega)⟩
  · rw [← hplaces]
    exact hrow.weight 0 _ rfl
  · exact Sheet.valueAt?_eq_none_iff.1 (hrow.weight 2 _ rfl)

/-- The text in a place of a sheet. -/
def Content.textAt? (row column : Nat) : Content → Option String
  | .sheet s => match s.valueAt? row column with
    | some (.text t) => some t
    | _ => none
  | _ => none

/-- **A row without a name shows its link**, and a total that is no number is shown as a text. -/
theorem unnamed_row_shows_link :
    let base : Url := ⟨"http".toList, some ⟨[], none, some (.domain "h".toList), none⟩,
      .segments ["s".toList], none, none⟩
    let index : SearchIndex := Script.index ⟨[], [], [], [], [], [], [], false⟩
    let writer : Writer := ⟨⟨⟨"tags.xlsx"⟩, .live base, none, 1⟩, index, none, false⟩
    let queries : List NamedQuery := [⟨1, "Q1", "q1", -1, -1⟩, ⟨2, "Q2", "q2", -1, -1⟩]
    let rows : List SortedRow := [⟨"", .ofFloat (1 / 0), "", "p", some 0, [(2, 1)]⟩]
    let w : Workspace := ⟨⟨[(["work"], .directory)], ["work"]⟩, [], .sound⟩
    Writer.new writer.options index none = .ok writer ∧
      (writer.write queries rows w).2.2.toOption.map Artifact.rowsWritten = some 1 ∧
      ∃ content, (writer.write queries rows w).2.1.tree.read? ⟨"tags.xlsx"⟩ = some content ∧
        content.textAt? 1 0 = some "http://h/s?file_id=&query_ids=2" ∧
        content.textAt? 1 4 = some "INF" := by
  intro base index writer queries rows w
  have hname : writer.options.output.fileName? = some "tags.xlsx" := by decide +kernel
  have hsaved : ((writer.write queries rows w).2.1.tree.read? ⟨"tags.xlsx"⟩).any
      (fun content => decide (content.textAt? 1 0 = some "http://h/s?file_id=&query_ids=2" ∧
        content.textAt? 1 4 = some "INF")) = true := by
    decide +kernel
  obtain ⟨content, hread, htexts⟩ := (Option.any_eq_true _ _).1 hsaved
  exact ⟨Writer.new_eq_ok.2 ⟨rfl, ⟨_, hname⟩, fun _ hmode => nomatch hmode⟩, by decide +kernel,
    content, hread, of_decide_eq_true htexts⟩

end Tagging
