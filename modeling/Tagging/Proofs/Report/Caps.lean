import Tagging.Index
import Tagging.Proofs.Report.Cells
import Tagging.Proofs.Report.Planning

/-!
# What a cap takes away

Two reports of the same rows that differ in their caps only show the same values in the same places.
The smaller cap takes the first of the links, row by row and column by column; the cells that lose
their links show what they would show without.

* `SortedRow.ShowsPlainly` — a label or a weight without a link;
* `Sheet.CappedFrom` — **what a cap leaves of a sheet**;
* `cappedFrom_of_layout` — sheets that are laid out under two caps;
* `links_under_cap` — **a report under a cap** beside the same report without one.
-/

namespace Tagging

/-! ## Cells without links -/

/-- The cell of a row that shows its label, or the weight of a query as a number. -/
inductive SortedRow.ShowsPlainly (queries : List NamedQuery) (r : SortedRow) (row : Nat) :
    Cell → Prop where
  /-- The label, if there is one. -/
  | label (named : r.displayName ≠ "" ∨ r.fileId ≠ "") :
      ShowsPlainly queries r row
        ⟨row, 0, .text (if r.displayName = "" then r.fileId else r.displayName), .plain, none⟩
  /-- The weight of the query in the heading. -/
  | weight {j : Nat} {q : NamedQuery} {weight : Double} {cell : Cell}
      (heading : queries[j]? = some q) (weighed : r.weight? q.id = some weight)
      (shown : numberCell row (j + 2) weight = .ok [cell]) : ShowsPlainly queries r row cell

theorem eq_singleton_of_numberCell {row column : Nat} {x : Double} {cells : List Cell}
    (h : numberCell row column x = .ok cells) : ∃ cell, cells = [cell] := by
  unfold numberCell at h
  split_ifs at h <;> cases h <;> exact ⟨_, rfl⟩

theorem eq_singleton_of_textCell {row column : Nat} {s : String} {cells : List Cell}
    (h : textCell row column s .plain = .ok cells) (hne : s ≠ "") :
    cells = [⟨row, column, .text s, .plain, none⟩] := by
  unfold textCell at h
  split_ifs at h
  cases h
  rfl

/-- **A place that could have a link** shows its label or its weight without one. -/
theorem exists_showsPlainly {queries : List NamedQuery} {r : SortedRow} {p : PlannedRow}
    (hshows : p.Shows r) {row column : Nat} {url : String} (hat : p.LinksAt queries column url)
    (hnamed : r.displayName ≠ "" ∨ r.fileId ≠ "") {s : Slot}
    (hs : (r.slots queries row)[column]? = some s) {piece : List Cell}
    (h : s.cells none = .ok piece) : ∃ d ∈ piece, r.ShowsPlainly queries row d := by
  cases hat with
  | label link =>
    cases hs
    have hlabel : (PlannedRow.ofRow r).label ≠ "" := by
      unfold PlannedRow.label
      split_ifs with hempty
      · exact hnamed.resolve_left fun hne => hne hempty
      · exact hempty
    rw [eq_singleton_of_textCell h hlabel]
    exact ⟨_, List.mem_singleton_self _, .label hnamed⟩
  | @weight j q weight url heading weighed link =>
    have hweighed : r.weight? q.id = some weight := by
      rw [hshows] at weighed
      exact weighed
    have hplace : (r.slots queries row)[j + 2]? = some ⟨row, j + 2, r.shownWeight q.id⟩ :=
      getElem?_places heading
    obtain rfl := Option.some.inj (hplace.symm.trans hs)
    have hnumber : numberCell row (j + 2) weight = .ok piece := by
      rw [Slot.cells, SortedRow.shownWeight, hweighed] at h
      exact h
    obtain ⟨cell, rfl⟩ := eq_singleton_of_numberCell hnumber
    exact ⟨cell, List.mem_singleton_self _, .weight heading hweighed hnumber⟩

/-! ## Sheets under caps -/

/-- What a cap leaves of a sheet: the first of its links, and all of its values. -/
structure Sheet.CappedFrom (full : Sheet) (cap : Nat) (queries : List NamedQuery)
    (rows : List SortedRow) (sheet : Sheet) : Prop where
  /-- Cells come row by row and column by column, no two of them in one place. -/
  order : full.cells.Pairwise fun c d => RowMajor c.position d.position
  /-- The cells with links are the first ones of those that have links without the cap. -/
  linked : linkedCells sheet.cells = (linkedCells full.cells).take cap
  /-- In all other places the cells are the same. -/
  others : ∀ cell : Cell, (∀ c ∈ linkedCells full.cells, c.position ≠ cell.position) →
    (cell ∈ sheet.cells ↔ cell ∈ full.cells)
  /-- The cells that lose their links show a label or a weight. -/
  unlinked : ∀ c ∈ (linkedCells full.cells).drop cap, ∃ i, ∃ r : SortedRow, rows[i]? = some r ∧
    (r.displayName ≠ "" ∨ r.fileId ≠ "" →
      ∃ d ∈ sheet.cells, d.position = c.position ∧ r.ShowsPlainly queries (i + 1) d)

section Sheets

variable {queries : List NamedQuery} {rows : List SortedRow} {planned plannedFull : List PlannedRow}
  {sheet full : Sheet} {cap : Nat}

/-- The heading has no link to keep. -/
theorem sheetLinks_keepFirst (h : planned.flatMap (PlannedRow.columnLinks queries) =
      keepFirst cap (plannedFull.flatMap (PlannedRow.columnLinks queries))) :
    sheetLinks queries planned = keepFirst cap (sheetLinks queries plannedFull) := by
  have hheading : (columns none (queries.map fun _ => none)).reduceOption = [] := by
    rw [reduceOption_columns]
    simp
  have hnone : keepFirst cap (columns none (queries.map fun _ => none)) =
      columns none (queries.map fun _ => none) := by
    refine keepFirst_eq_self ?_
    rw [hheading]
    exact Nat.zero_le cap
  rw [sheetLinks, sheetLinks, keepFirst_append, h, hheading, hnone]
  rfl

theorem Cell.nodup_of_pairwise {cells : List Cell}
    (h : cells.Pairwise fun c d => RowMajor c.position d.position) : cells.Nodup := by
  refine h.imp fun hless heq => ?_
  rw [heq] at hless
  exact RowMajor.irrefl _ hless

/-- **Sheets under two caps**: one takes the first of the links of the other. -/
theorem cappedFrom_of_layout (hshows : List.Forall₂ PlannedRow.Shows rows planned)
    (hshowsFull : List.Forall₂ PlannedRow.Shows rows plannedFull)
    (hlinks : planned.flatMap (PlannedRow.columnLinks queries) =
      keepFirst cap (plannedFull.flatMap (PlannedRow.columnLinks queries)))
    (hsheet : layout queries planned = .ok sheet) (hfull : layout queries plannedFull = .ok full) :
    full.CappedFrom cap queries rows sheet := by
  have hlaid := laid_of_layout hshows hsheet
  have hlaidFull := laid_of_layout hshowsFull hfull
  rw [sheetLinks_keepFirst hlinks] at hlaid
  have horder := hlaidFull.pairwise pairwise_sheetSlots
  have hlinked := hlaidFull.linked_keepFirst hlaid
  refine ⟨horder, hlinked, fun cell hcell => hlaidFull.mem_iff_of_keepFirst hlaid hcell, ?_⟩
  intro c hc
  have hin : c ∈ linkedCells full.cells := List.mem_of_mem_drop hc
  obtain ⟨hcell, hleads⟩ := List.mem_filter.1 hin
  obtain ⟨link, hlink⟩ := Option.isSome_iff_exists.1 hleads
  -- no linked cell comes twice, so this one is not among the first ones
  have hgone : c ∉ sheet.cells := by
    intro hmem
    have hkept : c ∈ (linkedCells full.cells).take cap := by
      rw [← hlinked]
      exact List.mem_filter.2 ⟨hmem, hleads⟩
    have hnodup : (linkedCells full.cells).Nodup :=
      (Cell.nodup_of_pairwise horder).filter _
    exact List.disjoint_take_drop hnodup (Nat.le_refl cap) hkept hc
  obtain ⟨s, url, piece, hs, hsome, hnone, hpiece⟩ := hlaidFull.exists_unlinked hlaid hin hgone
  obtain ⟨i, p, url', own, hp, hrow, hat, -⟩ := linksAt_of_layout hfull hcell hlink
  have hposition : s.position = (i + 1, c.column) := by
    rw [← Slot.position_of_mem hsome (List.mem_singleton_self c), Cell.position, hrow]
  obtain ⟨r, hr, hslot⟩ := exists_of_mem_sheetSlots hs hposition
  obtain ⟨r', hr', hshow⟩ := exists_getElem?_of_forall₂ hshowsFull hp
  obtain rfl : r' = r := Option.some.inj (hr'.symm.trans hr)
  refine ⟨i, r', hr, fun hnamed => ?_⟩
  obtain ⟨d, hd, hplain⟩ := exists_showsPlainly hshow hat hnamed hslot hnone
  refine ⟨d, hpiece d hd, ?_, hplain⟩
  rw [Slot.position_of_mem hnone hd, ← Slot.position_of_mem hsome (List.mem_singleton_self c)]

end Sheets

/-! ## Reports under caps -/

section Reports

variable {options : ReportOptions} {queries : List NamedQuery} {rows : List SortedRow}
  {planned : List PlannedRow} {full : Sheet}

/-- **The linked cells without a cap** are those that are offered a link. -/
theorem linked_iff_offered (hshows : List.Forall₂ PlannedRow.Shows rows planned)
    (hlinks : planned.flatMap (PlannedRow.columnLinks queries) =
      (options.offers queries rows).flatten)
    (hfull : layout queries planned = .ok full) (i column : Nat) (link : StoredLink) :
    (∃ c ∈ full.cells, c.Stands (i + 1) column (some link)) ↔
      ∃ links url own, (options.offers queries rows)[i]? = some links ∧
        links[column]? = some (some url) ∧ storeLink? url = some (link, own) := by
  have hrows : planned.map (PlannedRow.columnLinks queries) = options.offers queries rows := by
    rw [List.eq_iff_flatten_eq, ← List.flatMap_def]
    refine ⟨hlinks, ?_⟩
    rw [List.eq_replicate_of_mem (a := queries.length + 3) (l := (planned.map _).map List.length),
      List.eq_replicate_of_mem (a := queries.length + 3)
        (l := (options.offers queries rows).map List.length)]
    · rw [List.length_map, List.length_map, List.length_map, length_offers, hshows.length_eq]
    · intro n hn
      obtain ⟨links, hmem, rfl⟩ := List.mem_map.1 hn
      exact length_of_mem_offers hmem
    · intro n hn
      obtain ⟨links, hmem, rfl⟩ := List.mem_map.1 hn
      obtain ⟨p, -, rfl⟩ := List.mem_map.1 hmem
      exact length_columnLinks
  rw [← hrows]
  exact linked_iff hshows hfull i column link

/-- **Every link that is offered** is short enough for a sheet. -/
theorem length_le_of_mem_offers {links : List (Option String)} {url : String}
    (h : links ∈ options.offers queries rows) (hurl : some url ∈ links) :
    url.length ≤ maxLinkLength := by
  have hfitting : ∀ {link : String}, fitting link = some url → url.length ≤ maxLinkLength := by
    intro link hlink
    obtain ⟨hfits, rfl⟩ := fitting_eq_some_iff.1 hlink
    exact hfits
  unfold ReportOptions.offers at h
  split at h
  · obtain ⟨r, -, rfl⟩ := List.mem_map.1 h
    rcases some_mem_columns_iff.1 hurl with hlabel | hweight
    · exact hfitting hlabel
    · obtain ⟨q, -, hq⟩ := List.mem_map.1 hweight
      split_ifs at hq
      exact hfitting hq
  · obtain ⟨plan, hplan, rfl⟩ := List.mem_map.1 h
    rcases some_mem_columns_iff.1 hurl with hlabel | hweight
    · obtain ⟨plan, rfl, rfl⟩ := Option.map_eq_some_iff.1 hlabel
      obtain ⟨i, hi⟩ := List.mem_iff_getElem?.1 hplan
      obtain ⟨r, -, hof⟩ := of_snapshotPlans hi
      exact of_decide_eq_true hof.fits
    · obtain ⟨q, -, hq⟩ := List.mem_map.1 hweight
      cases hq

/-- **A report under a cap**, beside the same report with a cap that is no limit.  The cap takes the
first of the links and nothing else: as many links as it allows, in order; all other cells, the
number of rows and whether rows are left out stay the same.  Without a limit the links are those
that are offered, none of them too long; and a static report has a snapshot for each of its
links. -/
theorem links_under_cap {index : SearchIndex} {given : Option Renderer} {all : Nat}
    {x x' y y' : Writer} (hnew : Writer.new options index given = .ok x)
    (hnew' : Writer.new { options with maxHyperlinks := all } index given = .ok x')
    (hids : (queries.map NamedQuery.id).Nodup) (hall : rows.length * (queries.length + 1) ≤ all)
    {v v' w w' : Workspace} {artifact artifact' : Artifact}
    (hwrite : x.write queries rows v = (y, v', .ok artifact))
    (hwrite' : x'.write queries rows w = (y', w', .ok artifact')) :
    ∃ sheet full, v'.tree.read? options.output = some (.sheet sheet) ∧
      w'.tree.read? options.output = some (.sheet full) ∧
      full.CappedFrom options.maxHyperlinks queries (rows.take (options.shown rows.length)) sheet ∧
      artifact'.hyperlinksWritten = (linkedCells full.cells).length ∧
      artifact.hyperlinksWritten = min options.maxHyperlinks artifact'.hyperlinksWritten ∧
      artifact.hyperlinksWritten = (linkedCells sheet.cells).length ∧
      (∀ i column link, (∃ c ∈ full.cells, c.Stands (i + 1) column (some link)) ↔
        ∃ links url own,
          (options.offers queries (rows.take (options.shown rows.length)))[i]? = some links ∧
          links[column]? = some (some url) ∧ storeLink? url = some (link, own)) ∧
      (∀ links ∈ options.offers queries (rows.take (options.shown rows.length)),
        ∀ url, some url ∈ links → url.length ≤ maxLinkLength) ∧
      artifact.rowsWritten = artifact'.rowsWritten ∧ artifact.truncated = artifact'.truncated ∧
      ∀ suffix, options.mode = .static suffix →
        artifact.snapshotsWritten = artifact.hyperlinksWritten ∧
          artifact'.snapshotsWritten = artifact'.hyperlinksWritten := by
  obtain ⟨rfl, -, -⟩ := Writer.new_eq_ok.1 hnew
  obtain ⟨rfl, -, -⟩ := Writer.new_eq_ok.1 hnew'
  obtain ⟨v₁, v₂, planned, used, sheet, tree, -, hplan, hlayout, hsave, rfl, rfl⟩ :=
    Writer.write_eq_ok hwrite
  obtain ⟨w₁, w₂, planned', used', full, tree', -, hplan', hlayout', hsave', rfl, rfl⟩ :=
    Writer.write_eq_ok hwrite'
  obtain ⟨hshows, hlinks, hused, htaken⟩ := Writer.planRows_spec hnew hids hplan
  obtain ⟨hshows', hlinks', hused', htaken'⟩ := Writer.planRows_spec hnew' hids hplan'
  dsimp only at hshows hlinks hused htaken hshows' hlinks' hused' htaken' ⊢
  have hsame : ReportOptions.offers { options with maxHyperlinks := all } queries
      (rows.take (options.shown rows.length)) =
        options.offers queries (rows.take (options.shown rows.length)) := rfl
  have hshown : ReportOptions.shown { options with maxHyperlinks := all } rows.length =
      options.shown rows.length := rfl
  rw [hshown] at hshows' hlinks' hused' ⊢
  rw [hsame] at hlinks' hused'
  have hcount : (options.offers queries
      (rows.take (options.shown rows.length))).flatten.reduceOption.length ≤ all := by
    refine (length_reduceOption_offers_le.trans (Nat.mul_le_mul_right _ ?_)).trans hall
    rw [List.length_take]
    exact Nat.min_le_right _ _
  rw [keepFirst_eq_self hcount] at hlinks'
  rw [Nat.min_eq_right hcount] at hused'
  have hcapped := cappedFrom_of_layout hshows hshows' (by rw [hlinks, hlinks']) hlayout hlayout'
  have hlinked : (linkedCells full.cells).length = used'.budget.used := by
    rw [(laid_of_layout hshows' hlayout').length_linkedCells, sheetLinks, hlinks',
      List.reduceOption_append, reduceOption_columns, hused']
    simp
  refine ⟨sheet, full, FileTree.read?_writeFile hsave, FileTree.read?_writeFile hsave', hcapped,
    hlinked.symm, by rw [hused, hused'], ?_, linked_iff_offered hshows' hlinks' hlayout', ?_, ?_,
    rfl, ?_⟩
  · rw [hcapped.linked, List.length_take, hlinked, hused, hused']
  · intro links hmem url hurl
    exact length_le_of_mem_offers hmem hurl
  · rw [← hshows.length_eq, ← hshows'.length_eq]
  · intro suffix hmode
    rw [hmode] at htaken htaken'
    exact ⟨htaken, htaken'⟩

end Reports

/-- One file that matches two queries, under a cap of two links: the row and the first query keep
theirs. -/
theorem links_under_cap_two_of_three :
    let base : Url := ⟨"http".toList, some ⟨[], none, some (.domain "h".toList), none⟩,
      .segments ["s".toList], none, none⟩
    let options : ReportOptions := ⟨⟨"tags.xlsx"⟩, .live base, none, 2⟩
    let index : SearchIndex := Script.index ⟨[], [], [], [], [], [], [], false⟩
    let queries : List NamedQuery := [⟨2, "two", "b", -1, -1⟩, ⟨1, "one", "a", -1, -1⟩]
    let rows : List SortedRow := [⟨"x", 2, "x.txt", "docs/x.txt", some 0, [(1, 1), (2, 1)]⟩]
    let w : Workspace := ⟨⟨[(["work"], .directory)], ["work"]⟩, [], .sound⟩
    ∃ x x' y y' v v' artifact artifact', Writer.new options index none = .ok x ∧
      Writer.new { options with maxHyperlinks := 9 } index none = .ok x' ∧
      x.write queries rows w = (y, v, .ok artifact) ∧
      x'.write queries rows w = (y', v', .ok artifact') ∧
      artifact'.hyperlinksWritten = 3 ∧
      ∃ sheet full, v.tree.read? options.output = some (.sheet sheet) ∧
        v'.tree.read? options.output = some (.sheet full) ∧
        linkedCells sheet.cells = (linkedCells full.cells).take 2 ∧
        (linkedCells full.cells).length = 3 := by
  intro base options index queries rows w
  have hname : options.output.fileName? = some "tags.xlsx" := by decide +kernel
  have hnew : Writer.new options index none = .ok ⟨options, index, none, false⟩ :=
    Writer.new_eq_ok.2 ⟨rfl, ⟨_, hname⟩, fun _ hmode => nomatch hmode⟩
  have hnew' : Writer.new { options with maxHyperlinks := 9 } index none =
      .ok ⟨{ options with maxHyperlinks := 9 }, index, none, false⟩ :=
    Writer.new_eq_ok.2 ⟨rfl, ⟨_, hname⟩, fun _ hmode => nomatch hmode⟩
  have hok : (Writer.write ⟨options, index, none, false⟩ queries rows w).2.2.toOption.map
      Artifact.hyperlinksWritten = some 2 := by
    decide +kernel
  have hok' : (Writer.write ⟨{ options with maxHyperlinks := 9 }, index, none, false⟩ queries rows
      w).2.2.toOption.map Artifact.hyperlinksWritten = some 3 := by
    decide +kernel
  rcases hwrite : Writer.write ⟨options, index, none, false⟩ queries rows w with
    ⟨y, v, f | artifact⟩
  · rw [hwrite] at hok
    cases hok
  rcases hwrite' : Writer.write ⟨{ options with maxHyperlinks := 9 }, index, none, false⟩ queries
      rows w with ⟨y', v', f | artifact'⟩
  · rw [hwrite'] at hok'
    cases hok'
  rw [hwrite'] at hok'
  have hthree : artifact'.hyperlinksWritten = 3 := Option.some.inj hok'
  obtain ⟨sheet, full, hread, hread', hcapped, hcount, -⟩ :=
    links_under_cap hnew hnew' (by decide) (by decide) hwrite hwrite'
  exact ⟨_, _, y, y', v, v', artifact, artifact', hnew, hnew', hwrite, hwrite', hthree, sheet, full,
    hread, hread', hcapped.linked, hcount.symm.trans hthree⟩

end Tagging
