import Tagging.Index
import Tagging.Proofs.Number
import Tagging.Proofs.Report.Budget
import Tagging.Proofs.Report.Layout
import Tagging.Proofs.Report.Snapshots
import Tagging.Proofs.Report.StoredLinks
import Tagging.Proofs.Run.Rows
import Tagging.Proofs.Url.Shape

/-!
# Searches that links repeat

A live link is written as a form, with an escape for each comma and for whatever a file id must not
hold; then a sheet writes out what it takes for characters that no link can hold, the percent signs
of these escapes among them.  So a stored link repeats its search only if the sheet left it as it
was, or if there was nothing to escape.

* `queryPairs_liveQuery`, `readPairs_liveQuery` — the pairs of a live link, and what is read from
  them;
* `StoredLink.Repeats`, `NeedsNoEscape` — a reader asks what the link was made for, and when nothing
  of it is escaped;
* `repeats_iff` — **when a stored link repeats its search**;
* `live_planLiveRows` — the links that a live report plans;
* `links_of_live_report` — **what the links of a live report repeat**, cell by cell.
-/

namespace Tagging

open Url (asWritten formDecode formEncode isFormPlain queryPairs withPair)

/-! ## Lists of ids -/

theorem isFormPlain_of_isDigit {c : Char} (h : c.isDigit = true) : isFormPlain c = true := by
  have hdigit : (decide ('0' ≤ c) && decide (c ≤ '9')) = true := h
  simp [isFormPlain, Url.isFormSafe, hdigit]

theorem isFormPlain_of_mem_toString {id : QueryId} {c : Char} (h : c ∈ (toString id).toList) :
    isFormPlain c = true := by
  have hnat : ∀ {n : Nat}, c ∈ n.repr.toList → isFormPlain c = true := by
    intro n hn
    exact isFormPlain_of_isDigit (isDigit_of_mem_toString hn)
  cases id with
  | ofNat n => exact hnat h
  | negSucc n =>
    have hneg : c ∈ ("-" ++ (n + 1).repr).toList := h
    rw [String.toList_append] at hneg
    rcases List.mem_append.1 hneg with hminus | hn
    · obtain rfl := List.mem_singleton.1 hminus
      rfl
    · exact hnat hn

theorem toList_idList_cons_cons (a b : QueryId) (rest : List QueryId) :
    (idList (a :: b :: rest)).toList =
      (toString a).toList ++ ',' :: (idList (b :: rest)).toList := by
  rw [idList, idList, List.map_cons, List.map_cons, String.intercalate_cons_cons,
    String.toList_append, String.toList_append, List.append_assoc]
  rfl

/-- **A list of ids** needs an escape if, and only if, it has a comma in it. -/
theorem forall_isFormPlain_idList_iff (ids : List QueryId) :
    (∀ c ∈ (idList ids).toList, isFormPlain c = true) ↔ ids.length ≤ 1 := by
  match ids with
  | [] => simp [idList]
  | [id] =>
    refine iff_of_true ?_ (Nat.le_refl 1)
    intro c hc
    rw [idList, List.map_singleton, String.intercalate_singleton] at hc
    exact isFormPlain_of_mem_toString hc
  | a :: b :: rest =>
    refine iff_of_false ?_ (by simp)
    intro h
    have hcomma : ',' ∈ (idList (a :: b :: rest)).toList := by
      rw [toList_idList_cons_cons]
      exact List.mem_append_right _ (List.mem_cons_self ..)
    exact absurd (h _ hcomma) (by decide)

/-! ## One live link -/

section Link

variable {base : Url} {fileId : String} {ids : List QueryId}

/-- The query of a live link. -/
def liveQuery (base : Url) (fileId : String) (ids : List QueryId) : List Char :=
  withPair (withPair (base.query.getD []) "file_id" fileId) "query_ids" (idList ids)

/-- **The pairs of a live link**: those of its base, then the file and the queries. -/
theorem queryPairs_liveQuery : queryPairs (liveQuery base fileId ids) =
    queryPairs (base.query.getD []) ++
      [(formEncode "file_id", formEncode fileId),
        (formEncode "query_ids", formEncode (idList ids))] := by
  rw [liveQuery, Url.queryPairs_withPair, Url.queryPairs_withPair, List.append_assoc,
    List.singleton_append]

theorem toList_liveLink : (liveLink base fileId ids).toList =
    base.front ++ '?' :: liveQuery base fileId ids ++ anchorText base.fragment := by
  rw [liveLink, Url.text, String.toList_ofList]
  rfl

/-- No pair brings in a character that ends a query or that a sheet changes. -/
theorem not_mem_liveQuery {c : Char} (hwritten : Url.isFormWritten c = false) (hamp : c ≠ '&')
    (hequals : c ≠ '=') (hquery : ∀ q, base.query = some q → c ∉ q) :
    c ∉ liveQuery base fileId ids := by
  have hpair : ∀ name value, c ∉ Url.pairText name value := by
    intro name value
    rw [Url.pairText, List.mem_append, List.mem_cons, not_or, not_or]
    exact ⟨Url.not_mem_formEncode hwritten name, hequals, Url.not_mem_formEncode hwritten value⟩
  have hwith : ∀ query name value, c ∉ query → c ∉ withPair query name value := by
    intro query name value hnot
    unfold withPair
    split_ifs
    · exact hpair name value
    · rw [List.mem_append, List.mem_cons, not_or, not_or]
      exact ⟨hnot, hamp, hpair name value⟩
  refine hwith _ _ _ (hwith _ _ _ ?_)
  cases hbase : base.query with
  | none => exact List.not_mem_nil
  | some q => exact hquery q hbase

/-- A sheet changes nothing in the query of a live link, and no place begins in it. -/
theorem kept_liveQuery (hbase : Url.Written base) :
    '#' ∉ liveQuery base fileId ids ∧ '\t' ∉ liveQuery base fileId ids ∧
      '\r' ∉ liveQuery base fileId ids := by
  refine ⟨?_, ?_, ?_⟩
  · exact not_mem_liveQuery (by decide) (by decide) (by decide) fun q hq => (hbase.query q hq).1
  · exact not_mem_liveQuery (by decide) (by decide) (by decide) fun q hq => (hbase.query q hq).2.1
  · exact not_mem_liveQuery (by decide) (by decide) (by decide) fun q hq => (hbase.query q hq).2.2

/-- Two slashes follow the scheme of a web address. -/
theorem exists_front_eq (hbase : Url.Written base)
    (hweb : base.scheme = "http".toList ∨ base.scheme = "https".toList) :
    ∃ rest, base.front = base.scheme ++ "://".toList ++ rest := by
  have hspecial : Url.schemeKind base.scheme = .special := by
    rcases hweb with hhttp | hhttps
    · rw [hhttp]
      rfl
    · rw [hhttps]
      rfl
  obtain ⟨a, ha⟩ := Option.isSome_iff_exists.1 (hbase.special hspecial)
  refine ⟨a.text ++ base.pathText, ?_⟩
  simp [Url.front, ha]

/-- A sheet takes a live link for a web address. -/
theorem storeLink?_liveLink_eq (hbase : Url.Written base)
    (hweb : base.scheme = "http".toList ∨ base.scheme = "https".toList) :
    storeLink? (liveLink base fileId ids) =
      some (keepLink (cutLocation (liveLink base fileId ids).toList).1
        (cutLocation (liveLink base fileId ids).toList).2, liveLink base fileId ids) := by
  obtain ⟨rest, hfront⟩ := exists_front_eq hbase hweb
  have hbegins : ∀ beginning : String, beginning.toList = base.scheme ++ "://".toList →
      (dropBeginning? beginning (liveLink base fileId ids).toList).isSome = true := by
    intro beginning heq
    have habove : beginning.toList <+: (liveLink base fileId ids).toList := by
      rw [toList_liveLink, hfront, heq, List.append_assoc, List.append_assoc]
      exact List.prefix_append _ _
    rw [dropBeginning?, if_pos (List.isPrefixOf_iff_prefix.2 habove)]
    rfl
  have hany : ["http://", "https://", "ftp://", "ftps://"].any
      (fun b => (dropBeginning? b (liveLink base fileId ids).toList).isSome) = true := by
    rcases hweb with hhttp | hhttps
    · exact List.any_eq_true.2 ⟨"http://", by simp, hbegins _ (by rw [hhttp]; rfl)⟩
    · exact List.any_eq_true.2 ⟨"https://", by simp, hbegins _ (by rw [hhttps]; rfl)⟩
  unfold storeLink?
  rw [if_pos hany]

/-- **A live link is cut behind its query.** -/
theorem cutLocation_liveLink (hbase : Url.Written base) :
    (cutLocation (liveLink base fileId ids).toList).1 =
      base.front ++ '?' :: liveQuery base fileId ids := by
  have hnumber : '#' ∉ base.front ++ '?' :: liveQuery base fileId ids := by
    intro hmem
    rcases List.mem_append.1 hmem with hfront | hbehind
    · exact (Url.unmarked_iff.1 hbase.front).2 hfront
    · rcases List.mem_cons.1 hbehind with heq | hquery
      · exact absurd heq (by decide)
      · exact (kept_liveQuery hbase).1 hquery
  rw [cutLocation, toList_liveLink,
    List.takeWhile_append_of_pos (Url.decide_ne_of_not_mem hnumber), takeWhile_anchorText,
    List.append_nil]

/-! ## What a stored link repeats -/

/-- A reader who follows the link asks for the file and the queries, behind what the base asks. -/
def StoredLink.Repeats (link : StoredLink) (base : Url) (fileId : String) (ids : List QueryId) :
    Prop :=
  readPairs (queryOf link.followed) = readPairs (base.query.getD []) ++
    [(some "file_id", some fileId), (some "query_ids", some (idList ids))]

instance (link : StoredLink) (base : Url) (fileId : String) (ids : List QueryId) :
    Decidable (link.Repeats base fileId ids) :=
  inferInstanceAs (Decidable (_ = _))

/-- Nothing that a live link asks is written with an escape: no pair of the base, no character of
the file, and no comma between ids. -/
structure NeedsNoEscape (base : Url) (fileId : String) (ids : List QueryId) : Prop where
  /-- The pairs of the base are read as they are written. -/
  base : ∀ p ∈ queryPairs (base.query.getD []),
    formDecode p.1 = some (asWritten p.1) ∧ formDecode p.2 = some (asWritten p.2)
  /-- The file is written with blanks and safe characters. -/
  file : ∀ c ∈ fileId.toList, isFormPlain c = true
  /-- There is no comma in the list of ids. -/
  ids : ids.length ≤ 1

/-- **A live link is read back** as what it was made for. -/
theorem readPairs_liveQuery : readPairs (liveQuery base fileId ids) =
    readPairs (base.query.getD []) ++
      [(some "file_id", some fileId), (some "query_ids", some (idList ids))] := by
  rw [readPairs, queryPairs_liveQuery, List.map_append, readPairs]
  simp [Url.formDecode_formEncode]

/-- **A live link that is read as it was written** is read back only if it needs no escape. -/
theorem asWritten_liveQuery_iff :
    (queryPairs (liveQuery base fileId ids)).map
        (Prod.map (some ∘ asWritten) (some ∘ asWritten)) =
      readPairs (base.query.getD []) ++
        [(some "file_id", some fileId), (some "query_ids", some (idList ids))] ↔
    NeedsNoEscape base fileId ids := by
  have hsame : ∀ p : List Char × List Char,
      Prod.map (some ∘ asWritten) (some ∘ asWritten) p = Prod.map formDecode formDecode p ↔
        formDecode p.1 = some (asWritten p.1) ∧ formDecode p.2 = some (asWritten p.2) := by
    intro p
    rw [Prod.ext_iff, eq_comm, @eq_comm _ (Prod.map _ _ p).2]
    rfl
  rw [queryPairs_liveQuery, List.map_append]
  constructor
  · intro h
    obtain ⟨hown, hadded⟩ := List.append_inj h (by simp [readPairs])
    have hpairs := List.map_inj_left.1 hown
    simp only [List.map_cons, List.map_nil, Prod.map, Function.comp_apply, List.cons.injEq,
      Prod.mk.injEq, Option.some.injEq, and_true] at hadded
    obtain ⟨⟨-, hfile⟩, -, hids⟩ := hadded
    refine ⟨?_, ?_, ?_⟩
    · intro p hp
      exact (hsame p).1 (hpairs p hp)
    · exact (Url.asWritten_formEncode_iff fileId).1 hfile
    · exact (forall_isFormPlain_idList_iff ids).1 ((Url.asWritten_formEncode_iff _).1 hids)
  · rintro ⟨hown, hfile, hids⟩
    have hfile' := (Url.asWritten_formEncode_iff fileId).2 hfile
    have hids' := (Url.asWritten_formEncode_iff _).2 ((forall_isFormPlain_idList_iff ids).2 hids)
    have hnames : ∀ s ∈ ["file_id", "query_ids"], asWritten (formEncode s) = s := by decide
    rw [readPairs, List.map_congr_left fun p hp => (hsame p).2 (hown p hp)]
    simp [hfile', hids', hnames]

/-- **When a stored link repeats its search**: if it holds a written form of its own, so that the
sheet leaves it as it is, or if it needs none. -/
theorem repeats_iff (hbase : Url.Written base)
    (hweb : base.scheme = "http".toList ∨ base.scheme = "https".toList) {link : StoredLink}
    {own : String} (hstored : storeLink? (liveLink base fileId ids) = some (link, own)) :
    link.Repeats base fileId ids ↔
      holdsEscape (cutLocation (liveLink base fileId ids).toList).1 = true ∨
        NeedsNoEscape base fileId ids := by
  obtain ⟨hquestion, hnumber⟩ := Url.unmarked_iff.1 hbase.front
  rw [storeLink?_liveLink_eq hbase hweb] at hstored
  obtain ⟨rfl, -⟩ := Prod.mk.inj (Option.some.inj hstored)
  rw [StoredLink.Repeats, cutLocation_liveLink hbase,
    readPairs_keepLink hquestion hnumber (kept_liveQuery hbase)]
  by_cases hholds : holdsEscape (base.front ++ '?' :: liveQuery base fileId ids) = true
  · rw [if_pos hholds]
    exact iff_of_true readPairs_liveQuery (.inl hholds)
  · rw [if_neg hholds, or_iff_right hholds]
    exact asWritten_liveQuery_iff

end Link

/-! ## The rows of a live report -/

/-- The queries whose search a cell of a row stands for, by its column: all that matched for the
first one, a single one for those under the headings. -/
inductive SortedRow.Asks (queries : List NamedQuery) (row : SortedRow) :
    Nat → List QueryId → Prop where
  /-- The cell that names the row. -/
  | label : Asks queries row 0 row.matched
  /-- The cell of a weight. -/
  | weight {j : Nat} {q : NamedQuery} (heading : queries[j]? = some q)
      (matched : q.id ∈ row.matched) : Asks queries row (j + 2) [q.id]

/-- The row is planned with links to searches for its file. -/
structure PlannedRow.Live (base : Url) (r : SortedRow) (p : PlannedRow) : Prop where
  /-- Its weights are those of the row. -/
  weights : p.weights = r.weights
  /-- The link of the row repeats the search of all queries that matched. -/
  fileLink : ∀ url, p.fileLink = some url → url = liveLink base r.fileId r.matched
  /-- The link of a weight repeats the search of its query. -/
  cellLinks : ∀ id url, (id, url) ∈ p.cellLinks → url = liveLink base r.fileId [id]

theorem eq_of_mem_planCellLinks {base : Url} {fileId : String} {queries : List NamedQuery}
    {id : QueryId} {url : String} (budget : LinkBudget)
    (h : (id, url) ∈ (planCellLinks base fileId budget queries).1) :
    url = liveLink base fileId [id] :=
  (fitting_eq_some_iff.1 (fitting_of_mem_planCellLinks base h)).2.symm

theorem live_planLive (base : Url) (queries : List NamedQuery) (r : SortedRow)
    (budget : LinkBudget) : PlannedRow.Live base r (planLive base queries r budget).1 := by
  unfold planLive
  dsimp only
  -- the link of the row is the one that was asked for, or there is none
  split
  · refine ⟨rfl, ?_, ?_⟩
    · intro url hurl
      cases hurl
      rfl
    · intro id url hmem
      exact eq_of_mem_planCellLinks _ hmem
  · refine ⟨rfl, ?_, ?_⟩
    · intro url hurl
      cases hurl
    · intro id url hmem
      exact eq_of_mem_planCellLinks _ hmem

/-- **All rows of a live report** are planned so. -/
theorem live_planLiveRows (base : Url) (queries : List NamedQuery) (budget : LinkBudget)
    (rows : List SortedRow) :
    List.Forall₂ (PlannedRow.Live base) rows (planLiveRows base queries budget rows).1 := by
  induction rows generalizing budget with
  | nil => exact .nil
  | cons r rest ih => exact .cons (live_planLive base queries r budget) (ih _)

theorem mem_of_lookup_eq_some {α : Type} {entries : List (QueryId × α)} {id : QueryId} {x : α}
    (h : entries.lookup id = some x) : (id, x) ∈ entries := by
  obtain ⟨front, back, rfl, -⟩ := List.lookup_eq_some_iff.1 h
  exact List.mem_append_right _ (List.mem_cons_self ..)

/-- **Each link of a planned row** repeats the search that its cell stands for. -/
theorem PlannedRow.Live.exists_asks {base : Url} {r : SortedRow} {p : PlannedRow}
    (h : p.Live base r) {queries : List NamedQuery} {column : Nat} {url : String}
    (hat : p.LinksAt queries column url) :
    ∃ ids, r.Asks queries column ids ∧ url = liveLink base r.fileId ids := by
  cases hat with
  | label link => exact ⟨r.matched, .label, h.fileLink url link⟩
  | @weight j q weight url heading weighed link =>
    have hmatched : q.id ∈ r.matched := by
      rw [h.weights] at weighed
      exact List.mem_map_of_mem (mem_of_lookup_eq_some weighed)
    exact ⟨[q.id], .weight heading hmatched, h.cellLinks _ _ (mem_of_lookup_eq_some link)⟩

/-! ## Live reports -/

/-- **What the links of a live report repeat.**  Take the rows of any run that succeeds, each with
the queries that matched by ascending id, and any live report of them over a web address.  Then the
report is saved, and each link in it stands in the cell of one of the rows, for all queries that
matched or for the one in the heading; and it repeats the search for just these if, and only if, it
holds a written form of its own in front of its place, or needs no escape. -/
theorem links_of_live_report {r : Run} {env : Environment} {w : Workspace} {s : Summary}
    (hrun : (r.execute env w).2.2 = .ok s) {text : String} {base : Url}
    (hbase : Url.ofText text = .ok base)
    (hweb : base.scheme = "http".toList ∨ base.scheme = "https".toList) {x y : Writer}
    (hmode : x.options.mode = .live base) {queries : List NamedQuery} {v v' : Workspace}
    {artifact : Artifact} (hwrite : x.write queries s.rows v = (y, v', .ok artifact)) :
    (∀ row ∈ s.rows, row.matched.Pairwise (· < ·) ∧
      ∀ id, id ∈ row.matched ↔ ∃ weight, r.Scored (r.estimate env) (row.fileId, id) weight) ∧
    ∃ sheet, v'.tree.read? x.options.output = some (.sheet sheet) ∧
      ∀ cell ∈ sheet.cells, ∀ link, cell.link = some link →
        ∃ i row ids, s.rows[i]? = some row ∧ cell.row = i + 1 ∧
          row.Asks queries cell.column ids ∧
          (link.Repeats base row.fileId ids ↔
            holdsEscape (cutLocation (liveLink base row.fileId ids).toList).1 = true ∨
              NeedsNoEscape base row.fileId ids) := by
  have hwritten := Url.written_of_ofText hbase
  obtain ⟨-, -, -, -, -, -, htab, -, -⟩ := Run.exists_table_of_execute hrun
  constructor
  · intro row hrow
    refine ⟨List.pairwise_map.2 (htab.ascending row hrow), ?_⟩
    intro id
    rw [SortedRow.matched, List.mem_map]
    constructor
    · rintro ⟨⟨q, weight⟩, hmem, rfl⟩
      exact ⟨weight, (htab.weights row hrow q weight).1 hmem⟩
    · rintro ⟨weight, hscored⟩
      exact ⟨(id, weight), (htab.weights row hrow id weight).2 hscored, rfl⟩
  obtain ⟨w₁, w₂, planned, used, sheet, tree, -, hplan, hlayout, hsave, rfl⟩ :=
    Writer.exists_sheet_of_write hwrite
  have hlive : List.Forall₂ (PlannedRow.Live base)
      (s.rows.take (x.options.shown s.rows.length)) planned := by
    unfold Writer.planRows at hplan
    rw [hmode] at hplan
    cases hplan
    exact live_planLiveRows base queries _ _
  refine ⟨sheet, FileTree.read?_writeFile hsave, ?_⟩
  intro cell hcell link hlink
  obtain ⟨i, p, url, own, hp, hrow, hat, hstored⟩ := linksAt_of_layout hlayout hcell hlink
  obtain ⟨row, htaken, hplanned⟩ := exists_getElem?_of_forall₂ hlive hp
  obtain ⟨ids, hasks, rfl⟩ := hplanned.exists_asks hat
  have hshown : s.rows[i]? = some row := by
    rw [List.getElem?_take] at htaken
    split_ifs at htaken
    exact htaken
  exact ⟨i, row, ids, hshown, hrow, hasks, repeats_iff hwritten hweb hstored⟩

/-- One query, and a base with a pair and a place of its own. -/
theorem links_of_live_report_one_query :
    let script : Script :=
      ⟨[(0, Script.plainDocument "a b")], [(7, [0])], [], [], [], [], [], false⟩
    let queries : List NamedQuery := [⟨7, "one", "a", -1, -1⟩]
    let base : Url := ⟨"http".toList, some ⟨[], none, some (.domain "h".toList), none⟩,
      .segments ["s".toList], some "lang=en".toList, some "top".toList⟩
    let writer : Writer := ⟨.live ⟨"tags.xlsx"⟩ base, script.index, none, false⟩
    let r : Run := ⟨queries, script.index,
      ⟨1, 1000, 1, 10, .inverseRank, .memory, some ⟨"scratch"⟩, 1⟩, writer, false⟩
    let env : Environment :=
      ⟨.started, fun _ _ _ => (⟨[(7, 1)], .complete⟩, [7]), Board.inOrder, none⟩
    let w : Workspace :=
      ⟨⟨[(["work"], .directory), (["work", "scratch"], .directory)], ["work"]⟩, [], .sound⟩
    ∃ s sheet, (r.execute env w).2.2 = .ok s ∧
      Url.ofText "http://h/s?lang=en#top" = .ok base ∧
      (writer.write queries s.rows w).2.1.tree.read? ⟨"tags.xlsx"⟩ = some (.sheet sheet) ∧
      ∀ cell ∈ sheet.cells, ∀ link, cell.link = some link → link.Repeats base "a b" [7] := by
  intro script queries base writer r env w
  have hbase : Url.ofText "http://h/s?lang=en#top" = .ok base := by decide +kernel
  have hrows : (r.execute env w).2.2.toOption.map
      (fun s => s.rows.map (fun row => (row.fileId, row.matched))) = some [("a b", [7])] := by
    decide +kernel
  have hok : (writer.write queries (((r.execute env w).2.2.toOption.map Summary.rows).getD [])
      w).2.2.isOk = true := by
    decide +kernel
  cases hs : (r.execute env w).2.2 with
  | error f =>
    rw [hs] at hrows
    cases hrows
  | ok s =>
    rw [hs] at hrows hok
    have hall : s.rows.map (fun row => (row.fileId, row.matched)) = [("a b", [7])] :=
      Option.some.inj hrows
    change (writer.write queries s.rows w).2.2.isOk = true at hok
    rcases hwrite : writer.write queries s.rows w with ⟨y, v', f | artifact⟩
    · rw [hwrite] at hok
      cases hok
    obtain ⟨-, sheet, hread, hlinks⟩ :=
      links_of_live_report hs hbase (.inl rfl) (x := writer) rfl hwrite
    have hread' : (writer.write queries s.rows w).2.1.tree.read? ⟨"tags.xlsx"⟩ =
        some (.sheet sheet) := by
      rw [hwrite]
      exact hread
    refine ⟨s, sheet, rfl, hbase, hread', ?_⟩
    intro cell hcell link hlink
    obtain ⟨i, row, ids, hrow, -, hasks, hiff⟩ := hlinks cell hcell link hlink
    have hmem : (row.fileId, row.matched) ∈ [("a b", ([7] : List QueryId))] := by
      rw [← hall]
      exact List.mem_map_of_mem (List.mem_of_getElem? hrow)
    obtain ⟨hfile, hmatched⟩ := Prod.mk.inj (List.mem_singleton.1 hmem)
    have hids : ids = [7] := by
      generalize cell.column = column at hasks
      cases hasks with
      | label => exact hmatched
      | weight heading matched =>
        rw [hmatched, List.mem_singleton] at matched
        rw [matched]
    rw [hfile, hids] at hiff
    exact hiff.2 (.inr ⟨by decide +kernel, List.all_eq_true.1 (by decide +kernel), by decide⟩)

/-- **Two queries that match one file.**  The link of the file escapes the comma between their ids,
the sheet escapes the escape, and who follows the link asks for no query that there is. -/
theorem live_link_of_two_queries :
    let script : Script :=
      ⟨[(0, Script.plainDocument "x")], [(1, [0]), (2, [0])], [], [], [], [], [], false⟩
    let queries : List NamedQuery := [⟨1, "one", "a", -1, -1⟩, ⟨2, "two", "b", -1, -1⟩]
    let base : Url := ⟨"http".toList, some ⟨[], none, some (.domain "h".toList), none⟩,
      .segments ["s".toList], none, none⟩
    let writer : Writer := ⟨.live ⟨"tags.xlsx"⟩ base, script.index, none, false⟩
    let r : Run := ⟨queries, script.index,
      ⟨1, 1000, 1, 10, .inverseRank, .memory, some ⟨"scratch"⟩, 1⟩, writer, false⟩
    let env : Environment :=
      ⟨.started, fun _ _ _ => (⟨[(1, 1), (2, 1)], .complete⟩, [1, 2]), Board.inOrder, none⟩
    let w : Workspace :=
      ⟨⟨[(["work"], .directory), (["work", "scratch"], .directory)], ["work"]⟩, [], .sound⟩
    let link : StoredLink := ⟨"http://h/s?file_id=x&query_ids=1%252C2", none⟩
    Url.ofText "http://h/s" = .ok base ∧
      (r.execute env w).2.2.toOption.map
        (fun s => s.rows.map (fun row => (row.fileId, row.matched))) = some [("x", [1, 2])] ∧
      (∃ content, (r.execute env w).2.1.tree.read? ⟨"tags.xlsx"⟩ = some content ∧
        (1, 0, link) ∈ content.links) ∧
      readPairs (queryOf link.followed) =
        [(some "file_id", some "x"), (some "query_ids", some "1%2C2")] ∧
      ¬ link.Repeats base "x" [1, 2] := by
  intro script queries base writer r env w link
  have hsaved : ((r.execute env w).2.1.tree.read? ⟨"tags.xlsx"⟩).any
      (fun content => decide ((1, 0, link) ∈ content.links)) = true := by
    decide +kernel
  obtain ⟨content, hread, hlink⟩ := (Option.any_eq_true _ _).1 hsaved
  exact ⟨by decide +kernel, by decide +kernel, ⟨content, hread, of_decide_eq_true hlink⟩,
    by decide +kernel, by decide +kernel⟩

end Tagging
