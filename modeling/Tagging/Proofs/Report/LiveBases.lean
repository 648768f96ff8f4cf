import Tagging.Proofs.Config.Settings
import Tagging.Proofs.Report.Limits
import Tagging.Proofs.Report.LiveLinks
import Tagging.Proofs.Report.Planning

/-!
# Bases that a live report can be written with

Every URL is taken for the base of live links, but a sheet knows only some schemes.  A live link
begins as its base does; so a live report of rows within the limits of a sheet is written if the
sheet would know its base, and fails at a link otherwise, if there is one.

* `knownLink_liveLink_iff` — **a live link is known** if, and only if, its base is;
* `planLive_cases`, `exists_linksAt_planLiveRows_iff` — **when rows are planned with a link**, one
  row and all of them;
* `SortedRow.IsShort`, `PlannedRow.Shows.isShort` — rows whose texts are short enough;
* `Writer.write_live_cases` — what comes of writing a live report;
* `live_report_within_limits` — **when a live report is written**, for all settings that pass;
* `web_socket_base_refused` — a base that passes, and a report that is not written.
-/

namespace Tagging

/-! ## Links and their base -/

/-- No beginning holds a mark, so that it ends in front of the first one. -/
theorem unmarked_of_mem_linkBeginnings {b : String} (h : b ∈ linkBeginnings) :
    Url.Unmarked b.toList := by
  have hall : (linkBeginnings.all fun b => b.toList.all fun c => !Url.endsPath c) = true := by
    decide
  intro c hc
  simpa using List.all_eq_true.1 (List.all_eq_true.1 hall b h) c hc

/-- **Whether a link is known** is seen from what stands in front of its first mark. -/
theorem knownLink_iff_of_front {url : String} {front rest : List Char}
    (hurl : url.toList = front ++ rest) (hrest : ∀ c ∈ rest.head?, Url.endsPath c = true) :
    KnownLink url ↔ ∃ b ∈ linkBeginnings, b.toList <+: front := by
  unfold KnownLink
  rw [hurl]
  refine exists_congr fun b => and_congr_right fun hb => ⟨fun hbegins => ?_, fun hbegins => ?_⟩
  · rcases List.prefix_or_prefix_of_prefix hbegins (List.prefix_append front rest) with
      hfront | ⟨more, hmore⟩
    · exact hfront
    · -- what the beginning has behind the front would begin with the mark
      cases more with
      | nil => exact ⟨[], by simpa using hmore.symm⟩
      | cons c more =>
        rw [← hmore, List.prefix_append_right_inj] at hbegins
        obtain ⟨last, rfl⟩ := hbegins
        have hmark := hrest c rfl
        have hnone := unmarked_of_mem_linkBeginnings hb c (by rw [← hmore]; simp)
        rw [hnone] at hmark
        cases hmark
  · exact hbegins.trans (List.prefix_append front rest)

/-- Behind its front, a URL ends or goes on with a mark. -/
theorem Url.exists_text_eq (u : Url) :
    ∃ rest, u.text.toList = u.front ++ rest ∧ ∀ c ∈ rest.head?, endsPath c = true := by
  rw [text, String.toList_ofList]
  refine ⟨_, List.append_assoc .., ?_⟩
  cases u.query with
  | some q => simp [endsPath]
  | none => cases u.fragment <;> simp [endsPath]

/-- **A live link is known** if, and only if, its base is. -/
theorem knownLink_liveLink_iff (base : Url) (fileId : String) (ids : List QueryId) :
    KnownLink (liveLink base fileId ids) ↔ KnownLink base.text := by
  have hlink : (liveLink base fileId ids).toList =
      base.front ++ '?' :: (liveQuery base fileId ids ++ anchorText base.fragment) := by
    rw [toList_liveLink, List.append_assoc, List.cons_append]
  obtain ⟨rest, hbase, hrest⟩ := base.exists_text_eq
  rw [knownLink_iff_of_front hlink (by simp [Url.endsPath]), knownLink_iff_of_front hbase hrest]

/-! ## Rows with links -/

section Rows

variable {base : Url} {queries : List NamedQuery} {r : SortedRow} {budget : LinkBudget}

/-- The links of a row that fit: that of the row, and those of its weights. -/
theorem some_mem_liveLinks_iff {url : String} : some url ∈ r.liveLinks base queries ↔
    fitting (liveLink base r.fileId r.matched) = some url ∨
      ∃ q ∈ matchedQueries queries r, fitting (liveLink base r.fileId [q.id]) = some url := by
  rw [SortedRow.liveLinks, some_mem_columns_iff, SortedRow.weightLinks]
  refine or_congr_right ?_
  simp only [List.mem_map, matchedQueries, List.mem_filter]
  constructor
  · rintro ⟨q, hq, hlink⟩
    split_ifs at hlink with hweight
    exact ⟨q, ⟨hq, hweight⟩, hlink⟩
  · rintro ⟨q, ⟨hq, hweight⟩, hlink⟩
    exact ⟨q, hq, by rw [if_pos hweight, hlink]⟩

/-- **A link that fits** is a live link of its row, and not too long. -/
theorem exists_liveLink_of_mem {url : String} (h : some url ∈ r.liveLinks base queries) :
    ∃ ids, liveLink base r.fileId ids = url ∧ url.length ≤ maxLinkLength := by
  rcases some_mem_liveLinks_iff.1 h with hfit | ⟨q, -, hfit⟩
  all_goals
    obtain ⟨hlength, rfl⟩ := fitting_eq_some_iff.1 hfit
    exact ⟨_, rfl, hlength⟩

/-- Of the links of a row, a sheet knows as much as of their base. -/
theorem knownLink_iff_of_mem_liveLinks {url : String} (h : some url ∈ r.liveLinks base queries) :
    KnownLink url ↔ KnownLink base.text := by
  obtain ⟨ids, rfl, -⟩ := exists_liveLink_of_mem h
  exact knownLink_liveLink_iff base r.fileId ids

/-- **A link of a planned row** is one of the links of the row that fit. -/
theorem some_mem_liveLinks_of_linksAt {column : Nat} {url : String}
    (hat : (planLive base queries r budget).1.LinksAt queries column url) :
    some url ∈ r.liveLinks base queries := by
  rw [some_mem_liveLinks_iff]
  have hshows := shows_planLive base queries r budget
  unfold planLive at hat hshows
  dsimp only at hat hshows
  cases hat with
  | label link =>
    rcases takeFor?_cases budget (liveLink base r.fileId r.matched) with
      ⟨htake, -, hfit⟩ | ⟨htake, -, -⟩
    · rw [htake] at link
      cases link
      exact .inl hfit
    · rw [htake] at link
      cases link
  | @weight j q weight url heading weighed link =>
    have hmem := fitting_of_mem_planCellLinks base (mem_of_lookup_eq_some link)
    refine .inr ⟨q, List.mem_filter.2 ⟨List.mem_of_getElem? heading, ?_⟩, hmem⟩
    exact Option.isSome_iff_exists.2 ⟨weight, weighed⟩

/-- **One row** has a link if one fits and there is one to take; otherwise the budget is what it
was. -/
theorem planLive_cases (base : Url) (queries : List NamedQuery) (r : SortedRow)
    (budget : LinkBudget) :
    ((∀ column url, ¬ (planLive base queries r budget).1.LinksAt queries column url) ∧
      (planLive base queries r budget).2 = budget ∧
      (budget.remaining ≠ 0 → ∀ url, some url ∉ r.liveLinks base queries)) ∨
    ((∃ column url, (planLive base queries r budget).1.LinksAt queries column url) ∧
      budget.remaining ≠ 0) := by
  unfold planLive
  dsimp only
  rcases takeFor?_cases budget (liveLink base r.fileId r.matched) with
    ⟨htake, hsome, -⟩ | ⟨htake, hnone, -⟩
  · rw [htake]
    exact .inr ⟨⟨0, _, .label rfl⟩, hsome⟩
  rw [htake]
  dsimp only
  rcases planCellLinks_cases base r.fileId budget (matchedQueries queries r) with
    ⟨heq, hnothing⟩ | ⟨hlinks, hsome⟩
  · rw [heq]
    refine .inl ⟨fun column url hat => ?_, rfl, fun hsome url hmem => ?_⟩
    · cases hat with
      | label link => cases link
      | weight heading weighed link => cases link
    · rw [if_neg hsome] at hnone
      rcases some_mem_liveLinks_iff.1 hmem with hfit | ⟨q, hq, hfit⟩
      · rw [hnone] at hfit
        cases hfit
      · rw [hnothing hsome q hq] at hfit
        cases hfit
  · obtain ⟨⟨id, url⟩, hmem⟩ := List.exists_mem_of_ne_nil _ hlinks
    have hid := mem_of_mem_planCellLinks base (List.mem_map_of_mem (f := Prod.fst) hmem)
    obtain ⟨q, hq, rfl⟩ := List.mem_map.1 hid
    obtain ⟨hquery, hweight⟩ := List.mem_filter.1 hq
    obtain ⟨weight, hweighed⟩ := Option.isSome_iff_exists.1 hweight
    obtain ⟨j, hj⟩ := List.mem_iff_getElem?.1 hquery
    -- some link is found under the id, be it this one or an earlier one
    cases hfound : ((planCellLinks base r.fileId budget (matchedQueries queries r)).1).lookup q.id
      with
    | none => exact absurd (List.lookup_eq_none_iff.1 hfound _ hmem) (by simp)
    | some found => exact .inr ⟨⟨j + 2, found, .weight hj hweighed hfound⟩, hsome⟩

/-- **A row of a live report** is planned with a link if one of its links fits and any may be
written. -/
theorem exists_linksAt_planLiveRows_iff {rows : List SortedRow} :
    (∃ p ∈ (planLiveRows base queries budget rows).1, ∃ column url,
      p.LinksAt queries column url) ↔
    budget.remaining ≠ 0 ∧ ∃ r ∈ rows, ∃ url, some url ∈ r.liveLinks base queries := by
  induction rows generalizing budget with
  | nil => simp [planLiveRows]
  | cons r rest ih =>
    simp only [planLiveRows, List.mem_cons, exists_eq_or_imp, ih]
    rcases planLive_cases base queries r budget with ⟨hnone, hsame, hoffers⟩ | ⟨hat, hsome⟩
    · rw [hsame]
      constructor
      · rintro (⟨column, url, hat⟩ | ⟨hsome, hrest⟩)
        · exact absurd hat (hnone column url)
        · exact ⟨hsome, .inr hrest⟩
      · rintro ⟨hsome, ⟨url, hmem⟩ | hrest⟩
        · exact absurd hmem (hoffers hsome url)
        · exact .inr ⟨hsome, hrest⟩
    · obtain ⟨column, url, hlink⟩ := hat
      exact iff_of_true (.inl ⟨column, url, hlink⟩)
        ⟨hsome, .inl ⟨url, some_mem_liveLinks_of_linksAt hlink⟩⟩

/-- The planned rows are the rows with links that fit. -/
theorem planLiveRows_offered (base : Url) (queries : List NamedQuery) (budget : LinkBudget)
    (rows : List SortedRow) :
    List.Forall₂ (fun r p => p.Shows r ∧ ∀ column url, p.LinksAt queries column url →
      some url ∈ r.liveLinks base queries) rows (planLiveRows base queries budget rows).1 := by
  induction rows generalizing budget with
  | nil => exact .nil
  | cons r rest ih =>
    exact .cons ⟨shows_planLive base queries r budget,
      fun _ _ hat => some_mem_liveLinks_of_linksAt hat⟩ (ih _)

end Rows

/-! ## Limits of rows -/

/-- The texts of a row are short enough for a sheet. -/
structure SortedRow.IsShort (r : SortedRow) : Prop where
  /-- The id of its file. -/
  fileId : r.fileId.length ≤ maxTextLength
  /-- The name that is shown. -/
  displayName : r.displayName.length ≤ maxTextLength
  /-- Its path. -/
  path : r.relativePath.length ≤ maxTextLength

/-- Such a row is short when it is planned. -/
theorem PlannedRow.Shows.isShort {base : Url} {queries : List NamedQuery} {r : SortedRow}
    {p : PlannedRow} (hshows : p.Shows r) (hshort : r.IsShort)
    (hlinks : ∀ column url, p.LinksAt queries column url → some url ∈ r.liveLinks base queries) :
    p.IsShort queries := by
  have hlimit : maxLinkLength ≤ maxTextLength := by decide
  refine ⟨?_, ?_, fun column url hat => ?_⟩
  · rw [hshows]
    show (PlannedRow.ofRow r).label.length ≤ maxTextLength
    unfold PlannedRow.label
    split_ifs
    · exact hshort.fileId
    · exact hshort.displayName
  · rw [hshows]
    exact hshort.path
  · obtain ⟨-, -, hlength⟩ := exists_liveLink_of_mem (hlinks column url hat)
    exact Nat.le_trans hlength hlimit

theorem Sheet.HasRoom.mono {queries : List NamedQuery} {m n : Nat} (h : Sheet.HasRoom queries n)
    (hle : m ≤ n) : Sheet.HasRoom queries m :=
  ⟨h.columns, Nat.le_trans (Nat.succ_le_succ hle) h.rows, h.names⟩

/-! ## Writing a live report -/

namespace Writer

variable {x : Writer} {base : Url} {queries : List NamedQuery} {rows : List SortedRow}
  {w : Workspace}

/-- The rows of a live report. -/
def livePlan (x : Writer) (base : Url) (queries : List NamedQuery) (rows : List SortedRow) :
    List PlannedRow :=
  (planLiveRows base queries (.ofCap x.options.maxHyperlinks)
    (rows.take (x.options.shown rows.length))).1

/-- **A live report is written** if its sheet is laid out and can be put in its place. -/
theorem exists_artifact_of_live (hunused : x.isUsed = false) (hmode : x.options.mode = .live base)
    {sheet : Sheet} (hlayout : layout queries (x.livePlan base queries rows) = .ok sheet)
    {tree : FileTree Content}
    (hsave : w.tree.writeOn w.disk x.options.output (.sheet sheet) = (tree, .ok ())) :
    ∃ artifact, (x.write queries rows w).2.2 = .ok artifact := by
  unfold livePlan at hlayout
  unfold write emit prepareDirectory planRows save
  simp only [hunused, ReportOptions.snapshotDirectory?, hmode, hlayout, hsave]
  exact ⟨_, rfl⟩

/-- A fault of its sheet is a failure of the report. -/
theorem error_of_live (hunused : x.isUsed = false) (hmode : x.options.mode = .live base)
    {f : SheetFault} (hlayout : layout queries (x.livePlan base queries rows) = .error f) :
    (x.write queries rows w).2.2 = .error (.report (.sheet f)) := by
  unfold livePlan at hlayout
  unfold write emit prepareDirectory planRows save
  simp only [hunused, ReportOptions.snapshotDirectory?, hmode, hlayout]
  rfl

/-- A link of the report is one of a row that is shown. -/
theorem exists_row_of_livePlan {p : PlannedRow} (hp : p ∈ x.livePlan base queries rows) :
    ∃ r ∈ rows.take (x.options.shown rows.length), p.Shows r ∧
      ∀ column url, p.LinksAt queries column url → some url ∈ r.liveLinks base queries :=
  exists_mem_of_forall₂ (planLiveRows_offered base queries _ _).flip p hp

/-- The rows of a live report have links if any may be written and a row that is shown has one that
fits. -/
theorem exists_linksAt_livePlan_iff :
    (∃ p ∈ x.livePlan base queries rows, ∃ column url, p.LinksAt queries column url) ↔
      x.options.maxHyperlinks ≠ 0 ∧ ∃ r ∈ rows.take (x.options.shown rows.length),
        ∃ url, some url ∈ r.liveLinks base queries :=
  exists_linksAt_planLiveRows_iff

/-- The rows of a live report are within the limits of a sheet if all rows are. -/
theorem layout_livePlan_cases (hroom : Sheet.HasRoom queries rows.length)
    (hshort : ∀ r ∈ rows, r.IsShort) :
    ((∃ sheet, layout queries (x.livePlan base queries rows) = .ok sheet) ∧
      ∀ p ∈ x.livePlan base queries rows, ∀ column url, p.LinksAt queries column url →
        KnownLink url) ∨
    ∃ p ∈ x.livePlan base queries rows, ∃ column url, p.LinksAt queries column url ∧
      ¬ KnownLink url ∧
      layout queries (x.livePlan base queries rows) = .error (.unsupportedLink url) := by
  have hcount : (x.livePlan base queries rows).length ≤ rows.length := by
    rw [livePlan, ← (planLiveRows_offered base queries _ _).length_eq]
    exact List.length_take_le' ..
  refine layout_cases (hroom.mono hcount) fun p hp => ?_
  obtain ⟨r, hr, hshows, hlinks⟩ := exists_row_of_livePlan hp
  exact hshows.isShort (hshort r (List.mem_of_mem_take hr)) hlinks

/-- **What comes of a live report** within the limits of a sheet: it is written if the sheet knows
its base or there is no link to write; otherwise it fails at a link. -/
theorem write_live_cases (hunused : x.isUsed = false) (hmode : x.options.mode = .live base)
    (hroom : Sheet.HasRoom queries rows.length) (hshort : ∀ r ∈ rows, r.IsShort)
    (hdevice : ∀ content, w.disk.stops w.tree x.options.output content = none)
    {content : Content} {tree : FileTree Content}
    (hwritable : w.tree.writeFile x.options.output content = .ok tree) :
    ((∃ artifact, (x.write queries rows w).2.2 = .ok artifact) ∧
      (KnownLink base.text ∨ x.options.maxHyperlinks = 0 ∨
        ∀ r ∈ rows.take (x.options.shown rows.length), ∀ url,
          some url ∉ r.liveLinks base queries)) ∨
    ((∃ r ∈ rows.take (x.options.shown rows.length), ∃ url,
      some url ∈ r.liveLinks base queries ∧ ¬ KnownLink url ∧
        (x.write queries rows w).2.2 = .error (.report (.sheet (.unsupportedLink url)))) ∧
      ¬ KnownLink base.text ∧ x.options.maxHyperlinks ≠ 0) := by
  rcases layout_livePlan_cases hroom hshort with
    ⟨⟨sheet, hlayout⟩, hall⟩ | ⟨p, hp, column, url, hat, hunknown, hlayout⟩
  · obtain ⟨tree', hsave⟩ := FileTree.exists_writeFile hwritable (.sheet sheet)
    have hsave := FileTree.writeOn_eq_ok.2 ⟨hdevice (.sheet sheet), hsave⟩
    refine .inl ⟨exists_artifact_of_live hunused hmode hlayout hsave, ?_⟩
    by_contra hneither
    push Not at hneither
    obtain ⟨hbase, hlinks⟩ := hneither
    -- there is a link then, and the sheet knows it as little as its base
    obtain ⟨p, hp, column, url, hat⟩ := exists_linksAt_livePlan_iff.2 hlinks
    obtain ⟨r, -, -, hoffered⟩ := exists_row_of_livePlan hp
    exact hbase ((knownLink_iff_of_mem_liveLinks (hoffered column url hat)).1
      (hall p hp column url hat))
  · obtain ⟨hsome, -⟩ := exists_linksAt_livePlan_iff.1 ⟨p, hp, column, url, hat⟩
    obtain ⟨r, hr, -, hoffered⟩ := exists_row_of_livePlan hp
    have hmem := hoffered column url hat
    exact .inr ⟨⟨r, hr, url, hmem, hunknown, error_of_live hunused hmode hlayout⟩,
      fun hbase => hunknown ((knownLink_iff_of_mem_liveLinks hmem).2 hbase), hsome⟩

end Writer

/-! ## Settings of a live report -/

/-- Options that are made of settings in live mode are those of a live report. -/
theorem ReportSettings.exists_live_of_ofSettings {s : ReportSettings} {o : ReportOptions}
    (hlive : s.mode = "live") (ho : ReportOptions.ofSettings s = .ok o) :
    ∃ base, o.mode = .live base ∧ Url.ofText s.liveBaseUrl = .ok base := by
  obtain ⟨hmode, -⟩ := ofSettings_eq_ok_iff.1 ho
  cases hmade : o.mode with
  | live base =>
    rw [hmade] at hmode
    exact ⟨base, rfl, (modeOfSettings_eq_live_iff.1 hmode).2⟩
  | static suffix =>
    rw [hmade] at hmode
    exact absurd (hlive.symm.trans (modeOfSettings_eq_static_iff.1 hmode).1) (by decide)

/-- **When a live report is written.**  Take the settings of a live report from a file that is
accepted, options that are made of them, and queries and rows within the limits of a sheet, with an
output that can be written: its path allows it, and the device does not stop.  There is a base then
and a writer.  The report is written if, and only if, the base begins as a link that the sheet
knows, or there is no link to write: none is allowed, or none of the rows that are shown fits one.
Otherwise it fails at a link of one of these rows that the sheet does not know. -/
theorem live_report_within_limits {path : Path} {text : Option String} {s : Settings}
    {o : ReportOptions} (hload : Settings.load path text = .ok s) (hlive : s.report.mode = "live")
    (hoptions : ReportOptions.ofSettings s.report = .ok o) {queries : List NamedQuery}
    {rows : List SortedRow} (hroom : Sheet.HasRoom queries rows.length)
    (hshort : ∀ r ∈ rows, r.IsShort) {w : Workspace}
    (hwritable : ∃ content tree, w.tree.writeFile o.output content = .ok tree)
    (hdevice : ∀ content, w.disk.stops w.tree o.output content = none)
    (index : SearchIndex) (given : Option Renderer) :
    ∃ base x, Url.ofText s.report.liveBaseUrl = .ok base ∧ o.mode = .live base ∧
      Writer.new o index given = .ok x ∧
      ((∃ artifact, (x.write queries rows w).2.2 = .ok artifact) ↔
        KnownLink base.text ∨ o.maxHyperlinks = 0 ∨
          ∀ r ∈ rows.take (o.shown rows.length), ∀ url, some url ∉ r.liveLinks base queries) ∧
      ∀ e, (x.write queries rows w).2.2 = .error e →
        ∃ r ∈ rows.take (o.shown rows.length), ∃ url, some url ∈ r.liveLinks base queries ∧
          ¬ KnownLink url ∧ e = .report (.sheet (.unsupportedLink url)) := by
  obtain ⟨content, tree, hwritable⟩ := hwritable
  obtain ⟨hvalid, -⟩ := Settings.load_eq_ok hload
  rw [Settings.fault?_eq, Option.or_eq_none_iff] at hvalid
  obtain ⟨name, hname⟩ := (ReportSettings.fault?_eq_none_iff.1 hvalid.2).exists_fileName?
  obtain ⟨base, hmode, hbase⟩ := ReportSettings.exists_live_of_ofSettings hlive hoptions
  obtain ⟨-, ho⟩ := ReportSettings.ofSettings_eq_ok_iff.1 hoptions
  have hnamed : o.output.fileName? = some name := by
    rw [ho]
    exact hname
  have hnew : Writer.new o index given = .ok ⟨o, index, given, false⟩ :=
    Writer.new_eq_ok.2 ⟨rfl, ⟨name, hnamed⟩, fun suffix hstatic => by
      rw [hmode] at hstatic
      cases hstatic⟩
  refine ⟨base, ⟨o, index, given, false⟩, hbase, hmode, hnew, ?_⟩
  rcases Writer.write_live_cases (x := ⟨o, index, given, false⟩) rfl hmode hroom hshort hdevice
    hwritable with ⟨⟨artifact, hwrite⟩, hgood⟩ | ⟨⟨r, hr, url, hmem, hunknown, hwrite⟩, hbad, hsome⟩
  · rw [hwrite]
    exact ⟨iff_of_true ⟨artifact, rfl⟩ hgood, nofun⟩
  · rw [hwrite]
    refine ⟨iff_of_false nofun ?_, ?_⟩
    · rintro (hknown | hnone | hlinks)
      · exact hbad hknown
      · exact hsome hnone
      · exact hlinks r hr url hmem
    · rintro e ⟨⟩
      exact ⟨r, hr, url, hmem, hunknown, rfl⟩

/-- The text of settings of a live report with a base. -/
def Settings.liveText (base : String) : String :=
  "[service]\nlog_level = \"info\"\n[estimator]\nmax_threads = 4\nmax_seconds = 30\n" ++
    "[aggregator]\nnormalization = \"one\"\n[report]\nmode = \"live\"\noutput = \"tags.xlsx\"\n" ++
    "live_base_url = \"" ++ base ++ "\"\n"

/-- A base in capitals, and a row with two links. -/
theorem live_report_within_limits_capitals :
    let text := Settings.liveText "HTTPS://H/s"
    let index : SearchIndex := Script.index ⟨[], [], [], [], [], [], [], false⟩
    let queries : List NamedQuery := [⟨1, "Q1", "q1", -1, -1⟩]
    let rows : List SortedRow := [⟨"f0", 1, "f0.txt", "docs/f0.txt", some 0, [(1, 1)]⟩]
    let w : Workspace := ⟨⟨[(["work"], .directory)], ["work"]⟩, [], .sound⟩
    ∃ s o x artifact, Settings.load ⟨"rtag.toml"⟩ (some text) = .ok s ∧
      s.report.mode = "live" ∧ ReportOptions.ofSettings s.report = .ok o ∧
      Writer.new o index none = .ok x ∧ (x.write queries rows w).2.2 = .ok artifact := by
  intro text index queries rows w
  let base : Url := ⟨"https".toList, some ⟨[], none, some (.domain "h".toList), none⟩,
    .segments ["s".toList], none, none⟩
  let report : ReportSettings :=
    ⟨"live", ⟨"tags.xlsx"⟩, none, Settings.defaultMaxHyperlinks, "HTTPS://H/s", ".html"⟩
  have hloaded : (Settings.load ⟨"rtag.toml"⟩ (some text)).toOption.map Settings.report =
      some report := by
    decide +kernel
  have hbase : Url.ofText "HTTPS://H/s" = .ok base := by decide +kernel
  have hwritable : (w.tree.writeFile ⟨"tags.xlsx"⟩ (.text "")).isOk = true := by decide +kernel
  have hknown : KnownLink base.text := by decide +kernel
  rcases hload : Settings.load ⟨"rtag.toml"⟩ (some text) with e | s
  · rw [hload] at hloaded
    cases hloaded
  rcases htree : w.tree.writeFile ⟨"tags.xlsx"⟩ (.text "") with e | tree
  · rw [htree] at hwritable
    cases hwritable
  rw [hload] at hloaded
  have hreport : s.report = report := Option.some.inj hloaded
  have hlive : s.report.mode = "live" := by rw [hreport]
  have hoptions : ReportOptions.ofSettings s.report =
      .ok ⟨⟨"tags.xlsx"⟩, .live base, none, Settings.defaultMaxHyperlinks⟩ := by
    rw [hreport, ReportSettings.ofSettings_eq_ok_iff]
    exact ⟨ReportSettings.modeOfSettings_eq_live_iff.2 ⟨rfl, hbase⟩, rfl⟩
  have hroom : Sheet.HasRoom queries rows.length := ⟨by decide, by decide, by decide⟩
  have hshort : ∀ r ∈ rows, r.IsShort :=
    List.forall_mem_singleton.2 ⟨by decide, by decide, by decide⟩
  obtain ⟨base', x, hbase', -, hnew, hwritten, -⟩ :=
    live_report_within_limits hload hlive hoptions hroom hshort ⟨_, tree, htree⟩
      (fun _ => rfl) index none
  obtain rfl : base' = base := by
    rw [hreport] at hbase'
    exact Except.ok.inj (hbase'.symm.trans hbase)
  obtain ⟨artifact, hwrite⟩ := hwritten.2 (.inl hknown)
  exact ⟨s, _, x, artifact, rfl, hlive, hoptions, hnew, hwrite⟩

/-- **A base that passes, and a report that is not written**: the base is a URL, and the sheet has
room for all, but knows no such links. -/
theorem web_socket_base_refused :
    let index : SearchIndex := Script.index ⟨[], [], [], [], [], [], [], false⟩
    let queries : List NamedQuery := [⟨1, "Q1", "q1", -1, -1⟩]
    let rows : List SortedRow := [⟨"f0", 1, "f0.txt", "docs/f0.txt", some 0, [(1, 1)]⟩]
    let w : Workspace := ⟨⟨[(["work"], .directory)], ["work"]⟩, [], .sound⟩
    ∃ s o x, Settings.load ⟨"rtag.toml"⟩ (some (Settings.liveText "ws://h/s")) = .ok s ∧
      s.report.mode = "live" ∧ ReportOptions.ofSettings s.report = .ok o ∧
      Sheet.HasRoom queries rows.length ∧ (∀ r ∈ rows, r.IsShort) ∧
      (w.tree.writeFile o.output (.text "")).isOk = true ∧
      Writer.new o index none = .ok x ∧ (x.write queries rows w).2.2 =
        .error (.report (.sheet (.unsupportedLink "ws://h/s?file_id=f0&query_ids=1"))) := by
  intro index queries rows w
  let base : Url := ⟨"ws".toList, some ⟨[], none, some (.domain "h".toList), none⟩,
    .segments ["s".toList], none, none⟩
  let report : ReportSettings :=
    ⟨"live", ⟨"tags.xlsx"⟩, none, Settings.defaultMaxHyperlinks, "ws://h/s", ".html"⟩
  let options : ReportOptions := ⟨⟨"tags.xlsx"⟩, .live base, none, Settings.defaultMaxHyperlinks⟩
  have hloaded : (Settings.load ⟨"rtag.toml"⟩ (some (Settings.liveText "ws://h/s"))).toOption.map
      Settings.report = some report := by
    decide +kernel
  have hoptions : ReportOptions.ofSettings report = .ok options := by decide +kernel
  have hname : options.output.fileName? = some "tags.xlsx" := by decide +kernel
  rcases hload : Settings.load ⟨"rtag.toml"⟩ (some (Settings.liveText "ws://h/s")) with e | s
  · rw [hload] at hloaded
    cases hloaded
  rw [hload] at hloaded
  have hreport : s.report = report := Option.some.inj hloaded
  have hnew : Writer.new options index none = .ok ⟨options, index, none, false⟩ :=
    Writer.new_eq_ok.2 ⟨rfl, ⟨_, hname⟩, fun _ hmode => nomatch hmode⟩
  have hshort : ∀ r ∈ rows, r.IsShort :=
    List.forall_mem_singleton.2 ⟨by decide, by decide, by decide⟩
  exact ⟨s, options, _, rfl, by rw [hreport], by rw [hreport, hoptions],
    ⟨by decide, by decide, by decide⟩, hshort, by decide +kernel, hnew, by decide +kernel⟩

end Tagging
