import Tagging.Proofs.Report.FollowedLinks
import Tagging.Proofs.Report.SnapshotFiles

/-!
# Links that lead through the snapshot directory

The directory of the snapshots is named after the report, and this name goes into each link as it
is.  So the link leads through the directory only if the name survives what a sheet does to a link
and what a reader undoes.

* `byteCount_le_of_isInfix`, `eq_of_isInfix` — parts of a text, told by their bytes;
* `ReadsBack`, `readsBack_of_isInfix` — **the names that are read from a link as they were**;
* `StoredLink.directory?`, `directory?_of_snapshotLink` — the directory that a link leads through;
* `directory_of_snapshot_links` — **which links of a static report lead through its snapshot
  directory**;
* `number_sign_cuts_directory` — a link that does not.
-/

namespace Tagging

open Tagging.Path (Ordinary)

/-! ## Parts of a text -/

section Bytes

variable {cs ds : List Char}

theorem byteCount_le_of_isInfix (h : cs <:+: ds) : byteCount cs ≤ byteCount ds := by
  obtain ⟨front, back, rfl⟩ := h
  rw [byteCount_append, byteCount_append]
  omega

/-- A part with all the bytes is the whole. -/
theorem eq_of_isInfix (h : cs <:+: ds) (hbytes : byteCount ds ≤ byteCount cs) : cs = ds := by
  obtain ⟨front, back, rfl⟩ := h
  rw [byteCount_append, byteCount_append] at hbytes
  have hfront : front = [] := by
    by_contra hne
    have hpos := byteCount_pos hne
    omega
  have hback : back = [] := by
    by_contra hne
    have hpos := byteCount_pos hne
    omega
  rw [hfront, hback, List.nil_append, List.append_nil]

/-- A tab has one byte, and so has a blank. -/
theorem byteCount_map_blankForTab (cs : List Char) :
    byteCount (cs.map blankForTab) = byteCount cs := by
  have hsize : ∀ c, (blankForTab c).utf8Size = c.utf8Size := by
    intro c
    unfold blankForTab
    split_ifs with h
    · rw [isTab, Bool.or_eq_true, decide_eq_true_iff, decide_eq_true_iff] at h
      rcases h with rfl | rfl <;> rfl
    · rfl
  induction cs with
  | nil => rfl
  | cons c cs ih => rw [List.map_cons, byteCount_cons, byteCount_cons, hsize, ih]

theorem percentText?_of_notMem (h : '%' ∉ cs) : percentText? cs = some (String.ofList cs) := by
  have hplain : Url.percentDecode cs = cs.flatMap String.utf8EncodeChar := by
    induction cs with
    | nil => rw [Url.percentDecode, List.flatMap_nil]
    | cons c cs ih =>
      rw [List.mem_cons, not_or] at h
      rw [Url.percentDecode_cons_of_ne (Ne.symm h.1), ih h.2, List.flatMap_cons]
  rw [percentText?, hplain, Url.fromUTF8?_flatMap_utf8EncodeChar]

end Bytes

/-! ## Names that are read from a link -/

/-- What stands in front of the first number sign. -/
def beforePlace (cs : List Char) : List Char := cs.takeWhile fun c => c ≠ '#'

/-- The name that is read from a segment of a link, which the sheet has kept as it was or written
out. -/
def readSegment (kept : Bool) (cs : List Char) : Option String :=
  percentText? (if kept then cs.map blankForTab else (writeOut cs).map blankForTab)

/-- A name that is read from a link as it was. -/
structure ReadsBack (name : String) (kept : Bool) : Prop where
  /-- No part of it is taken for a place. -/
  noPlace : '#' ∉ name.toList
  /-- Nothing in it is read as a blank. -/
  tabless : Tabless name
  /-- If it is kept as it was, it holds no escape. -/
  noEscape : kept = true → percentText? name.toList = some name

section Names

variable {name text : String} {kept : Bool}

theorem beforePlace_of_notMem {cs : List Char} (h : '#' ∉ cs) : beforePlace cs = cs :=
  List.takeWhile_eq_self_iff.2 (Url.decide_ne_of_not_mem h)

/-- What stands behind a number sign does not matter. -/
theorem beforePlace_append_of_mem {cs : List Char} (h : '#' ∈ cs) (rest : List Char) :
    beforePlace (cs ++ rest) = beforePlace cs := by
  obtain ⟨front, back, rfl, hfront⟩ := List.eq_append_cons_of_mem h
  have hcut (more : List Char) : beforePlace (front ++ '#' :: more) = front := by
    rw [beforePlace, List.takeWhile_append_of_pos (Url.decide_ne_of_not_mem hfront)]
    simp
  rw [List.append_assoc, List.cons_append, hcut, hcut]

/-- Nothing is hidden in a name that holds none of the signs of a link. -/
theorem ReadsBack.of_notMem (hplace : '#' ∉ name.toList) (hescape : '%' ∉ name.toList)
    (htabless : Tabless name) (kept : Bool) : ReadsBack name kept :=
  ⟨hplace, htabless, fun _ => by rw [percentText?_of_notMem hescape, String.ofList_toList]⟩

/-- What is read from a segment is the segment, tabs apart, or shorter. -/
theorem readSegment_cases {cs : List Char} (h : readSegment kept cs = some text) :
    text.toList = cs.map blankForTab ∨ kept = true ∧ byteCount text.toList < byteCount cs := by
  cases kept with
  | false =>
    rw [readSegment, if_neg Bool.false_ne_true, percentText?_writeOut, Option.some.injEq] at h
    rw [← h, String.toList_ofList]
    exact .inl rfl
  | true =>
    rw [readSegment, if_pos rfl] at h
    rw [← byteCount_map_blankForTab cs]
    exact (percentText?_cases h).imp id fun hless => ⟨rfl, hless⟩

/-- **A name that is read back** is read from a link as it was. -/
theorem ReadsBack.readSegment_eq (h : ReadsBack name kept) :
    readSegment kept (beforePlace name.toList) = some name := by
  have htabs : name.toList.map blankForTab = name.toList := map_blankForTab_eq_self.2 h.tabless
  rw [beforePlace_of_notMem h.noPlace]
  cases kept with
  | false =>
    rw [readSegment, if_neg Bool.false_ne_true, percentText?_writeOut, htabs, String.ofList_toList]
  | true => rw [readSegment, if_pos rfl, htabs, h.noEscape rfl]

/-- **No other name is found** in what is read from a link: it has not the bytes. -/
theorem readsBack_of_isInfix (hread : readSegment kept (beforePlace name.toList) = some text)
    (hfound : name.toList <:+: text.toList) : ReadsBack name kept ∧ text = name := by
  have hfront : beforePlace name.toList <:+: name.toList := (List.takeWhile_prefix _).isInfix
  have hless := byteCount_le_of_isInfix hfront
  have hmore := byteCount_le_of_isInfix hfound
  have hsame : text.toList = (beforePlace name.toList).map blankForTab := by
    rcases readSegment_cases hread with hsame | ⟨-, hshorter⟩
    · exact hsame
    · omega
  rw [hsame, byteCount_map_blankForTab] at hmore
  have hwhole : beforePlace name.toList = name.toList := eq_of_isInfix hfront hmore
  rw [hwhole] at hsame hread
  have htext : text = name := by
    rw [hsame] at hfound
    rw [← String.toList_inj, hsame, ← hfound.eq_of_length (by rw [List.length_map])]
  subst htext
  refine ⟨⟨?_, map_blankForTab_eq_self.1 hsame.symm, ?_⟩, rfl⟩
  · intro hmem
    rw [← hwhole] at hmem
    simpa using List.mem_takeWhile_imp hmem
  · rintro rfl
    rwa [readSegment, if_pos rfl, ← hsame] at hread

end Names

/-! ## The directory of a link -/

theorem firstSegment_map_blankForTab (cs : List Char) :
    firstSegment (cs.map blankForTab) = (firstSegment cs).map blankForTab := by
  have hsame : (fun c => decide (c ≠ '/')) ∘ blankForTab = fun c => decide (c ≠ '/') := by
    funext c
    simp only [Function.comp_apply, ne_eq, blankForTab_eq_iff (d := '/') (by decide) rfl]
  rw [firstSegment, List.takeWhile_map, hsame]
  rfl

/-- The first segment of a link is read from the first segment of the text before its place. -/
theorem percentText?_firstSegment (front : List Char) :
    percentText? (firstSegment ((escapeLink front).map blankForTab)) =
      readSegment (holdsEscape front) (firstSegment front) := by
  rw [escapeLink_eq, readSegment]
  split_ifs
  · rw [firstSegment_map_blankForTab]
  · rw [firstSegment_read]

theorem firstSegment_beforePlace (cs : List Char) :
    firstSegment (beforePlace cs) = beforePlace (firstSegment cs) := by
  rw [firstSegment, beforePlace, beforePlace, firstSegment, List.takeWhile_takeWhile,
    List.takeWhile_takeWhile]
  simp only [and_comm]

theorem length_le_length_writeOut (cs : List Char) : cs.length ≤ (writeOut cs).length := by
  induction cs with
  | nil => exact Nat.le_refl _
  | cons c cs ih =>
    have hpos := List.length_pos_of_ne_nil (writeOutChar_ne_nil c)
    rw [writeOut_cons, List.length_append, List.length_cons]
    omega

theorem length_firstSegment_escapeLink (cs : List Char) :
    (firstSegment cs).length ≤ (firstSegment ((escapeLink cs).map blankForTab)).length := by
  rw [escapeLink_eq]
  split_ifs
  · rw [firstSegment_map_blankForTab, List.length_map]
  · rw [firstSegment_read, List.length_map]
    exact length_le_length_writeOut _

theorem slash_not_mem_escapeLink {cs : List Char} (h : '/' ∉ cs) :
    '/' ∉ (escapeLink cs).map blankForTab := by
  rw [escapeLink_eq]
  split_ifs
  · intro hmem
    obtain ⟨c, hc, heq⟩ := List.mem_map.1 hmem
    rw [blankForTab_eq_iff (by decide) rfl] at heq
    exact h (heq ▸ hc)
  · exact staysInPlace_slash.not_mem_read (by decide) rfl h

theorem escapeLink_append {cs : List Char} (hescape : '%' ∉ cs) (hplain : writeOut cs = cs)
    (rest : List Char) : escapeLink (cs ++ rest) = cs ++ escapeLink rest := by
  rw [escapeLink_eq, escapeLink_eq, holdsEscape_append_of_notMem hescape, writeOut_append, hplain]
  split_ifs <;> rfl

/-- The directory that the link to a snapshot leads through: its first segment, from the root if the
link is none from the directory of the sheet. -/
def StoredLink.directory? (l : StoredLink) : Option Path :=
  match dropBeginning? "file:///" l.target.toList with
  | some path => (percentText? (firstSegment path)).map fun s => ⟨"/" ++ s⟩
  | none => (percentText? (firstSegment l.target.toList)).map Path.mk

section Link

variable {name own : String} {location : Path} {link : StoredLink}

/-- A link from the directory of the sheet does not begin like one from the root: its first name is
too long, or it has no separator. -/
theorem dropBeginning?_read (hname : Ordinary name) (hlength : 6 ≤ name.toList.length) :
    dropBeginning? "file:///"
      ((escapeLink (beforePlace (snapshotPath name location))).map blankForTab) = none := by
  rw [Option.eq_none_iff_forall_ne_some]
  intro rest hrest
  have hbegins := exists_of_dropBeginning? hrest
  by_cases hplace : '#' ∈ name.toList
  · -- what is cut off at the number sign has no separator
    have hslash : '/' ∉ beforePlace (snapshotPath name location) := by
      rw [snapshotPath, beforePlace_append_of_mem hplace]
      exact fun hmem => hname.noSlash ((List.takeWhile_subset _) hmem)
    refine slash_not_mem_escapeLink hslash ?_
    rw [hbegins]
    exact List.mem_append_left _ (by decide)
  · have hfirst : firstSegment (beforePlace (snapshotPath name location)) = name.toList := by
      rw [firstSegment_beforePlace, firstSegment_snapshotPath hname.noSlash,
        beforePlace_of_notMem hplace]
    have hfile : firstSegment ("file:".toList ++ '/' :: ("//".toList ++ rest)) = "file:".toList :=
      firstSegment_append (by decide) _
    have hless := length_firstSegment_escapeLink (beforePlace (snapshotPath name location))
    rw [hbegins, hfirst] at hless
    have hfive := hless.trans (congrArg List.length hfile).le
    exact absurd (hlength.trans hfive) (by decide)

/-- **The directory in the link to a snapshot** is what is read of its name, up to a number sign. -/
theorem directory?_of_snapshotLink (hname : Ordinary name) (hlength : 6 ≤ name.toList.length)
    (hstored : storeLink? (snapshotLink name location) = some (link, own)) :
    link.directory? =
      (readSegment (holdsEscape (beforePlace (snapshotPath name location)))
        (beforePlace name.toList)).map
          fun s => if isRelativeLink name.toList then ⟨s⟩ else ⟨"/" ++ s⟩ := by
  have hlink := storeLink?_file (toList_snapshotLink name location) hstored
  have htarget : link.target.toList =
      (escapeLink (beforePlace (keptPath (snapshotPath name location)))).map blankForTab := by
    rw [hlink, keepLink, toList_attributeText]
    rfl
  have hrelative : isRelativeLink (snapshotPath name location) = isRelativeLink name.toList :=
    isRelativeLink_append (by omega) _
  have hfirst : firstSegment (beforePlace (snapshotPath name location)) =
      beforePlace name.toList := by
    rw [firstSegment_beforePlace, firstSegment_snapshotPath hname.noSlash]
  rw [keptPath, hrelative] at htarget
  rw [← hfirst, ← percentText?_firstSegment]
  split_ifs at htarget ⊢ with hkept
  · rw [StoredLink.directory?, htarget, dropBeginning?_read hname hlength]
  · have hplain : '#' ∉ "file:///".toList := by decide
    rw [beforePlace, List.takeWhile_append_of_pos (Url.decide_ne_of_not_mem hplain), ← beforePlace,
      escapeLink_append (by decide) rfl, List.map_append] at htarget
    have hbeginning : "file:///".toList.map blankForTab = "file:///".toList := rfl
    rw [StoredLink.directory?, htarget, hbeginning, dropBeginning?_append]

end Link

/-! ## Links of a static report -/

section Static

variable {options : ReportOptions} {suffix name : String} {index : SearchIndex}
  {given : Option Renderer} {x y : Writer} {queries : List NamedQuery} {rows : List SortedRow}
  {w v : Workspace} {artifact : Artifact}

/-- **What is read of a directory leads to it** if and only if its name is read as it was, from the
directory of the sheet or, where that is the root, from there. -/
theorem exists_directory_iff {t : FileTree Content} {base : Path} {place : Place}
    {kept relative : Bool} (hname : Ordinary name)
    (hresolve : t.resolve (base.join (.ofNames [name])) = .ok place)
    (hthere : t.get? place = some .directory) :
    (∃ q, (readSegment kept (beforePlace name.toList)).map
        (fun s => if relative then (⟨s⟩ : Path) else ⟨"/" ++ s⟩) = some q ∧
        t.resolve (base.join q) = .ok place) ↔
      ReadsBack name kept ∧ (relative = true ∨ t.goal base = []) := by
  have hnames : ∀ s ∈ [name], Ordinary s := by simpa using hname
  have hplace : place = t.goal base ++ [name] := by
    rw [FileTree.resolve_eq_goal hresolve, FileTree.goal_join_ofNames t base hnames]
  have hfromRoot : base.join ⟨"/" ++ name⟩ = ⟨"/" ++ name⟩ := by
    have habsolute : (⟨"/" ++ name⟩ : Path).isAbsolute = true := by
      simp [Path.isAbsolute, String.toList_append]
    rw [Path.join, if_pos habsolute]
  constructor
  · rintro ⟨q, hq, hreads⟩
    obtain ⟨text, hread, rfl⟩ := Option.map_eq_some_iff.1 hq
    have hgoal := (FileTree.resolve_eq_goal hreads).symm.trans hplace
    have hstep := (List.mem_filter.1 (FileTree.mem_steps_of_goal_join t hgoal)).1
    have hfound : name.toList <:+: text.toList := by
      refine Path.isInfix_of_mem_cutSlashes ?_
      split_ifs at hstep
      · exact hstep
      · dsimp only at hstep
        rw [FileTree.cutSlashes_fromRoot] at hstep
        exact (List.mem_cons.1 hstep).resolve_left (Path.isStep_iff.1 hname.isStep).1
    obtain ⟨hback, rfl⟩ := readsBack_of_isInfix hread hfound
    refine ⟨hback, ?_⟩
    split_ifs at hgoal with hrelative
    · exact .inl hrelative
    · rw [hfromRoot, FileTree.goal_fromRoot t hname] at hgoal
      exact .inr (List.self_eq_append_left.1 hgoal)
  · rintro ⟨hback, hwhere⟩
    rw [hback.readSegment_eq]
    refine ⟨_, rfl, ?_⟩
    split_ifs with hrelative
    · rw [ofNames_singleton] at hresolve
      exact hresolve
    · rw [hwhere.resolve_left hrelative, List.nil_append] at hplace
      subst hplace
      rw [hfromRoot]
      refine FileTree.resolve_fromRoot hresolve hname ?_ (by rw [hthere]; rfl)
      rw [Path.steps_join (Path.isAbsolute_ofNames hnames), Path.steps_ofNames hnames]
      exact List.mem_append_right _ (List.mem_singleton_self _)

/-- **Which links of a static report lead through its snapshot directory.**  The directory that is
read from a link, with its escapes undone and taken from the directory of the report, is the one
that holds the snapshots if and only if its name is read as it was: no number sign cuts it, no tab in
it is read as a blank, and no escape in it is undone, which a sheet prevents unless it finds one of
its own in the link; and the name does not begin like a drive or a share, if the report does not lie
in the root. -/
theorem directory_of_snapshot_links (hmode : options.mode = .static suffix)
    (hnew : Writer.new options index given = .ok x)
    (hwrite : x.write queries rows w = (y, v, .ok artifact)) :
    ∃ (directory : Path) (name : String) (sheet : Sheet) (place : Place),
      options.snapshotDirectory? = some directory ∧ directory.fileName? = some name ∧
      v.tree.read? options.output = some (.sheet sheet) ∧ v.tree.resolve directory = .ok place ∧
      ∀ i column link, (∃ c ∈ sheet.cells, c.Stands (i + 1) column (some link)) →
        ∃ (row : SortedRow) (plan : SnapshotPlan), rows[i]? = some row ∧
          plan.Of directory suffix row ∧
          ((∃ q, link.directory? = some q ∧
              v.tree.resolve (options.outputDirectory.join q) = .ok place) ↔
            ReadsBack name (holdsEscape (beforePlace (snapshotPath name plan.location))) ∧
              (isRelativeLink name.toList = true ∨
                v.tree.goal options.outputDirectory = [])) := by
  obtain ⟨-, ⟨s, hname⟩, -⟩ := Writer.new_eq_ok.1 hnew
  obtain ⟨directory, renderer, plans, sheet, w₁, w₂, rfl, hdirectory, -, -, hmade, -, hput, hlayout,
    hsave, -⟩ := Writer.static_write_eq_ok hmode hnew hwrite
  have hisdir := isDirectory_of_static_write hmode hname hdirectory hmade hput hsave
  obtain ⟨hresolve, hthere⟩ := FileTree.get?_goal_of_isDirectory hisdir
  have hfile := fileName?_snapshotDirectory hmode hname hdirectory
  refine ⟨directory, _, sheet, _, hdirectory, hfile, FileTree.read?_writeFile hsave, hresolve, ?_⟩
  intro i column link hlinked
  obtain ⟨-, plan, own, hi, hstored⟩ := (linked_iff_snapshot
    (length_keepFirst_snapshotPlans _ _) hlayout i column link).1 hlinked
  obtain ⟨row, hrow, hof⟩ := of_snapshotPlans (getElem?_of_keepFirst hi)
  rw [hof.link, hfile, Option.getD_some] at hstored
  obtain ⟨hjoin, hordinary⟩ := snapshotDirectory_eq_join hmode hname hdirectory
  have hordinaryName := hordinary _ (List.mem_singleton_self _)
  generalize v.tree.goal directory = place at hresolve hthere ⊢
  refine ⟨row, plan, getElem?_of_take hrow, hof, ?_⟩
  rw [directory?_of_snapshotLink hordinaryName (six_le_length_snapshotDirectoryName s) hstored]
  rw [hjoin] at hresolve
  exact exists_directory_iff hordinaryName hresolve hthere

end Static

/-- A report with a name of more than one word. -/
theorem directory_of_snapshot_links_two_words :
    let options : ReportOptions := ⟨⟨"my tags.xlsx"⟩, .static ".html", none, 9⟩
    let index : SearchIndex :=
      Script.index ⟨[(0, Script.plainDocument "f0")], [], [], [], [], [], [], false⟩
    let queries : List NamedQuery := [⟨1, "Q1", "q1", -1, -1⟩]
    let rows : List SortedRow := [⟨"f0", 1, "f0.txt", "docs/f0.txt", some 0, [(1, 1)]⟩]
    let w : Workspace := ⟨⟨[(["work"], .directory)], ["work"]⟩, [], .sound⟩
    ∃ x y v artifact sheet place, Writer.new options index (some .naming) = .ok x ∧
      x.write queries rows w = (y, v, .ok artifact) ∧
      v.tree.read? options.output = some (.sheet sheet) ∧
      (Content.sheet sheet).links = [(1, 0, ⟨"my%20tags_files/docs/f0.txt.html", none⟩)] ∧
      v.tree.resolve ⟨"./my tags_files"⟩ = .ok place ∧
      ∀ i column link, (∃ c ∈ sheet.cells, c.Stands (i + 1) column (some link)) →
        ∃ q, link.directory? = some q ∧
          v.tree.resolve (options.outputDirectory.join q) = .ok place := by
  intro options index queries rows w
  have hname : options.output.fileName? = some "my tags.xlsx" := by decide +kernel
  have hnew : Writer.new options index (some .naming) =
      .ok ⟨options, index, some .naming, false⟩ :=
    Writer.new_eq_ok.2 ⟨rfl, ⟨_, hname⟩, fun _ _ => ⟨_, rfl⟩⟩
  have hdirectory : options.snapshotDirectory? = some ⟨"./my tags_files"⟩ := by decide +kernel
  have hfile : (⟨"./my tags_files"⟩ : Path).fileName? = some "my tags_files" := by decide +kernel
  have hlinks : ((Writer.write ⟨options, index, some .naming, false⟩ queries rows
      w).2.1.tree.read? options.output).map Content.links =
        some [(1, 0, ⟨"my%20tags_files/docs/f0.txt.html", none⟩)] := by
    decide +kernel
  have hok : (Writer.write ⟨options, index, some .naming, false⟩ queries rows w).2.2.isOk =
      true := by
    decide +kernel
  rcases hwrite : Writer.write ⟨options, index, some .naming, false⟩ queries rows w with
    ⟨y, v, f | artifact⟩
  · rw [hwrite] at hok
    cases hok
  rw [hwrite] at hlinks
  obtain ⟨directory, name, sheet, place, hgiven, hended, hsheet, hplace, hleads⟩ :=
    directory_of_snapshot_links rfl hnew hwrite
  obtain rfl := Option.some.inj (hdirectory.symm.trans hgiven)
  obtain rfl := Option.some.inj (hfile.symm.trans hended)
  rw [hsheet] at hlinks
  refine ⟨_, y, v, artifact, sheet, place, hnew, hwrite, hsheet, Option.some.inj hlinks, hplace, ?_⟩
  intro i column link hlinked
  obtain ⟨row, plan, -, -, hiff⟩ := hleads i column link hlinked
  exact hiff.2 ⟨.of_notMem (by decide +kernel) (by decide +kernel) (by decide +kernel) _,
    .inl (by decide +kernel)⟩

/-- **A number sign in the name of a report** cuts its links: what is left of the directory leads to
nothing. -/
theorem number_sign_cuts_directory :
    let options : ReportOptions := ⟨⟨"x#1.xlsx"⟩, .static ".html", none, 9⟩
    let index : SearchIndex :=
      Script.index ⟨[(0, Script.plainDocument "f0")], [], [], [], [], [], [], false⟩
    let queries : List NamedQuery := [⟨1, "Q1", "q1", -1, -1⟩]
    let row : SortedRow := ⟨"f0", 1, "f0.txt", "docs/f0.txt", some 0, [(1, 1)]⟩
    let x : Writer := ⟨options, index, some .naming, false⟩
    let w : Workspace := ⟨⟨[(["work"], .directory)], ["work"]⟩, [], .sound⟩
    let link : StoredLink := ⟨"x", some "1_files/docs/f0.txt.html"⟩
    let v := (x.write queries [row] w).2.1
    Writer.new options index (some .naming) = .ok x ∧
      (x.write queries [row] w).2.2.isOk = true ∧
      ((v.tree.read? options.output).any fun content => content.links = [(1, 0, link)]) = true ∧
      options.snapshotDirectory? = some ⟨"./x#1_files"⟩ ∧
      v.tree.isDirectory ⟨"./x#1_files"⟩ = true ∧ link.directory? = some ⟨"x"⟩ ∧
      v.tree.resolve (options.outputDirectory.join ⟨"x"⟩) = .error .missing := by
  intro options index queries row x w link v
  have hname : options.output.fileName? = some "x#1.xlsx" := by decide +kernel
  exact ⟨Writer.new_eq_ok.2 ⟨rfl, ⟨_, hname⟩, fun _ _ => ⟨_, rfl⟩⟩, by decide +kernel,
    by decide +kernel, by decide +kernel, by decide +kernel, by decide +kernel, by decide +kernel⟩

end Tagging
