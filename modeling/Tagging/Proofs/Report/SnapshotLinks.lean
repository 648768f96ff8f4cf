import Mathlib.Data.Bool.AllAny
import Tagging.Proofs.Report.FollowedLinks
import Tagging.Proofs.Report.SnapshotFiles

/-!
# Links that lead to snapshots

The place of a snapshot and the link to it are made of the same names.  Cleaned names hold nothing
that a sheet or a reader of links takes for something else, so the link is read as the path of the
snapshot; only a tab or a carriage return is read as a blank, and then leads elsewhere.

* `forall_mem_snapshotNames` — the characters of the names of a snapshot;
* `blanked` — a name as it is read from a link;
* `path?_of_snapshotLink`, `resolve_blanked_iff` — **what the link to a snapshot means**, and when
  that is its path;
* `snapshot_links_lead_there` — **each link of a static report leads to the snapshot of its row** if
  it holds no tab;
* `tab_leads_elsewhere` — a link with a tab.
-/

namespace Tagging

open Tagging.Path (Ordinary)

/-! ## The characters of names -/

theorem leadsElsewhere_eq_true {c : Char} :
    leadsElsewhere c = true ↔ c ∈ ['/', '\\', '#', '%'] := by
  simp [leadsElsewhere, or_assoc]

theorem leadsElsewhere_cleanChar (c : Char) : leadsElsewhere (cleanChar c) = false := by
  unfold cleanChar
  split_ifs with h
  · decide
  · simpa using h

section Names

variable {relativePath fileId suffix path name : String} {tag : Option String} {good : Char → Prop}

theorem forall_mem_cleanName (name : String) :
    ∀ c ∈ (cleanName name).toList, leadsElsewhere c = false := by
  rw [toList_cleanName]
  intro c hc
  obtain ⟨d, -, rfl⟩ := List.mem_map.1 hc
  exact leadsElsewhere_cleanChar d

theorem Tabless.cleanName (h : Tabless name) : Tabless (cleanName name) := by
  intro c hc
  rw [toList_cleanName] at hc
  obtain ⟨d, hd, rfl⟩ := List.mem_map.1 hc
  unfold cleanChar
  split_ifs
  · decide
  · exact h d hd

theorem tabless_append {s t : String} : Tabless (s ++ t) ↔ Tabless s ∧ Tabless t := by
  simp only [Tabless, String.toList_append, List.forall_mem_append]

/-- A cleaned name of a path is one of its names, cleaned. -/
theorem exists_of_mem_safeNames {s : String} (h : s ∈ safeNames path) :
    ∃ s', s = cleanName s' ∧ ∀ c ∈ s'.toList, c ∈ path.toList := by
  unfold safeNames at h
  obtain ⟨component, hcomponent, hs⟩ := List.mem_filterMap.1 h
  cases component with
  | root => cases hs
  | here => cases hs
  | up => cases hs
  | name s' =>
    refine ⟨s', (Option.some.inj hs).symm, fun c hc => ?_⟩
    obtain ⟨hstep, -⟩ := Path.mem_steps_of_mem_components hcomponent
    have hcut := (List.mem_filter.1 hstep).1
    have hmem : c ∈ (withSlashes path).text.toList :=
      (Path.isInfix_of_mem_cutSlashes hcut).subset hc
    rw [withSlashes, String.toList_ofList] at hmem
    obtain ⟨d, hd, hdc⟩ := List.mem_map.1 hmem
    split_ifs at hdc with hback
    · -- no name holds a separator
      subst hdc
      exact absurd hc (Path.not_mem_of_mem_cutSlashes hcut)
    · exact hdc ▸ hd

theorem forall_mem_locationNames {s : String} (h : s ∈ locationNames relativePath fileId) :
    (∀ c ∈ s.toList, leadsElsewhere c = false) ∧
      (Tabless relativePath → Tabless fileId → Tabless s) := by
  have hsafe {path : String} (h : s ∈ safeNames path) :
      (∀ c ∈ s.toList, leadsElsewhere c = false) ∧ (Tabless path → Tabless s) := by
    obtain ⟨s', rfl, hfrom⟩ := exists_of_mem_safeNames h
    exact ⟨forall_mem_cleanName s', fun hpath => Tabless.cleanName fun c hc => hpath c (hfrom c hc)⟩
  unfold locationNames at h
  split at h
  · split at h
    · obtain rfl := List.mem_singleton.1 h
      exact ⟨List.all_iff_forall_prop.1 (by decide), fun _ _ => by decide⟩
    · exact ⟨(hsafe h).1, fun _ => (hsafe h).2⟩
  · exact ⟨(hsafe h).1, fun hpath _ => (hsafe h).2 hpath⟩

/-- **The characters of the names of a snapshot** are those of the names of its file, of the tag and
of the suffix. -/
theorem forall_mem_snapshotNames
    (hnames : ∀ s ∈ locationNames relativePath fileId, ∀ c ∈ s.toList, good c)
    (htag : ∀ t ∈ tag, ∀ c ∈ (cleanName t).toList, good c)
    (hsuffix : ∀ c ∈ suffix.toList, good c) (htilde : good '~') :
    ∀ s ∈ snapshotNames relativePath fileId suffix tag, ∀ c ∈ s.toList, good c := by
  intro s hs
  rcases List.mem_append.1 hs with hfront | hlast
  · exact hnames s (List.dropLast_subset _ hfront)
  · have hlastName : (locationNames relativePath fileId).getLastD "" ∈
        locationNames relativePath fileId := by
      have hne := (ordinary_locationNames relativePath fileId).1
      rw [List.getLastD_eq_getLast?, List.getLast?_eq_some_getLast hne, Option.getD_some]
      exact List.getLast_mem hne
    obtain rfl := List.mem_singleton.1 hlast
    have hname := hnames _ hlastName
    cases tag with
    | none =>
      simp only [taggedName, String.toList_append, List.forall_mem_append]
      exact ⟨hname, hsuffix⟩
    | some t =>
      simp only [taggedName, String.toList_append, List.forall_mem_append]
      exact ⟨⟨⟨hname, by simpa using htilde⟩, htag t rfl⟩, hsuffix⟩

theorem clean_snapshotNames (hsuffix : ∀ c ∈ suffix.toList, leadsElsewhere c = false)
    (tag : Option String) : ∀ s ∈ snapshotNames relativePath fileId suffix tag,
      ∀ c ∈ s.toList, leadsElsewhere c = false :=
  forall_mem_snapshotNames (fun _ hs => (forall_mem_locationNames hs).1)
    (fun t _ => forall_mem_cleanName t) hsuffix (by decide)

theorem tabless_attemptTag (h : Tabless fileId) (attempt : Nat) :
    Tabless (attemptTag fileId attempt) := by
  cases attempt with
  | zero => exact h
  | succ n =>
    have hdigits : Tabless (toString (n + 2)) := by
      intro c hc
      have hdigit := isDigit_of_mem_toString hc
      by_contra htab
      rw [Bool.not_eq_false, isTab, Bool.or_eq_true, decide_eq_true_iff, decide_eq_true_iff] at htab
      rcases htab with rfl | rfl <;> cases hdigit
    rw [attemptTag, tabless_append, tabless_append]
    exact ⟨⟨h, by decide⟩, hdigits⟩

theorem tabless_snapshotNames (hpath : Tabless relativePath) (hid : Tabless fileId)
    (hsuffix : Tabless suffix) (htag : ∀ t ∈ tag, ∃ attempt, t = attemptTag fileId attempt) :
    ∀ s ∈ snapshotNames relativePath fileId suffix tag, Tabless s := by
  refine forall_mem_snapshotNames (fun _ hs => (forall_mem_locationNames hs).2 hpath hid)
    (fun t ht => ?_) hsuffix (by decide)
  obtain ⟨attempt, rfl⟩ := htag t ht
  exact (tabless_attemptTag hid attempt).cleanName

end Names

/-! ## Names that are read from a link -/

/-- A name as it is read from a link. -/
def blanked (s : String) : String := String.ofList (s.toList.map blankForTab)

section Read

variable {s name own : String} {names : List String} {link : StoredLink}

theorem toList_blanked (s : String) : (blanked s).toList = s.toList.map blankForTab :=
  String.toList_ofList

theorem blanked_eq_self : blanked s = s ↔ Tabless s := by
  rw [← String.toList_inj, toList_blanked, map_blankForTab_eq_self]
  rfl

/-- Tabs are neither dots nor separators, and blanks are not, either. -/
theorem Path.Ordinary.blanked (h : Ordinary s) : Ordinary (blanked s) := by
  obtain ⟨hne, hdot⟩ := Path.isStep_iff.1 h.isStep
  have hdots : ∀ n, s.toList.map blankForTab = List.replicate n '.' →
      s.toList = List.replicate n '.' := by
    intro n heq
    rw [List.eq_replicate_iff, List.length_map, List.forall_mem_map] at heq
    exact List.eq_replicate_iff.2
      ⟨heq.1, fun c hc => (blankForTab_eq_iff (by decide) rfl).1 (heq.2 c hc)⟩
  refine ⟨Path.isStep_iff.2 ⟨?_, ?_⟩, ?_, ?_⟩
  · rw [toList_blanked]
    exact fun heq => hne (List.map_eq_nil_iff.1 heq)
  · rw [toList_blanked]
    exact fun heq => hdot (hdots 1 heq)
  · rw [toList_blanked]
    exact fun heq => h.noUp (hdots 2 heq)
  · rw [toList_blanked]
    intro hmem
    obtain ⟨c, hc, heq⟩ := List.mem_map.1 hmem
    rw [blankForTab_eq_iff (by decide) rfl] at heq
    exact h.noSlash (heq ▸ hc)

/-- The link to a snapshot holds the path along the names of its directory and its location. -/
theorem snapshotPath_ofNames (name : String) (h : ∀ s ∈ names, Ordinary s) :
    snapshotPath name (.ofNames names) = (Path.ofNames (name :: names)).text.toList := by
  rw [snapshotPath, Path.components_ofNames h, Path.toList_text_ofNames, List.flatMap_map]
  rfl

theorem tabless_snapshotLink (h : ∀ s ∈ names, Ordinary s) :
    Tabless (snapshotLink name (.ofNames names)) ↔ ∀ s ∈ name :: names, Tabless s := by
  have hfile : ∀ c ∈ "file:///".toList, isTab c = false :=
    show Tabless "file:///" by decide
  have hslash : isTab '/' = false := rfl
  rw [Tabless, toList_snapshotLink, snapshotPath_ofNames name h, Path.toList_text_ofNames,
    List.forall_mem_append, and_iff_right hfile, List.forall_mem_append, List.forall_mem_flatMap,
    List.forall_mem_cons]
  simp only [List.forall_mem_cons, hslash, true_and, Tabless]

/-- Nothing in the path of a link leads elsewhere but its separators. -/
theorem notMem_snapshotPath (hnames : ∀ s ∈ names, Ordinary s)
    (hclean : ∀ c ∈ name.toList, leadsElsewhere c = false)
    (hcleans : ∀ s ∈ names, ∀ c ∈ s.toList, leadsElsewhere c = false) {c : Char} (hslash : c ≠ '/')
    (hleads : leadsElsewhere c = true) : c ∉ snapshotPath name (.ofNames names) := by
  rw [snapshotPath_ofNames name hnames, Path.toList_text_ofNames]
  intro hmem
  rcases List.mem_append.1 hmem with hin | hin
  · rw [hclean c hin] at hleads
    cases hleads
  · obtain ⟨s, hs, hc⟩ := List.mem_flatMap.1 hin
    rcases List.mem_cons.1 hc with rfl | hc
    · exact hslash rfl
    · rw [hcleans s hs c hc] at hleads
      cases hleads

/-- **What the link to a snapshot means**: the path along the names of its directory and its
location, as they are read from a link. -/
theorem path?_of_snapshotLink (hname : Ordinary name) (hlength : 2 ≤ name.toList.length)
    (hclean : ∀ c ∈ name.toList, leadsElsewhere c = false) (hcolon : ':' ∉ name.toList)
    (hnames : ∀ s ∈ names, Ordinary s)
    (hcleans : ∀ s ∈ names, ∀ c ∈ s.toList, leadsElsewhere c = false)
    (hstored : storeLink? (snapshotLink name (.ofNames names)) = some (link, own)) :
    link.location = none ∧ link.isRelative = true ∧
      link.path? = some (.ofNames ((name :: names).map blanked)) := by
  have hpath : snapshotPath name (.ofNames names) =
      name.toList ++ names.flatMap fun s => '/' :: s.toList := by
    rw [snapshotPath_ofNames name hnames, Path.toList_text_ofNames]
  have hfree {c : Char} (hslash : c ≠ '/') (hleads : leadsElsewhere c = true) :
      c ∉ snapshotPath name (.ofNames names) :=
    notMem_snapshotPath hnames hclean hcleans hslash hleads
  have hback : '\\' ∉ name.toList := fun hmem => nomatch hclean _ hmem
  have hkept : keptPath (snapshotPath name (.ofNames names)) =
      snapshotPath name (.ofNames names) := by
    rw [keptPath, hpath, isRelativeLink_append hlength,
      if_pos (isRelativeLink_of_notMem hlength hcolon hback)]
  have hlink := storeLink?_file (toList_snapshotLink name (.ofNames names)) hstored
  have hplain : ¬ holdsEscape (snapshotPath name (.ofNames names)) = true := by
    rw [holdsEscape_eq_false (hfree (by decide) rfl)]
    exact Bool.false_ne_true
  rw [hkept, cutLocation_of_notMem (hfree (by decide) rfl), keepLink, escapeLink_eq,
    if_neg hplain] at hlink
  subst hlink
  refine ⟨rfl, ?_, ?_⟩
  · -- the first segment is what is read of the name
    obtain ⟨c, cs, hcs⟩ := List.exists_cons_of_ne_nil (Path.isStep_iff.1 hname.isStep).1
    have hcolon' := staysInPlace_colon.not_mem_read (by decide) rfl hcolon
    rw [StoredLink.isRelative, toList_attributeText, firstSegment_read,
      firstSegment_snapshotPath hname.noSlash]
    simp only [Bool.and_eq_true, Bool.not_eq_true', List.isEmpty_eq_false_iff,
      List.contains_eq_mem, decide_eq_false_iff_not]
    refine ⟨?_, hcolon'⟩
    rw [hcs, writeOut_cons, List.map_append]
    exact List.append_ne_nil_of_left_ne_nil (by simpa using writeOutChar_ne_nil c) _
  · rw [StoredLink.path?, toList_attributeText, percentText?_writeOut,
      snapshotPath_ofNames name hnames, Path.ofNames, String.toList_ofList,
      Path.map_joinSlashes (blankForTab_eq_self.2 rfl), List.map_map, Path.ofNames, List.map_map,
      Option.map_some]
    simp only [Function.comp_def, toList_blanked]

/-- **Followed from the directory of the report**, the path that is read leads to the snapshot if
and only if no name holds a tab. -/
theorem resolve_blanked_iff {t : FileTree Content} {base : Path} {place : Place}
    (hname : Ordinary name) (hne : names ≠ []) (hnames : ∀ s ∈ names, Ordinary s)
    (hresolve : t.resolve ((base.join (.ofNames [name])).join (.ofNames names)) = .ok place) :
    t.resolve (base.join (.ofNames ((name :: names).map blanked))) = .ok place ↔
      ∀ s ∈ name :: names, Tabless s := by
  have hall : ∀ s ∈ name :: names, Ordinary s := List.forall_mem_cons.2 ⟨hname, hnames⟩
  have hsame : (name :: names).map blanked = name :: names ↔ ∀ s ∈ name :: names, Tabless s := by
    simp only [← blanked_eq_self]
    exact (iff_of_eq (by rw [List.map_id])).trans (List.map_inj_left (g := id))
  rw [Path.join_join_ofNames base hname hne hnames] at hresolve
  rw [← hsame]
  constructor
  · intro hread
    have hgoal := (FileTree.resolve_eq_goal hread).symm.trans (FileTree.resolve_eq_goal hresolve)
    have hblanked : ∀ s ∈ (name :: names).map blanked, Ordinary s :=
      List.forall_mem_map.2 fun s hs => (hall s hs).blanked
    rw [FileTree.goal_join_ofNames t base hblanked, FileTree.goal_join_ofNames t base hall] at hgoal
    exact List.append_cancel_left hgoal
  · intro heq
    rw [heq]
    exact hresolve

end Read

/-! ## Links of a static report -/

section Static

variable {options : ReportOptions} {suffix stem : String} {index : SearchIndex}
  {given : Option Renderer} {x y : Writer} {queries : List NamedQuery} {rows : List SortedRow}
  {w v : Workspace} {artifact : Artifact}

/-- The snapshot directory is named after the report. -/
theorem snapshotDirectoryName_of_stem {s : String} (hname : options.output.fileName? = some s)
    (hstem : options.output.fileStem? = some stem) :
    snapshotDirectoryName s = stem ++ ReportOptions.snapshotDirectorySuffix := by
  rw [Path.fileStem?, hname, Option.map_some, Option.some.injEq] at hstem
  rw [snapshotDirectoryName, hstem]

/-- If the name of the report does not lead elsewhere, neither does that of its snapshots. -/
theorem clean_snapshotDirectoryName {name : String}
    (hname : name = stem ++ ReportOptions.snapshotDirectorySuffix) (hordinary : Ordinary name)
    (hclean : ∀ c ∈ ['#', '%', ':', '\\'], c ∉ stem.toList) :
    (∀ c ∈ name.toList, leadsElsewhere c = false) ∧ ':' ∉ name.toList := by
  have hfree : ∀ c ∈ ['#', '%', ':', '\\'], c ∉ name.toList := by
    have hend : ∀ c ∈ ['#', '%', ':', '\\'], c ∉ ReportOptions.snapshotDirectorySuffix.toList :=
      List.all_iff_forall_prop.1 (by decide)
    intro c hc
    rw [hname, String.toList_append, List.mem_append, not_or]
    exact ⟨hclean c hc, hend c hc⟩
  refine ⟨fun c hc => ?_, hfree _ (by decide)⟩
  rw [Bool.eq_false_iff, Ne, leadsElsewhere_eq_true]
  intro hleads
  rcases List.mem_cons.1 hleads with rfl | hleads
  · exact hordinary.noSlash hc
  · have hlisted : ∀ c ∈ ['\\', '#', '%'], c ∈ ['#', '%', ':', '\\'] :=
      List.all_iff_forall_prop.1 (by decide)
    exact hfree c (hlisted c hleads) hc

/-- The names in the link of a planned snapshot. -/
theorem exists_names_of_snapshotPlan? {directory : Path} {name : String} {r : SortedRow}
    {plan : SnapshotPlan} {taken : List (List Component)}
    (hdirectory : directory.fileName? = some name)
    (hsuffix : ∀ c ∈ suffix.toList, leadsElsewhere c = false)
    (h : snapshotPlan? directory suffix taken r = some plan) :
    ∃ names, names ≠ [] ∧ (∀ s ∈ names, Ordinary s) ∧
      (∀ s ∈ names, ∀ c ∈ s.toList, leadsElsewhere c = false) ∧
      plan.location = .ofNames names ∧ plan.link = snapshotLink name (.ofNames names) ∧
      (Tabless suffix → Tabless r.relativePath → Tabless r.fileId → ∀ s ∈ names, Tabless s) := by
  obtain ⟨hof, hlocation⟩ := snapshotPlan?_eq_some h
  obtain ⟨tag, htag, hchosen⟩ := exists_firstFreeLocation taken r.relativePath r.fileId suffix
  have hslash : '/' ∉ suffix.toList := fun hmem => nomatch hsuffix _ hmem
  have hnames : plan.location =
      .ofNames (snapshotNames r.relativePath r.fileId suffix tag) := hlocation.trans hchosen
  refine ⟨_, snapshotNames_ne_nil tag, ordinary_snapshotNames hslash tag,
    clean_snapshotNames hsuffix tag, hnames, ?_, ?_⟩
  · rw [hof.link, hdirectory, Option.getD_some, hnames]
  · intro hsuffixTabless hpath hid
    exact tabless_snapshotNames hpath hid hsuffixTabless htag

/-- **Each link of a static report leads to the snapshot of its row**, if neither the name of the
report nor the suffix leads elsewhere: it is relative and names no place in the snapshot, and
whoever undoes its escapes and follows it from the directory of the report comes to the file that
was written for the row, unless the link holds a tab or a carriage return.  It holds none if there
is none in the name of the report, the suffix, the path of the file and its id. -/
theorem snapshot_links_lead_there (hmode : options.mode = .static suffix)
    (hstem : options.output.fileStem? = some stem)
    (hclean : ∀ c ∈ ['#', '%', ':', '\\'], c ∉ stem.toList)
    (hsuffix : ∀ c ∈ ['/', '\\', '#', '%'], c ∉ suffix.toList)
    (hnew : Writer.new options index given = .ok x)
    (hwrite : x.write queries rows w = (y, v, .ok artifact)) :
    ∃ directory renderer sheet, options.snapshotDirectory? = some directory ∧
      given = some renderer ∧ v.tree.read? options.output = some (.sheet sheet) ∧
      ∀ i column link, (∃ c ∈ sheet.cells, c.Stands (i + 1) column (some link)) →
        column = 0 ∧ ∃ row plan place, rows[i]? = some row ∧ plan.Of directory suffix row ∧
          SnapshotStands index renderer queries v.tree (directory.join plan.location) place row
            plan ∧
          link.location = none ∧ link.isRelative = true ∧
          (link.LeadsTo v.tree options.outputDirectory place ↔ Tabless plan.link) ∧
          (Tabless stem → Tabless suffix → Tabless row.relativePath → Tabless row.fileId →
            Tabless plan.link) := by
  have hslash : '/' ∉ suffix.toList := hsuffix _ (by decide)
  have hsuffixClean : ∀ c ∈ suffix.toList, leadsElsewhere c = false := by
    intro c hc
    rw [Bool.eq_false_iff, Ne, leadsElsewhere_eq_true]
    exact fun hleads => hsuffix c hleads hc
  obtain ⟨directory, renderer, sheet, hdirectory, rfl, -, hreport⟩ :=
    staticReport_of_write hmode hslash hnew hwrite
  obtain ⟨-, ⟨s, hname⟩, -⟩ := Writer.new_eq_ok.1 hnew
  refine ⟨directory, renderer, sheet, hdirectory, rfl, hreport.report, ?_⟩
  intro i column link hlinked
  obtain ⟨rfl, plan, own, hi, hstored⟩ := (linked_iff_snapshot
    (length_keepFirst_snapshotPlans _ _) hreport.laid i column link).1 hlinked
  obtain ⟨row, hrow, hof, hstand⟩ := hreport.stands hi
  obtain ⟨row', taken, hrow', hplan⟩ := exists_of_snapshotPlans (getElem?_of_keepFirst hi)
  obtain rfl : row' = row := Option.some.inj (hrow'.symm.trans hrow)
  -- the directory is named after the report
  obtain ⟨hjoin, hordinary⟩ := snapshotDirectory_eq_join hmode hname hdirectory
  have hfile := fileName?_snapshotDirectory hmode hname hdirectory
  have hlong := six_le_length_snapshotDirectoryName s
  have hdirectoryName := snapshotDirectoryName_of_stem hname hstem
  generalize snapshotDirectoryName s = name at *
  have hordinaryName : Ordinary name := hordinary name (List.mem_singleton_self name)
  obtain ⟨hnameClean, hcolon⟩ := clean_snapshotDirectoryName hdirectoryName hordinaryName hclean
  obtain ⟨names, hne, hnames, hcleans, hlocation, hlink, htabless⟩ :=
    exists_names_of_snapshotPlan? hfile hsuffixClean hplan
  rw [hlink] at hstored
  obtain ⟨hnowhere, hrelative, hpath⟩ := path?_of_snapshotLink hordinaryName
    (le_trans (by decide) hlong) hnameClean hcolon hnames hcleans hstored
  generalize plan.place w.tree directory = place at hstand
  have hresolve := hstand.resolve
  rw [hjoin, hlocation] at hresolve
  refine ⟨rfl, row', plan, place, getElem?_of_take hrow, hof, hstand, hnowhere, hrelative, ?_, ?_⟩
  · rw [hlink, tabless_snapshotLink hnames, ← resolve_blanked_iff hordinaryName hne hnames hresolve]
    exact StoredLink.leadsTo_iff hpath
  · intro hstemTabless hsuffixTabless hpathTabless hid
    rw [hlink, tabless_snapshotLink hnames, List.forall_mem_cons, hdirectoryName, tabless_append]
    exact ⟨⟨hstemTabless, by decide⟩, htabless hsuffixTabless hpathTabless hid⟩

end Static

/-- A report of two files with one path, for which both snapshots are linked. -/
theorem snapshot_links_lead_there_one_path :
    let options : ReportOptions := ⟨⟨"out/my tags.xlsx"⟩, .static ".html", none, 9⟩
    let index : SearchIndex := Script.index ⟨[(0, Script.plainDocument "f"),
      (1, Script.plainDocument "g%")], [], [], [], [], [], [], false⟩
    let queries : List NamedQuery := [⟨1, "one", "a", -1, -1⟩]
    let rows : List SortedRow := [⟨"f", 1, "f.txt", "../a#b [c]", some 0, [(1, 1)]⟩,
      ⟨"g%", 1, "g.txt", "/a#b [c]", some 1, [(1, 1)]⟩]
    let w : Workspace :=
      ⟨⟨[(["work"], .directory), (["work", "out"], .directory)], ["work"]⟩, [], .sound⟩
    ∃ x y v artifact sheet, Writer.new options index (some .naming) = .ok x ∧
      x.write queries rows w = (y, v, .ok artifact) ∧
      v.tree.read? options.output = some (.sheet sheet) ∧
      (Content.sheet sheet).links =
        [(1, 0, ⟨"my%20tags_files/a_b%20%5bc%5d.html", none⟩),
          (2, 0, ⟨"my%20tags_files/a_b%20%5bc%5d~g_.html", none⟩)] ∧
      ∀ i column link, (∃ c ∈ sheet.cells, c.Stands (i + 1) column (some link)) →
        ∃ place, link.LeadsTo v.tree options.outputDirectory place ∧
          ∃ text, v.tree.get? place = some (.file (.text text)) := by
  intro options index queries rows w
  have hname : options.output.fileName? = some "my tags.xlsx" := by decide +kernel
  have hstem : options.output.fileStem? = some "my tags" := by decide +kernel
  have hnew : Writer.new options index (some .naming) =
      .ok ⟨options, index, some .naming, false⟩ :=
    Writer.new_eq_ok.2 ⟨rfl, ⟨_, hname⟩, fun _ _ => ⟨_, rfl⟩⟩
  have htabless : ∀ r ∈ rows, Tabless r.relativePath ∧ Tabless r.fileId := by decide +kernel
  have hlinks : ((Writer.write ⟨options, index, some .naming, false⟩ queries rows
      w).2.1.tree.read? options.output).map Content.links =
        some [(1, 0, ⟨"my%20tags_files/a_b%20%5bc%5d.html", none⟩),
          (2, 0, ⟨"my%20tags_files/a_b%20%5bc%5d~g_.html", none⟩)] := by
    decide +kernel
  have hok : (Writer.write ⟨options, index, some .naming, false⟩ queries rows w).2.2.isOk =
      true := by
    decide +kernel
  rcases hwrite : Writer.write ⟨options, index, some .naming, false⟩ queries rows w with
    ⟨y, v, f | artifact⟩
  · rw [hwrite] at hok
    cases hok
  rw [hwrite] at hlinks
  obtain ⟨directory, renderer, sheet, -, -, hsheet, hleads⟩ :=
    snapshot_links_lead_there rfl hstem (List.all_iff_forall_prop.1 (by decide))
      (List.all_iff_forall_prop.1 (by decide)) hnew hwrite
  rw [hsheet] at hlinks
  refine ⟨_, y, v, artifact, sheet, hnew, hwrite, hsheet, Option.some.inj hlinks, ?_⟩
  intro i column link hlinked
  obtain ⟨-, row, plan, place, hrow, -, hstand, -, -, hthere, hplain⟩ :=
    hleads i column link hlinked
  obtain ⟨hpath, hid⟩ := htabless row (List.mem_of_getElem? hrow)
  obtain ⟨-, text, -, -, htext⟩ := hstand.content
  exact ⟨place, hthere.2 (hplain (by decide) (by decide) hpath hid), text, htext⟩

/-- **A tab in the path of a file** is kept in the name of its snapshot, but read from the link as a
blank: there is no such file. -/
theorem tab_leads_elsewhere :
    let options : ReportOptions := ⟨⟨"tags.xlsx"⟩, .static ".html", none, 9⟩
    let index : SearchIndex :=
      Script.index ⟨[(0, Script.plainDocument "f0")], [], [], [], [], [], [], false⟩
    let queries : List NamedQuery := [⟨1, "Q1", "q1", -1, -1⟩]
    let row : SortedRow := ⟨"f0", 1, "f0.txt", "tab\tx", some 0, [(1, 1)]⟩
    let x : Writer := ⟨options, index, some .naming, false⟩
    let w : Workspace := ⟨⟨[(["work"], .directory)], ["work"]⟩, [], .sound⟩
    let link : StoredLink := ⟨"tags_files/tab x.html", none⟩
    let v := (x.write queries [row] w).2.1
    Writer.new options index (some .naming) = .ok x ∧
      (x.write queries [row] w).2.2.isOk = true ∧
      ((v.tree.read? options.output).any fun content => content.links = [(1, 0, link)]) = true ∧
      (v.tree.resolve ⟨"./tags_files/tab\tx.html"⟩).isOk = true ∧
      link.path? = some ⟨"tags_files/tab x.html"⟩ ∧
      v.tree.resolve (options.outputDirectory.join ⟨"tags_files/tab x.html"⟩) =
        .error .missing := by
  intro options index queries row x w link v
  have hname : options.output.fileName? = some "tags.xlsx" := by decide +kernel
  exact ⟨Writer.new_eq_ok.2 ⟨rfl, ⟨_, hname⟩, fun _ _ => ⟨_, rfl⟩⟩, by decide +kernel,
    by decide +kernel, by decide +kernel, by decide +kernel, by decide +kernel⟩

end Tagging
