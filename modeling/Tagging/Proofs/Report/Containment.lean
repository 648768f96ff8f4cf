import Tagging.Proofs.Config.Settings
import Tagging.Proofs.Report.Locations
import Tagging.Proofs.Report.Replacing

/-!
# Snapshots outside their directory

Path, id and tag of a file are cleaned before they become the names of a location.  The suffix is
not: it is put behind the last name as it is set, and the check of settings asks only that it is not
blank.  So a suffix with separators makes the last name a directory and goes on from there, and up
again if it holds double dots.

* `Path.AlongNames`, `Path.AlongNames.goal_join` — paths that lead along names, and so **to places
  below** whatever they are taken from;
* `alongNames_snapshotLocation_iff` — **when the location of a snapshot is such a path**;
* `Settings.validate_withSuffix` — the suffixes that the check accepts;
* `snapshots_below_directory` — **where the snapshots of accepted settings lie**;
* `suffix_leads_out` — a suffix that leads out of the snapshot directory.
-/

namespace Tagging

open Tagging.Path (Ordinary)
open Text (isBlankText)

/-! ## Paths along names -/

/-- The path leads along ordinary names: neither from the root, nor up. -/
def Path.AlongNames (p : Path) : Prop := ∀ c ∈ p.components, ∃ name, Ordinary name ∧ c = .name name

namespace Path

/-- Such a path is relative, and its names are all that it means. -/
theorem AlongNames.exists_names {p : Path} (h : p.AlongNames) :
    ∃ names : List String, (∀ s ∈ names, Ordinary s) ∧ p.components = names.map .name ∧
      p.isAbsolute = false ∧ p.steps = names.map String.toList := by
  have hstart : p.split.1.component? = none := by
    cases hc : p.split.1.component? with
    | none => rfl
    | some c =>
      obtain ⟨name, -, rfl⟩ := h c (by rw [components_eq, hc]; simp)
      cases hsplit : p.split.1 <;> rw [hsplit] at hc <;> cases hc
  have hsteps : p.components = p.steps.map componentOfStep := by
    rw [components_eq, hstart]
    rfl
  have hnames : ∀ part ∈ p.steps, componentOfStep part = .name (String.ofList part) ∧
      Ordinary (String.ofList part) := by
    intro part hpart
    obtain ⟨name, hname, heq⟩ := h _ (by rw [hsteps]; exact List.mem_map_of_mem hpart)
    obtain ⟨rfl, -⟩ := eq_toList_of_componentOfStep heq
    rw [String.ofList_toList]
    exact ⟨heq, hname⟩
  refine ⟨p.steps.map String.ofList, ?_, ?_, ?_, ?_⟩
  · exact List.forall_mem_map.2 fun part hpart => (hnames part hpart).2
  · rw [hsteps, List.map_map]
    exact List.map_congr_left fun part hpart => (hnames part hpart).1
  · rw [Bool.eq_false_iff, Ne, ← split_eq_root_iff]
    intro hroot
    rw [hroot] at hstart
    cases hstart
  · have hback : String.toList ∘ String.ofList = id := funext fun _ => String.toList_ofList
    rw [List.map_map, hback, List.map_id]

/-- **It leads to a place below** the path that it is taken from, in every tree. -/
theorem AlongNames.goal_join {p : Path} {names : List String} (h : p.AlongNames)
    (heq : p.components = names.map .name) {α : Type} (t : FileTree α) (directory : Path) :
    t.goal (directory.join p) = t.goal directory ++ names := by
  obtain ⟨names', hnames, heq', hrelative, hsteps⟩ := h.exists_names
  have hinj : Function.Injective Component.name := fun _ _ h => Component.name.inj h
  obtain rfl : names' = names := List.map_injective_iff.2 hinj (heq'.symm.trans heq)
  rw [FileTree.goal_join t directory hrelative, hsteps, FileTree.foldl_stepInto hnames]

end Path

/-! ## Locations -/

section Location

variable {relativePath fileId suffix : String}

/-- **A location leads along names** if, and only if, its suffix does not lead up behind its first
separator. -/
theorem alongNames_snapshotLocation_iff (tag : Option String) :
    (snapshotLocation relativePath fileId suffix tag).AlongNames ↔
      ['.', '.'] ∉ (Path.cutSlashes suffix.toList).tail := by
  obtain ⟨first, more, hcut⟩ :=
    List.exists_cons_of_ne_nil (Path.cutSlashes_ne_nil suffix.toList)
  obtain ⟨hfirst, hmore⟩ := slash_not_mem_of_cut hcut
  rw [Path.AlongNames, components_snapshotLocation_of_cut hcut, hcut, List.tail_cons]
  constructor
  · intro h hup
    have hmem : Component.up ∈ more.filterMap Path.componentOf :=
      List.mem_filterMap.2 ⟨_, hup, rfl⟩
    obtain ⟨name, -, heq⟩ := h .up (List.mem_append_right _ hmem)
    cases heq
  · intro hup c hc
    rcases List.mem_append.1 hc with hfront | hback
    · obtain ⟨s, hs, rfl⟩ := List.mem_map.1 hfront
      exact ⟨s, ordinary_snapshotNames hfirst tag s hs, rfl⟩
    · obtain ⟨part, hpart, heq⟩ := List.mem_filterMap.1 hback
      have hne : part ≠ ['.', '.'] := fun heq => hup (heq ▸ hpart)
      unfold Path.componentOf at heq
      split_ifs at heq with hidle
      cases heq
      refine ⟨_, ⟨?_, ?_, ?_⟩, rfl⟩
      · rw [String.toList_ofList, Path.isStep]
        simpa using hidle
      · rwa [String.toList_ofList]
      · rw [String.toList_ofList]
        exact hmore part hpart

/-- A location is relative whatever its suffix. -/
theorem isAbsolute_snapshotLocation (tag : Option String) :
    (snapshotLocation relativePath fileId suffix tag).isAbsolute = false := by
  obtain ⟨first, more, hcut⟩ :=
    List.exists_cons_of_ne_nil (Path.cutSlashes_ne_nil suffix.toList)
  obtain ⟨hfirst, hmore⟩ := slash_not_mem_of_cut hcut
  rw [snapshotLocation_of_cut hcut]
  exact Path.isAbsolute_along (snapshotNames_ne_nil tag) (ordinary_snapshotNames hfirst tag) hmore

/-- It always means something. -/
theorem components_snapshotLocation_ne_nil (tag : Option String) :
    (snapshotLocation relativePath fileId suffix tag).components ≠ [] := by
  obtain ⟨first, more, hcut⟩ :=
    List.exists_cons_of_ne_nil (Path.cutSlashes_ne_nil suffix.toList)
  rw [components_snapshotLocation_of_cut hcut]
  exact List.append_ne_nil_of_left_ne_nil (by simp [snapshotNames_ne_nil]) _

end Location

/-! ## Accepted settings -/

/-- The settings with another suffix for snapshots. -/
def Settings.withSuffix (s : Settings) (suffix : String) : Settings :=
  { s with report := { s.report with snapshotSuffix := suffix } }

/-- **The check of a static report** accepts every suffix that is not blank. -/
theorem Settings.validate_withSuffix {s : Settings} (hvalid : s.validate = .ok ())
    (hmode : s.report.mode = "static") (suffix : String) :
    (s.withSuffix suffix).validate = .ok () ↔ isBlankText suffix = false := by
  obtain ⟨hwork, hsound⟩ := validate_eq_ok_iff.1 hvalid
  rw [validate_eq_ok_iff]
  constructor
  · rintro ⟨-, hsound'⟩
    exact hsound'.suffix hmode
  · intro hsuffix
    exact ⟨hwork, hsound.mode, hsound.output, hsound.base, fun _ => hsuffix⟩

/-- **Where the snapshots of accepted settings lie.**  Settings of a static report are accepted with
any suffix that is not blank.  Whatever the row and the tag, the location of a snapshot is relative;
it leads along ordinary names if, and only if, the suffix holds no double dot between or behind its
separators; and then the snapshot lies below the snapshot directory, wherever this is. -/
theorem snapshots_below_directory {s : Settings} (hvalid : s.validate = .ok ())
    (hmode : s.report.mode = "static") (suffix : String) :
    ((s.withSuffix suffix).validate = .ok () ↔ isBlankText suffix = false) ∧
    ∀ (relativePath fileId : String) (tag : Option String),
      let location := snapshotLocation relativePath fileId suffix tag
      location.isAbsolute = false ∧
      (location.AlongNames ↔ ['.', '.'] ∉ (Path.cutSlashes suffix.toList).tail) ∧
      (location.AlongNames → ∃ names : List String, names ≠ [] ∧ (∀ s ∈ names, Ordinary s) ∧
        location.components = names.map .name ∧
        ∀ (t : FileTree Content) (directory : Path),
          t.goal (directory.join location) = t.goal directory ++ names) := by
  refine ⟨Settings.validate_withSuffix hvalid hmode suffix, fun relativePath fileId tag => ?_⟩
  intro location
  refine ⟨isAbsolute_snapshotLocation tag, alongNames_snapshotLocation_iff tag, fun halong => ?_⟩
  obtain ⟨names, hnames, heq, -, -⟩ := halong.exists_names
  refine ⟨names, ?_, hnames, heq, fun t directory => halong.goal_join heq t directory⟩
  rintro rfl
  exact components_snapshotLocation_ne_nil tag heq

/-- A suffix with a separator and no double dot: the snapshot lies in a directory of its own. -/
theorem snapshots_below_directory_own_directory :
    let s : Settings := ⟨"info", ⟨4, 30⟩, ⟨10, 9, "one", "memory", none, 2000⟩,
      ⟨"static", ⟨"tags.xlsx"⟩, none, 9, "", ".html"⟩⟩
    s.validate = .ok () ∧ s.report.mode = "static" ∧
      (s.withSuffix "/page.html").validate = .ok () ∧
      (snapshotLocation "../docs/a.txt" "f" "/page.html" none).components =
        ["docs", "a.txt", "page.html"].map .name ∧
      ∀ t : FileTree Content, t.goal (Path.join ⟨"./tags_files"⟩
        (snapshotLocation "../docs/a.txt" "f" "/page.html" none)) =
          t.goal ⟨"./tags_files"⟩ ++ ["docs", "a.txt", "page.html"] := by
  intro s
  have hvalid : s.validate = .ok () := by decide +kernel
  obtain ⟨haccepted, hlocation⟩ := snapshots_below_directory hvalid rfl "/page.html"
  obtain ⟨-, halong, hbelow⟩ := hlocation "../docs/a.txt" "f" none
  have hcomponents : (snapshotLocation "../docs/a.txt" "f" "/page.html" none).components =
      ["docs", "a.txt", "page.html"].map .name := by decide +kernel
  obtain ⟨names, -, -, heq, hgoal⟩ := hbelow (halong.2 (by decide))
  have hinj : Function.Injective Component.name := fun _ _ h => Component.name.inj h
  obtain rfl : names = ["docs", "a.txt", "page.html"] :=
    List.map_injective_iff.2 hinj (heq.symm.trans hcomponents)
  exact ⟨hvalid, rfl, haccepted.2 (by decide +kernel), hcomponents, fun t => hgoal t _⟩

/-- **A suffix that leads out.**  The settings are accepted, the report of one row is written, and
its snapshot lies beside the report and not in the snapshot directory. -/
theorem suffix_leads_out :
    let s : Settings := ⟨"info", ⟨4, 30⟩, ⟨10, 9, "one", "memory", none, 2000⟩,
      ⟨"static", ⟨"tags.xlsx"⟩, none, 9, "", "/../../../out.html"⟩⟩
    let options : ReportOptions := ⟨⟨"tags.xlsx"⟩, .static "/../../../out.html", none, 9⟩
    let index : SearchIndex := Script.index
      ⟨[(0, Script.namedDocument "c-1" "a.txt" "docs/a.txt")], [], [], [], [], [], [], false⟩
    let queries : List NamedQuery := [⟨1, "One", "a", -1, -1⟩]
    let rows : List SortedRow := [⟨"c-1", 1, "a.txt", "docs/a.txt", some 0, [(1, 1)]⟩]
    let x : Writer := ⟨options, index, some .naming, false⟩
    let w : Workspace := ⟨⟨[(["work"], .directory)], ["work"]⟩, [], .sound⟩
    let location := snapshotLocation "docs/a.txt" "c-1" s.report.snapshotSuffix none
    s.validate = .ok () ∧ ReportOptions.ofSettings s.report = .ok options ∧
      Writer.new options index (some .naming) = .ok x ∧
      location.components =
        [.name "docs", .name "a.txt", .up, .up, .up, .name "out.html"] ∧ ¬ location.AlongNames ∧
      options.snapshotDirectory? = some ⟨"./tags_files"⟩ ∧
      (x.write queries rows w).2.2.isOk = true ∧
      (x.write queries rows w).2.1.tree.resolve (Path.join ⟨"./tags_files"⟩ location) =
        .ok ["work", "out.html"] ∧
      ((x.write queries rows w).2.1.tree.read? ⟨"out.html"⟩).bind Content.text? =
        some "<html><body>a.txt</body></html>" := by
  intro s options index queries rows x w location
  have hsettings : s.validate = .ok () ∧ ReportOptions.ofSettings s.report = .ok options ∧
      options.output.fileName? = some "tags.xlsx" ∧
      options.snapshotDirectory? = some ⟨"./tags_files"⟩ := by decide +kernel
  obtain ⟨hvalid, hoptions, hname, hdirectory⟩ := hsettings
  have hcomponents : location.components =
      [.name "docs", .name "a.txt", .up, .up, .up, .name "out.html"] := by decide +kernel
  have hwritten : (x.write queries rows w).2.2.isOk = true ∧
      (x.write queries rows w).2.1.tree.resolve (Path.join ⟨"./tags_files"⟩ location) =
        .ok ["work", "out.html"] ∧
      ((x.write queries rows w).2.1.tree.read? ⟨"out.html"⟩).bind Content.text? =
        some "<html><body>a.txt</body></html>" := by decide +kernel
  refine ⟨hvalid, hoptions, ?_, hcomponents, ?_, hdirectory, hwritten⟩
  · exact Writer.new_eq_ok.2 ⟨rfl, ⟨_, hname⟩, fun _ _ => ⟨_, rfl⟩⟩
  · intro halong
    obtain ⟨name, -, heq⟩ := halong .up (by rw [hcomponents]; simp)
    cases heq

end Tagging
