import Tagging.Index
import Tagging.Proofs.FileTree.Goals
import Tagging.Proofs.Report.Cells
import Tagging.Proofs.Report.Planning

/-!
# The files of a static report

Each snapshot of a static report lies below the snapshot directory, along names of its own, and no
later step touches it: so at the end it still holds what was rendered for its row.

* `goal_output`, `goal_snapshotDirectory`, `SnapshotPlan.Of.exists_names` — where a report and its
  snapshots lie;
* `placeSnapshot_eq_ok` — **one snapshot** is written at its place;
* `SnapshotsPut.writesAt`, `SnapshotsPut.stands` — **all snapshots** are, and stay;
* `Planned.stands`, `SnapshotsPut.files` — they stand beside the report, and no other file is
  written;
* `Writer.static_write_eq_ok`, `staticReport_of_write` — what a static report that succeeds has
  done;
* `snapshots_of_static_report` — **the files of a static report** and the links to them.
-/

namespace Tagging

open Tagging.Path (Ordinary)

/-! ## Where a report and its snapshots lie -/

section Goals

variable {α : Type} {options : ReportOptions} {s : String}

/-- The directory of a report takes all steps of its path but the last. -/
theorem steps_outputDirectory (hname : options.output.fileName? = some s) :
    options.outputDirectory.steps = options.output.steps.dropLast ∧
      options.outputDirectory.isAbsolute = options.output.isAbsolute := by
  have hne : options.output.steps ≠ [] := by
    rw [(Path.exists_steps_of_fileName? hname).2]
    simp
  obtain ⟨parent, hparent⟩ := Path.exists_parent?_of_steps hne
  have hsteps := Path.steps_of_parent? hparent
  have habs := Path.isAbsolute_of_parent? hparent
  unfold ReportOptions.outputDirectory
  rw [hparent]
  dsimp only
  split_ifs with hempty
  · rw [← hsteps, ← habs, show parent = ⟨""⟩ from congrArg Path.mk hempty]
    exact ⟨rfl, rfl⟩
  · exact ⟨hsteps, habs⟩

/-- **A report lies in its directory.** -/
theorem goal_output (t : FileTree α) (hname : options.output.fileName? = some s) :
    t.goal options.output = t.goal options.outputDirectory ++ [s] := by
  obtain ⟨hsteps, habs⟩ := steps_outputDirectory hname
  obtain ⟨hordinary, hlast⟩ := Path.exists_steps_of_fileName? hname
  have hbase : t.base options.outputDirectory = t.base options.output := by
    rw [FileTree.base, FileTree.base, habs]
  rw [FileTree.goal, FileTree.goal, hsteps, hlast, List.foldl_append, List.dropLast_concat, hbase,
    List.foldl_cons, List.foldl_nil, FileTree.stepInto, if_neg hordinary.noUp,
    String.ofList_toList]

theorem ofNames_singleton (name : String) : Path.ofNames [name] = ⟨name⟩ := by
  rw [Path.ofNames, List.map_singleton, Path.joinSlashes, String.ofList_toList]

/-- The name of a snapshot directory. -/
def snapshotDirectoryName (s : String) : String :=
  String.ofList (Path.stemOf s.toList) ++ ReportOptions.snapshotDirectorySuffix

theorem toList_snapshotDirectoryName (s : String) :
    (snapshotDirectoryName s).toList = Path.stemOf s.toList ++ "_files".toList := by
  rw [snapshotDirectoryName, String.toList_append, String.toList_ofList]
  rfl

theorem six_le_length_snapshotDirectoryName (s : String) :
    6 ≤ (snapshotDirectoryName s).toList.length := by
  rw [toList_snapshotDirectoryName, List.length_append]
  exact Nat.le_add_left 6 _

theorem ordinary_snapshotDirectoryName (h : Ordinary s) : Ordinary (snapshotDirectoryName s) := by
  have hlength := six_le_length_snapshotDirectoryName s
  refine ⟨Path.isStep_iff.2 ⟨?_, ?_⟩, ?_, ?_⟩
  · intro heq
    rw [heq] at hlength
    exact absurd hlength (by decide)
  · intro heq
    rw [heq] at hlength
    exact absurd hlength (by decide)
  · intro heq
    rw [heq] at hlength
    exact absurd hlength (by decide)
  · rw [toList_snapshotDirectoryName, List.mem_append, not_or]
    refine ⟨fun hslash => h.noSlash ?_, by decide⟩
    rcases Path.stemOf_cases s.toList with hstem | ⟨extension, hname⟩
    · rwa [hstem] at hslash
    · rw [hname]
      exact List.mem_append_left _ hslash

variable {suffix : String} {directory : Path}

theorem snapshotDirectory_eq_join (hmode : options.mode = .static suffix)
    (hname : options.output.fileName? = some s)
    (hdirectory : options.snapshotDirectory? = some directory) :
    directory = options.outputDirectory.join (.ofNames [snapshotDirectoryName s]) ∧
      ∀ name ∈ [snapshotDirectoryName s], Ordinary name := by
  rw [Writer.snapshotDirectory?_eq hmode hname] at hdirectory
  cases hdirectory
  obtain ⟨hordinary, -⟩ := Path.exists_steps_of_fileName? hname
  refine ⟨by rw [ofNames_singleton]; rfl, fun name hmem => ?_⟩
  rw [List.mem_singleton.1 hmem]
  exact ordinary_snapshotDirectoryName hordinary

/-- The snapshot directory takes the steps of the directory of the report, and its own name. -/
theorem steps_snapshotDirectory (hmode : options.mode = .static suffix)
    (hname : options.output.fileName? = some s)
    (hdirectory : options.snapshotDirectory? = some directory) :
    directory.steps = options.outputDirectory.steps ++ [(snapshotDirectoryName s).toList] ∧
      directory.isAbsolute = options.outputDirectory.isAbsolute := by
  obtain ⟨hjoin, hnames⟩ := snapshotDirectory_eq_join hmode hname hdirectory
  have hrelative := Path.isAbsolute_ofNames hnames
  rw [hjoin, Path.steps_join hrelative, Path.steps_ofNames hnames, Path.isAbsolute_join hrelative,
    List.map_singleton]
  exact ⟨rfl, rfl⟩

theorem fileName?_snapshotDirectory (hmode : options.mode = .static suffix)
    (hname : options.output.fileName? = some s)
    (hdirectory : options.snapshotDirectory? = some directory) :
    directory.fileName? = some (snapshotDirectoryName s) :=
  Path.fileName?_of_steps
    (ordinary_snapshotDirectoryName (Path.exists_steps_of_fileName? hname).1)
    (steps_snapshotDirectory hmode hname hdirectory).1

/-- **Snapshots lie beside the report.** -/
theorem goal_snapshotDirectory (t : FileTree α) (hmode : options.mode = .static suffix)
    (hname : options.output.fileName? = some s)
    (hdirectory : options.snapshotDirectory? = some directory) :
    t.goal directory = t.goal options.outputDirectory ++ [snapshotDirectoryName s] := by
  obtain ⟨hjoin, hnames⟩ := snapshotDirectory_eq_join hmode hname hdirectory
  rw [hjoin, FileTree.goal_join_ofNames t options.outputDirectory hnames]

theorem text_snapshotDirectory_ne (hmode : options.mode = .static suffix)
    (hname : options.output.fileName? = some s)
    (hdirectory : options.snapshotDirectory? = some directory) : directory.text ≠ "" := by
  intro hempty
  have hsteps := (steps_snapshotDirectory hmode hname hdirectory).1
  rw [show directory = ⟨""⟩ from congrArg Path.mk hempty, Path.steps_empty] at hsteps
  simp at hsteps

end Goals

/-! ## Writing snapshots -/

/-- **One snapshot** is written at the goal of its path. -/
theorem placeSnapshot_eq_ok {disk : Disk Content} {t t' : FileTree Content} {path : Path}
    {text : String} (h : placeSnapshot disk t path text = (t', .ok ())) :
    t.WritesAt t' [t.goal path] ∧ t'.resolve path = .ok (t.goal path) ∧
      t'.get? (t.goal path) = some (.file (.text text)) := by
  unfold placeSnapshot at h
  dsimp only at h
  split at h
  · cases h
  rename_i t₁ hmade
  split at h
  case h_2 => cases h
  rename_i t₂ hwrite
  cases h
  have hwritten := (FileTree.writeOn_eq_ok.1 hwrite).2
  have hadds := FileTree.makeDirectories_adds hmade
  have hgoal := FileTree.goal_congr hadds.current path
  have hwrites := FileTree.writesAt_of_writeFile hwritten
  obtain ⟨hne, -, rfl, hresolve⟩ := FileTree.writeFile_eq_put hwritten
  rw [hgoal] at hwrites hne hresolve ⊢
  refine ⟨hadds.writesAt.trans hwrites, hresolve, ?_⟩
  rw [FileTree.get?_put hne, if_pos rfl]

/-- The place of a snapshot. -/
def SnapshotPlan.place (t : FileTree Content) (directory : Path) (plan : SnapshotPlan) : Place :=
  t.goal (directory.join plan.location)

/-- What is noted for a row: that its document is opened and rendered, if it has a snapshot. -/
def snapshotEvents (index : SearchIndex) (queries : List NamedQuery) (r : SortedRow) :
    Option SnapshotPlan → List Event
  | none => []
  | some plan =>
    .opened plan.address ::
      match index.document plan.address with
      | .answer d => [.rendered d.fileId ((matchedQueries queries r).map NamedQuery.id)]
      | _ => []

/-- The snapshot of a row is a file with what was rendered for it. -/
structure SnapshotStands (index : SearchIndex) (renderer : Renderer) (queries : List NamedQuery)
    (t : FileTree Content) (path : Path) (place : Place) (r : SortedRow) (plan : SnapshotPlan) :
    Prop where
  /-- Its path leads to its place. -/
  resolve : t.resolve path = .ok place
  /-- There stands a file with the document of the row, rendered for the queries that matched. -/
  content : ∃ d text, index.document plan.address = .answer d ∧
    renderer.render d (matchedQueries queries r) = .answer text ∧
    t.get? place = some (.file (.text text))

namespace SnapshotsPut

variable {index : SearchIndex} {renderer : Renderer} {directory : Path} {queries : List NamedQuery}
  {w w' : Workspace} {rows : List SortedRow} {plans : List (Option SnapshotPlan)}

/-- **Snapshots are written at their places** only. -/
theorem writesAt (h : SnapshotsPut index renderer directory queries w rows plans w') :
    w.tree.WritesAt w'.tree (plans.reduceOption.map (SnapshotPlan.place w.tree directory)) := by
  induction h with
  | nil w => exact .refl w.tree
  | skip _ ih => simpa using ih
  | @put w w₁ w' r rest plan plans now _ ih =>
    obtain ⟨d, text, -, -, hplaced, -⟩ := putSnapshot_eq_ok now
    obtain ⟨hwrites, -, -⟩ := placeSnapshot_eq_ok hplaced
    have hplace : SnapshotPlan.place w₁.tree directory = SnapshotPlan.place w.tree directory := by
      funext plan
      exact FileTree.goal_congr hwrites.current _
    rw [hplace] at ih
    rw [List.reduceOption_cons_of_some, List.map_cons]
    exact hwrites.trans ih

/-- Nothing is noted for rows without a snapshot. -/
theorem journal (h : SnapshotsPut index renderer directory queries w rows plans w') :
    w'.journal = w.journal ++ (List.zipWith (snapshotEvents index queries) rows plans).flatten := by
  induction h with
  | nil w => simp
  | skip _ ih =>
    rw [ih]
    rfl
  | @put w w₁ w' r rest plan plans now _ ih =>
    obtain ⟨d, text, hread, -, -, hjournal⟩ := putSnapshot_eq_ok now
    rw [ih, hjournal, List.zipWith_cons_cons, List.flatten_cons, snapshotEvents, hread,
      List.append_assoc]

/-- **Snapshots stand at the end**, if no two of them have one place. -/
theorem stands (h : SnapshotsPut index renderer directory queries w rows plans w')
    (hnodup : (plans.reduceOption.map (SnapshotPlan.place w.tree directory)).Nodup) {i : Nat}
    {plan : SnapshotPlan} (hplan : plans[i]? = some (some plan)) :
    ∃ r, rows[i]? = some r ∧
      SnapshotStands index renderer queries w'.tree (directory.join plan.location)
        (plan.place w.tree directory) r plan := by
  induction h generalizing i with
  | nil w => cases hplan
  | skip _ ih =>
    cases i with
    | zero => cases hplan
    | succ i => exact ih (by simpa using hnodup) hplan
  | @put w w₁ w' r rest first plans now later ih =>
    obtain ⟨d, text, hread, hrender, hplaced, -⟩ := putSnapshot_eq_ok now
    obtain ⟨hwrites, hresolve, hcontent⟩ := placeSnapshot_eq_ok hplaced
    have hplace : SnapshotPlan.place w₁.tree directory = SnapshotPlan.place w.tree directory := by
      funext plan
      exact FileTree.goal_congr hwrites.current _
    rw [List.reduceOption_cons_of_some, List.map_cons, List.nodup_cons] at hnodup
    obtain ⟨hnew, hrest⟩ := hnodup
    have hlater := later.writesAt
    rw [hplace] at ih hlater
    cases i with
    | zero =>
      -- no later snapshot is written at this place
      cases hplan
      exact ⟨r, rfl, hlater.resolve hresolve, d, text, hread, hrender,
        (hlater.file hnew).2 hcontent⟩
    | succ i => exact ih hrest hplan

end SnapshotsPut

/-! ## Static reports -/

section Static

variable {options : ReportOptions} {suffix : String} {index : SearchIndex} {given : Option Renderer}
  {x y : Writer} {queries : List NamedQuery} {rows : List SortedRow} {w w' v : Workspace}
  {directory : Path} {plans : List (Option SnapshotPlan)} {artifact : Artifact}

/-- A row with a snapshot has its link in the first column, and no other. -/
theorem snapshotLinks_getElem? {plan : Option SnapshotPlan} {column : Nat} {url : String} :
    (snapshotLinks queries plan)[column]? = some (some url) ↔
      column = 0 ∧ ∃ taken, plan = some taken ∧ taken.link = url := by
  have hnone : ∀ c : Nat,
      (none :: (queries.map fun _ => (none : Option String)) ++ [none])[c]? ≠ some (some url) := by
    intro c h
    have hmem := List.mem_of_getElem? h
    simp at hmem
  cases column with
  | zero => simp [snapshotLinks, columns, Option.map_eq_some_iff]
  | succ c => exact iff_of_false (hnone c) (fun h => absurd h.1 (Nat.succ_ne_zero c))

/-- **The linked cells of a static report** are those of the rows with snapshots. -/
theorem linked_iff_snapshot (hlength : plans.length = rows.length) {sheet : Sheet}
    (h : layout queries (List.zipWith PlannedRow.withSnapshot rows plans) = .ok sheet)
    (i column : Nat) (link : StoredLink) :
    (∃ c ∈ sheet.cells, c.Stands (i + 1) column (some link)) ↔
      column = 0 ∧ ∃ plan own, plans[i]? = some (some plan) ∧
        storeLink? plan.link = some (link, own) := by
  rw [linked_iff (shows_withSnapshot hlength) h, map_columnLinks_withSnapshot hlength]
  constructor
  · rintro ⟨links, url, own, hi, hurl, hstored⟩
    rw [List.getElem?_map, Option.map_eq_some_iff] at hi
    obtain ⟨plan, hplan, rfl⟩ := hi
    obtain ⟨rfl, taken, rfl, rfl⟩ := snapshotLinks_getElem?.1 hurl
    exact ⟨rfl, taken, own, hplan, hstored⟩
  · rintro ⟨rfl, plan, own, hplan, hstored⟩
    refine ⟨snapshotLinks queries (some plan), plan.link, own, ?_, ?_, hstored⟩
    · rw [List.getElem?_map, hplan]
      rfl
    · exact snapshotLinks_getElem?.2 ⟨rfl, plan, rfl, rfl⟩

/-- **The snapshot directory** is there when it was made. -/
theorem prepareDirectory_eq_ok (hdirectory : x.options.snapshotDirectory? = some directory)
    (h : x.prepareDirectory w = (w', .ok ())) :
    w.tree.makeDirectories directory = (w'.tree, .ok ()) ∧ w'.journal = w.journal := by
  unfold Writer.prepareDirectory at h
  rw [hdirectory] at h
  dsimp only at h
  split at h
  · rename_i hmade
    cases h
    exact ⟨hmade, rfl⟩
  · cases h

/-- **A snapshot lies below the snapshot directory**, along ordinary names. -/
theorem SnapshotPlan.Of.exists_names {r : SortedRow} {plan : SnapshotPlan}
    (h : plan.Of directory suffix r) (hsuffix : '/' ∉ suffix.toList) (t : FileTree Content) :
    ∃ names, names ≠ [] ∧ (∀ s ∈ names, Ordinary s) ∧ plan.location = .ofNames names ∧
      plan.place t directory = t.goal directory ++ names := by
  obtain ⟨tag, htag⟩ := h.location
  refine ⟨snapshotNames r.relativePath r.fileId suffix tag, snapshotNames_ne_nil tag,
    ordinary_snapshotNames hsuffix tag, htag, ?_⟩
  rw [SnapshotPlan.place, htag]
  exact FileTree.goal_join_ofNames t directory (ordinary_snapshotNames hsuffix tag)

/-- Snapshots that are planned from some rows, no two at one location. -/
structure Planned (directory : Path) (suffix : String) (rows : List SortedRow)
    (plans : List (Option SnapshotPlan)) : Prop where
  /-- Each is planned from its row. -/
  of : ∀ {i : Nat} {plan : SnapshotPlan}, plans[i]? = some (some plan) →
    ∃ r, rows[i]? = some r ∧ plan.Of directory suffix r
  /-- No two lie at one location. -/
  distinct : plans.reduceOption.Pairwise fun p q => p.location.components ≠ q.location.components

theorem planned_keepFirst (n : Nat) (directory : Path) (suffix : String)
    (rows : List SortedRow) :
    Planned directory suffix rows (keepFirst n (snapshotPlans directory suffix [] rows)) := by
  refine ⟨fun hi => of_snapshotPlans (getElem?_of_keepFirst hi), ?_⟩
  rw [reduceOption_keepFirst]
  exact (pairwise_snapshotPlans []).1.sublist (List.take_sublist _ _)

namespace Planned

variable {renderer : Renderer} {t : FileTree Content} {content : Content} {s : String}
  (h : Planned directory suffix rows plans) (hsuffix : '/' ∉ suffix.toList)
include h hsuffix

/-- Snapshots at different locations have different places. -/
theorem nodup_places (t : FileTree Content) :
    (plans.reduceOption.map (SnapshotPlan.place t directory)).Nodup := by
  have hof : ∀ plan ∈ plans.reduceOption, ∃ r : SortedRow, plan.Of directory suffix r := by
    intro plan hplan
    obtain ⟨i, hi⟩ := List.mem_iff_getElem?.1 (List.reduceOption_mem_iff.1 hplan)
    obtain ⟨r, -, hr⟩ := h.of hi
    exact ⟨r, hr⟩
  rw [List.Nodup, List.pairwise_map]
  refine h.distinct.imp_of_mem fun {p q} hp hq hne heq => hne ?_
  obtain ⟨r, hr⟩ := hof p hp
  obtain ⟨r', hr'⟩ := hof q hq
  obtain ⟨names, -, -, hlocation, hplace⟩ := hr.exists_names hsuffix t
  obtain ⟨names', -, -, hlocation', hplace'⟩ := hr'.exists_names hsuffix t
  rw [hplace, hplace'] at heq
  rw [hlocation, hlocation', List.append_cancel_left heq]

/-- **Snapshots stand** when the report is saved: it lies beside their directory, not below it. -/
theorem stands (hmode : options.mode = .static suffix) (hname : options.output.fileName? = some s)
    (hdirectory : options.snapshotDirectory? = some directory)
    (hput : SnapshotsPut index renderer directory queries w rows plans w')
    (hsave : w'.tree.writeFile options.output content = .ok t) {i : Nat} {plan : SnapshotPlan}
    (hi : plans[i]? = some (some plan)) :
    ∃ r, rows[i]? = some r ∧ plan.Of directory suffix r ∧
      SnapshotStands index renderer queries t (directory.join plan.location)
        (plan.place w.tree directory) r plan := by
  have hlast := FileTree.writesAt_of_writeFile hsave
  obtain ⟨r, hr, hresolved, d, text, hread, hrender, hcontent⟩ :=
    hput.stands (h.nodup_places hsuffix w.tree) hi
  obtain ⟨r', hr', hof⟩ := h.of hi
  obtain rfl : r' = r := Option.some.inj (hr'.symm.trans hr)
  refine ⟨r', hr, hof, hlast.resolve hresolved, d, text, hread, hrender,
    (hlast.file ?_).2 hcontent⟩
  obtain ⟨names, hne, -, -, heq⟩ := hof.exists_names hsuffix w.tree
  rw [heq, FileTree.goal_congr hput.writesAt.current, goal_output _ hname,
    goal_snapshotDirectory _ hmode hname hdirectory, List.mem_singleton]
  intro hsame
  have hlen := congrArg List.length hsame
  have hpos := List.length_pos_of_ne_nil hne
  simp only [List.length_append, List.length_singleton] at hlen
  omega

end Planned

/-- **No other file is written** than the snapshots and the report. -/
theorem SnapshotsPut.files {renderer : Renderer} {t : FileTree Content} {sheet : Content}
    {output : Path} (h : SnapshotsPut index renderer directory queries w rows plans w')
    (hsave : w'.tree.writeFile output sheet = .ok t)
    (hstands : ∀ {i : Nat} {plan : SnapshotPlan}, plans[i]? = some (some plan) →
      t.resolve (directory.join plan.location) = .ok (plan.place w.tree directory))
    {p : Place} {content : Content} (hp : t.get? p = some (.file content)) :
    w.tree.get? p = some (.file content) ∨ t.resolve output = .ok p ∨
      ∃ plan ∈ plans.reduceOption, t.resolve (directory.join plan.location) = .ok p := by
  obtain ⟨-, -, -, houtput⟩ := FileTree.writeFile_eq_put hsave
  by_cases hreport : p = w'.tree.goal output
  · exact .inr (.inl (hreport ▸ houtput))
  by_cases hin : p ∈ plans.reduceOption.map (SnapshotPlan.place w.tree directory)
  · obtain ⟨plan, hplan, rfl⟩ := List.mem_map.1 hin
    obtain ⟨i, hi⟩ := List.mem_iff_getElem?.1 (List.reduceOption_mem_iff.1 hplan)
    exact .inr (.inr ⟨plan, hplan, hstands hi⟩)
  · left
    have hbefore := ((FileTree.writesAt_of_writeFile hsave).file (by simpa using hreport)).1 hp
    exact (h.writesAt.file hin).1 hbefore

/-- The files of a static report that succeeds, told by the snapshots that are planned for the rows
that it shows. -/
structure StaticReport (options : ReportOptions) (suffix : String) (index : SearchIndex)
    (renderer : Renderer) (directory : Path) (queries : List NamedQuery) (shown : List SortedRow)
    (plans : List (Option SnapshotPlan)) (sheet : Sheet) (w v : Workspace) : Prop where
  /-- The rows have the links of their snapshots. -/
  laid : layout queries (List.zipWith PlannedRow.withSnapshot shown plans) = .ok sheet
  /-- The report is there. -/
  report : v.tree.read? options.output = some (.sheet sheet)
  /-- Relative paths begin in the same place. -/
  current : v.tree.current = w.tree.current
  /-- The directory of the snapshots is there, too. -/
  place : v.tree.resolve directory = .ok (w.tree.goal directory)
  /-- Each snapshot is planned from its row and stands at its place. -/
  stands : ∀ {i : Nat} {plan : SnapshotPlan}, plans[i]? = some (some plan) →
    ∃ r, shown[i]? = some r ∧ plan.Of directory suffix r ∧
      SnapshotStands index renderer queries v.tree (directory.join plan.location)
        (plan.place w.tree directory) r plan
  /-- No two lie at one location. -/
  distinct : plans.reduceOption.Pairwise fun p q => p.location.components ≠ q.location.components
  /-- Nothing is noted but what they need. -/
  journal : v.journal = w.journal ++
    (List.zipWith (snapshotEvents index queries) shown plans).flatten
  /-- No other file is written but the report. -/
  files : ∀ p content, v.tree.get? p = some (.file content) →
    w.tree.get? p = some (.file content) ∨ v.tree.resolve options.output = .ok p ∨
      ∃ plan ∈ plans.reduceOption, v.tree.resolve (directory.join plan.location) = .ok p

/-- **A static report that succeeds** has made its directory, put the first of the snapshots that
are planned into it, and saved its sheet. -/
theorem Writer.static_write_eq_ok (hmode : options.mode = .static suffix)
    (hnew : Writer.new options index given = .ok x)
    (hwrite : x.write queries rows w = (y, v, .ok artifact)) :
    ∃ directory renderer plans sheet w₁ w₂,
      plans = keepFirst options.maxHyperlinks
        (snapshotPlans directory suffix [] (rows.take (options.shown rows.length))) ∧
      options.snapshotDirectory? = some directory ∧ given = some renderer ∧
      artifact.snapshotsWritten = plans.reduceOption.length ∧
      w.tree.makeDirectories directory = (w₁.tree, .ok ()) ∧ w₁.journal = w.journal ∧
      SnapshotsPut index renderer directory queries w₁ (rows.take (options.shown rows.length)) plans
        w₂ ∧
      layout queries (List.zipWith PlannedRow.withSnapshot
        (rows.take (options.shown rows.length)) plans) = .ok sheet ∧
      w₂.tree.writeFile options.output (.sheet sheet) = .ok v.tree ∧ v.journal = w₂.journal := by
  obtain ⟨rfl, -, -⟩ := Writer.new_eq_ok.1 hnew
  obtain ⟨w₁, w₂, planned, used, sheet, tree, hprepare, hplan, hlayout, hsave, rfl, rfl⟩ :=
    Writer.write_eq_ok hwrite
  obtain ⟨directory, renderer, hdirectory, rfl, rfl, -, htaken, hput⟩ :=
    Writer.planRows_static_spec hnew hmode hplan
  rw [← List.length_take, ← reduceOption_keepFirst] at htaken
  obtain ⟨hmade, hjournal⟩ := prepareDirectory_eq_ok hdirectory hprepare
  exact ⟨directory, renderer, _, sheet, w₁, w₂, rfl, hdirectory, rfl, htaken, hmade, hjournal, hput,
    hlayout, hsave, rfl⟩

/-- The directory of the snapshots is there at the end. -/
theorem isDirectory_of_static_write {renderer : Renderer} {w₁ w₂ : Workspace} {s : String}
    {t : FileTree Content} {content : Content} (hmode : options.mode = .static suffix)
    (hname : options.output.fileName? = some s)
    (hdirectory : options.snapshotDirectory? = some directory)
    (hmade : w.tree.makeDirectories directory = (w₁.tree, .ok ()))
    (hput : SnapshotsPut index renderer directory queries w₁ rows plans w₂)
    (hsave : w₂.tree.writeFile options.output content = .ok t) :
    t.isDirectory directory = true := by
  have hisdir := FileTree.isDirectory_of_makeDirectories hmade
    (text_snapshotDirectory_ne hmode hname hdirectory)
  exact (FileTree.writesAt_of_writeFile hsave).isDirectory (hput.writesAt.isDirectory hisdir)

/-- **A static report that succeeds** has written the first of the snapshots that are planned. -/
theorem staticReport_of_write (hmode : options.mode = .static suffix)
    (hsuffix : '/' ∉ suffix.toList) (hnew : Writer.new options index given = .ok x)
    (hwrite : x.write queries rows w = (y, v, .ok artifact)) :
    ∃ directory renderer sheet, options.snapshotDirectory? = some directory ∧
      given = some renderer ∧
      artifact.snapshotsWritten = (keepFirst options.maxHyperlinks
        (snapshotPlans directory suffix []
          (rows.take (options.shown rows.length)))).reduceOption.length ∧
      StaticReport options suffix index renderer directory queries
        (rows.take (options.shown rows.length)) (keepFirst options.maxHyperlinks
          (snapshotPlans directory suffix []
            (rows.take (options.shown rows.length)))) sheet w v := by
  obtain ⟨-, ⟨s, hname⟩, -⟩ := Writer.new_eq_ok.1 hnew
  obtain ⟨directory, renderer, plans, sheet, w₁, w₂, hplans, hdirectory, rfl, htaken, hmade,
    hjournal, hput, hlayout, hsave, hnoted⟩ := Writer.static_write_eq_ok hmode hnew hwrite
  generalize rows.take (options.shown rows.length) = shown at *
  have hplanned := planned_keepFirst options.maxHyperlinks directory suffix shown
  rw [← hplans] at hplanned
  -- directories are made, snapshots are written, and then the report
  have hadds := FileTree.makeDirectories_adds hmade
  have hwrites := hput.writesAt
  have hlast := FileTree.writesAt_of_writeFile hsave
  have hisdir := isDirectory_of_static_write hmode hname hdirectory hmade hput hsave
  have hcurrent : v.tree.current = w.tree.current :=
    hlast.current.trans (hwrites.current.trans hadds.current)
  have hstands := fun {i : Nat} {plan : SnapshotPlan} (hi : plans[i]? = some (some plan)) =>
    hplanned.stands hsuffix hmode hname hdirectory hput hsave hi
  have hplace : SnapshotPlan.place w₁.tree directory = SnapshotPlan.place w.tree directory :=
    funext fun plan => FileTree.goal_congr hadds.current _
  refine ⟨directory, renderer, sheet, hdirectory, rfl, ?_⟩
  rw [← hplans]
  refine ⟨htaken, hlayout, FileTree.read?_writeFile hsave, hcurrent, ?_, fun hi => ?_,
    hplanned.distinct, ?_, fun p content hp => ?_⟩
  · rw [← FileTree.goal_congr hcurrent]
    exact (FileTree.get?_goal_of_isDirectory hisdir).1
  · rw [← hplace]
    exact hstands hi
  · rw [hnoted, hput.journal, hjournal]
  · have hresolves : ∀ {i : Nat} {plan : SnapshotPlan}, plans[i]? = some (some plan) →
        v.tree.resolve (directory.join plan.location) = .ok (plan.place w₁.tree directory) := by
      intro i plan hi
      obtain ⟨r, -, -, hstand⟩ := hstands hi
      exact hstand.resolve
    exact (hput.files hsave hresolves hp).imp hadds.file id

/-- **The files of a static report.**  Some of the rows that it shows have snapshots, and these are
the rows with links, each link leading to the snapshot.  No two snapshots lie at one location; each
lies below the snapshot directory along ordinary names, and holds the document of its row, rendered
for the queries that matched.  Nothing is read or rendered for any other row, and no other file is
written but the report. -/
theorem snapshots_of_static_report (hmode : options.mode = .static suffix)
    (hsuffix : '/' ∉ suffix.toList) (hnew : Writer.new options index given = .ok x)
    (hwrite : x.write queries rows w = (y, v, .ok artifact)) :
    ∃ (directory : Path) (renderer : Renderer) (sheet : Sheet) (place : Place)
      (plans : List (Option SnapshotPlan)),
      options.snapshotDirectory? = some directory ∧ given = some renderer ∧
      v.tree.read? options.output = some (.sheet sheet) ∧
      v.tree.resolve directory = .ok place ∧
      plans.length = (rows.take (options.shown rows.length)).length ∧
      (∀ i column link, (∃ c ∈ sheet.cells, c.Stands (i + 1) column (some link)) ↔
        column = 0 ∧ ∃ plan own, plans[i]? = some (some plan) ∧
          storeLink? plan.link = some (link, own)) ∧
      artifact.snapshotsWritten = plans.reduceOption.length ∧
      plans.reduceOption.Pairwise (fun p q => p.location.components ≠ q.location.components) ∧
      (∀ (i : Nat) plan, plans[i]? = some (some plan) →
        ∃ (row : SortedRow) (names : List String), rows[i]? = some row ∧
          plan.Of directory suffix row ∧ names ≠ [] ∧ (∀ s ∈ names, Ordinary s) ∧
          plan.location.components = names.map .name ∧
          SnapshotStands index renderer queries v.tree (directory.join plan.location)
            (place ++ names) row plan) ∧
      v.journal = w.journal ++ (List.zipWith (snapshotEvents index queries)
        (rows.take (options.shown rows.length)) plans).flatten ∧
      ∀ p content, v.tree.get? p = some (.file content) →
        w.tree.get? p = some (.file content) ∨ v.tree.resolve options.output = .ok p ∨
          ∃ plan ∈ plans.reduceOption, v.tree.resolve (directory.join plan.location) = .ok p := by
  obtain ⟨directory, renderer, sheet, hdirectory, hgiven, hcount, hreport⟩ :=
    staticReport_of_write hmode hsuffix hnew hwrite
  have hlength : (keepFirst options.maxHyperlinks (snapshotPlans directory suffix []
      (rows.take (options.shown rows.length)))).length =
        (rows.take (options.shown rows.length)).length := by
    rw [length_keepFirst, length_snapshotPlans]
  refine ⟨directory, renderer, sheet, w.tree.goal directory, _, hdirectory, hgiven, hreport.report,
    hreport.place, hlength, linked_iff_snapshot hlength hreport.laid, hcount,
    hreport.distinct, ?_, hreport.journal, hreport.files⟩
  intro i plan hi
  obtain ⟨r, hr, hrof, hstand⟩ := hreport.stands hi
  obtain ⟨names, hne, hnames, hlocation, heq⟩ := hrof.exists_names hsuffix w.tree
  have hcomponents : plan.location.components = names.map .name := by
    rw [hlocation, Path.components_ofNames hnames]
  rw [heq] at hstand
  refine ⟨r, names, ?_, hrof, hne, hnames, hcomponents, hstand⟩
  rw [List.getElem?_take] at hr
  split_ifs at hr
  exact hr

end Static

/-- Two files with the same path, and a third one whose document is not known. -/
theorem snapshots_of_static_report_one_path :
    let options : ReportOptions := ⟨⟨"tags.xlsx"⟩, .static ".html", none, 9⟩
    let index : SearchIndex := Script.index ⟨[(0, Script.plainDocument "f"),
      (1, Script.plainDocument "g")], [], [], [], [], [], [], false⟩
    let queries : List NamedQuery := [⟨1, "one", "a", -1, -1⟩]
    let rows : List SortedRow := [⟨"f", 1, "f.txt", "../a#b", some 0, [(1, 1)]⟩,
      ⟨"g", 1, "g.txt", "/a#b", some 1, [(1, 1)]⟩, ⟨"h", 1, "h.txt", "c", none, [(1, 1)]⟩]
    let w : Workspace := ⟨⟨[(["work"], .directory)], ["work"]⟩, [], .sound⟩
    ∃ x y v artifact, Writer.new options index (some .naming) = .ok x ∧
      x.write queries rows w = (y, v, .ok artifact) ∧ artifact.snapshotsWritten = 2 ∧
      ∃ (directory : Path) (place : Place) (plans : List (Option SnapshotPlan)),
        v.tree.resolve directory = .ok place ∧ plans.reduceOption.length = 2 ∧
        ∀ (i : Nat) plan, plans[i]? = some (some plan) →
          ∃ names, names ≠ [] ∧
            v.tree.resolve (directory.join plan.location) = .ok (place ++ names) := by
  intro options index queries rows w
  have hname : options.output.fileName? = some "tags.xlsx" := by decide +kernel
  have hnew : Writer.new options index (some .naming) =
      .ok ⟨options, index, some .naming, false⟩ :=
    Writer.new_eq_ok.2 ⟨rfl, ⟨_, hname⟩, fun _ _ => ⟨_, rfl⟩⟩
  have hok : (Writer.write ⟨options, index, some .naming, false⟩ queries rows w).2.2.toOption.map
      Artifact.snapshotsWritten = some 2 := by
    decide +kernel
  rcases hwrite : Writer.write ⟨options, index, some .naming, false⟩ queries rows w with
    ⟨y, v, f | artifact⟩
  · rw [hwrite] at hok
    cases hok
  rw [hwrite] at hok
  have htwo : artifact.snapshotsWritten = 2 := Option.some.inj hok
  obtain ⟨directory, renderer, sheet, place, plans, -, -, -, hplace, -, -, hcount, -, hstands, -⟩ :=
    snapshots_of_static_report rfl (by decide) hnew hwrite
  refine ⟨_, y, v, artifact, hnew, hwrite, htwo, directory, place, plans, hplace,
    hcount.symm.trans htwo, ?_⟩
  intro i plan hi
  obtain ⟨row, names, -, -, hne, -, -, hstand⟩ := hstands i plan hi
  exact ⟨names, hne, hstand.resolve⟩

end Tagging
