import Tagging.Proofs.FileTree.Removing
import Tagging.Proofs.Report.SnapshotFiles

/-!
# What a report that fails leaves

A report that fails is undone: the report, which the device may have stopped half-way, is removed,
and the snapshot directory if the way to it led nowhere before.  But making this directory can open
ways that were closed: a double dot behind a directory that is made leads to what was there all the
time, and this is then removed, too.

* `placeSnapshot_below`, `Writer.attempt_of_emit` — whatever fails, **a report changes nothing but
  what is below its snapshot directory** and, if the sheet is being saved, the report itself;
* `LeavesNothing` — nothing is left but directories on the way to the snapshots;
* `OpensNothing` — making the snapshot directory brings nothing to light that was there before;
* `nothing_left_of_failed_report` — **a report that fails leaves nothing** just in this case, as it
  does if its path leads nowhere up or its directory is there;
* `earlier_report_removed` — a report that fails removes an earlier one.
-/

namespace Tagging

open Tagging.Path (Ordinary)

/-! ## What a report changes -/

section Attempts

/-- **A snapshot changes nothing** but what is below the snapshot directory, also if it fails. -/
theorem placeSnapshot_below {t : FileTree Content} {directory : Path} {names : List String}
    (hdirectory : t.isDirectory directory = true) (hnames : ∀ s ∈ names, Ordinary s)
    (hne : names ≠ []) (disk : Disk Content) (text : String) :
    t.ChangesBelow (placeSnapshot disk t (directory.join (.ofNames names)) text).1
      (t.goal directory) := by
  have hgoal := FileTree.goal_join_ofNames t directory hnames
  have hsteps : (directory.join (.ofNames names)).steps ≠ [] := by
    rw [Path.steps_join (Path.isAbsolute_ofNames hnames), Path.steps_ofNames hnames]
    simp [hne]
  obtain ⟨parent, hparent⟩ := Path.exists_parent?_of_steps hsteps
  -- the directory is there, so what is missing on the way is below it
  have hmissing : ∀ {p : Place}, t.OnWay parent p → t.get? p = none →
      t.goal directory <+: p ∧ p ≠ t.goal directory := by
    intro p hp hnone
    have hway := (FileTree.onWay_iff_of_dropLast (Path.steps_of_parent? hparent)
      (Path.isAbsolute_of_parent? hparent)).2 (.inl hp)
    rcases FileTree.onWay_join_ofNames hnames hway with hup | ⟨front, hfront, rfl⟩
    · rw [FileTree.get?_of_onWay hdirectory hup] at hnone
      cases hnone
    · exact ⟨List.prefix_append _ _, fun heq => hfront (List.append_right_eq_self.1 heq)⟩
  unfold placeSnapshot
  rw [hparent, Option.getD_some]
  dsimp only
  rcases hmade : t.makeDirectories parent with ⟨t₁, f | _⟩
  · exact (FileTree.makeDirectories_adds hmade).changesBelow hmissing
  have hadds := FileTree.makeDirectories_adds hmade
  have hbelow := hadds.changesBelow hmissing
  -- a file that the device stops is below the directory like one that is written
  have hput : ∀ {t₂ : FileTree Content} {content : Content},
      t₁.writeFile (directory.join (.ofNames names)) content = .ok t₂ →
      t.ChangesBelow t₂ (t.goal directory) := by
    intro t₂ content hwritten
    obtain ⟨-, hfree, rfl, -⟩ := FileTree.writeFile_eq_put hwritten
    rw [FileTree.goal_congr hadds.current, hgoal] at hfree ⊢
    exact hbelow.trans (.put hne fun hdir => absurd hdir hfree)
  dsimp only
  split
  · rename_i hwrite
    exact hput (FileTree.writeOn_eq_ok.1 hwrite).2
  · rename_i hwrite
    rcases FileTree.writeOn_eq_error hwrite with rfl | ⟨left, hwritten⟩
    · exact hbelow
    · exact hput hwritten

variable {x : Writer} {queries : List NamedQuery} {rows : List SortedRow} {w w' : Workspace}
  {directory : Path} {suffix : String} {e : Failure}

/-- **The snapshots of a report** change nothing but what is below the snapshot directory. -/
theorem keptBySnapshots_below {t : FileTree Content} (hsuffix : '/' ∉ suffix.toList)
    (hdirectory : t.isDirectory directory = true) :
    KeptBySnapshots directory suffix fun w => t.ChangesBelow w.tree (t.goal directory) := by
  refine ⟨fun _ hw => hw, fun {w r plan} text hplan hw => ?_⟩
  obtain ⟨names, hne, hnames, hlocation, -⟩ := hplan.exists_names hsuffix w.tree
  have hplaced := placeSnapshot_below (hw.isDirectory hdirectory) hnames hne w.disk text
  rw [FileTree.goal_congr hw.current, ← hlocation] at hplaced
  dsimp only
  exact hw.trans hplaced

namespace Writer

/-- What is left of a sheet that is not saved goes away with the report. -/
theorem removeFile_of_save {planned : List PlannedRow} (hlegal : w.tree.Legal)
    (h : x.save queries planned w = (w', .error e)) :
    w'.tree.removeFile x.options.output = w.tree.removeFile x.options.output := by
  unfold save at h
  split at h
  · cases h
    rfl
  · split at h
    · cases h
    · rename_i hwrite
      cases h
      rcases FileTree.writeOn_eq_error hwrite with rfl | ⟨left, hwritten⟩
      · rfl
      · exact FileTree.removeFile_of_writeFile hlegal.wellFormed hwritten

/-- A live report that fails has changed nothing but the report. -/
theorem removeFile_of_emit_live {base : Url} (hmode : x.options.mode = .live base)
    (hlegal : w.tree.Legal) (h : x.emit queries rows w = (w', .error e)) :
    w'.tree.removeFile x.options.output = w.tree.removeFile x.options.output := by
  unfold emit prepareDirectory planRows at h
  simp only [ReportOptions.snapshotDirectory?, hmode] at h
  split at h
  · rename_i hsave
    cases h
    exact removeFile_of_save hlegal hsave
  · cases h

/-- **A static report that fails** has made its snapshot directory, or tried to, and changed nothing
but what is below, and the report. -/
theorem attempt_of_emit (hmode : x.options.mode = .static suffix) (hsuffix : '/' ∉ suffix.toList)
    (hdirectory : x.options.snapshotDirectory? = some directory) (htext : directory.text ≠ "")
    (hlegal : w.tree.Legal) (h : x.emit queries rows w = (w', .error e)) :
    ∃ t₂, w.tree.Attempt (w.tree.makeDirectories directory).1 t₂ directory ∧
      w'.tree.removeFile x.options.output = t₂.removeFile x.options.output := by
  have hkept := KeptByReport.ofTree (FileTree.Legal.kept (α := Content))
  rcases hmade : w.tree.makeDirectories directory with ⟨t₁, f | _⟩
  · have hadds := FileTree.makeDirectories_adds hmade
    have hlast := hkept.emit x queries rows hlegal
    unfold emit prepareDirectory at h hlast
    simp only [hdirectory, hmade] at h hlast
    cases h
    exact ⟨t₁, ⟨hlegal.wellFormed, hadds, .refl _ _, .inr rfl, hlast⟩, rfl⟩
  have hadds := FileTree.makeDirectories_adds hmade
  have hdir := FileTree.isDirectory_of_makeDirectories hmade htext
  have hmadelegal : t₁.Legal := by
    have hmakes := hkept.makeDirectories directory hlegal
    rwa [hmade] at hmakes
  -- the tree with all snapshots so far, before the sheet is saved
  obtain ⟨w₂, hplan, hlater⟩ : ∃ w₂, (x.planRows queries
      (rows.take (x.options.shown rows.length)) { w with tree := t₁ }).1 = w₂ ∧
      w'.tree.removeFile x.options.output = w₂.tree.removeFile x.options.output := by
    have hlegal₂ := hkept.planRows x queries (rows.take (x.options.shown rows.length))
      (w := { w with tree := t₁ }) hmadelegal
    refine ⟨_, rfl, ?_⟩
    unfold emit prepareDirectory at h
    simp only [hdirectory, hmade] at h
    split at h
    · rename_i hplan
      cases h
      rw [hplan]
    · rename_i hplan
      rw [hplan] at hlegal₂ ⊢
      split at h
      · rename_i hsave
        cases h
        exact removeFile_of_save hlegal₂ hsave
      · cases h
  have hbelow : t₁.ChangesBelow w₂.tree (t₁.goal directory) := by
    rw [← hplan]
    unfold planRows
    simp only [hmode, hdirectory]
    cases x.renderer with
    | none => exact .refl t₁ _
    | some renderer =>
      exact (keptBySnapshots_below hsuffix hdir).planStaticRows (w := { w with tree := t₁ }) _ _
        (.refl t₁ _) _ _ _
  have hlegal₂ : w₂.tree.Legal := by
    rw [← hplan]
    exact hkept.planRows x queries _ (w := { w with tree := t₁ }) hmadelegal
  rw [FileTree.goal_congr hadds.current] at hbelow
  exact ⟨w₂.tree, ⟨hlegal.wellFormed, hadds, hbelow, .inl hdir, hlegal₂⟩, hlater⟩

/-- A report that fails without breaking down is undone. -/
theorem write_eq_error {y : Writer} {v : Workspace} (hunused : x.isUsed = false)
    (hreturns : e ≠ .breakdown) (h : x.write queries rows w = (y, v, .error e)) :
    ∃ w', x.emit queries rows w = (w', .error e) ∧ v = x.cleanUp (x.freshDirectory? w) w' := by
  unfold write at h
  rw [hunused] at h
  dsimp only at h
  rw [if_neg Bool.false_ne_true] at h
  split at h
  · cases h
  · cases h
    exact absurd rfl hreturns
  · rename_i w' e' _ hemit
    cases h
    exact ⟨w', hemit, rfl⟩

end Writer

end Attempts

/-! ## What a report leaves -/

/-- Nothing is left of a report: it is not there, nor is its snapshot directory; all that was there
before is as it was, and new are only directories on the way to the snapshots. -/
structure LeavesNothing (options : ReportOptions) (t t' : FileTree Content) : Prop where
  /-- There is no report. -/
  report : t'.read? options.output = none
  /-- There is no snapshot directory. -/
  snapshots : ∀ directory, options.snapshotDirectory? = some directory →
    t'.exists? directory = false
  /-- Everything else is as it was. -/
  rest : t.AddsDirectories t' fun place =>
    ∃ directory, options.snapshotDirectory? = some directory ∧ t.OnWay directory place

/-- Making the snapshot directory opens no way to what was there before: neither to a report nor to
anything at the place of the directory. -/
def OpensNothing (options : ReportOptions) (t : FileTree Content) : Prop :=
  ∀ directory, options.snapshotDirectory? = some directory →
    (t.makeDirectories directory).1.read? options.output = none ∧
      ((t.makeDirectories directory).1.exists? directory = true → t.get? (t.goal directory) = none)

section Leavings

variable {options : ReportOptions} {suffix s : String} {directory : Path} {t t' : FileTree Content}

/-- **A report lies beside its snapshot directory.** -/
theorem beside_output (t : FileTree Content) (hmode : options.mode = .static suffix)
    (hname : options.output.fileName? = some s)
    (hdirectory : options.snapshotDirectory? = some directory) :
    t.Beside options.output directory := by
  obtain ⟨hsteps, habs⟩ := steps_outputDirectory hname
  obtain ⟨hsteps', habs'⟩ := steps_snapshotDirectory hmode hname hdirectory
  constructor
  · intro above habove
    rcases (FileTree.onWay_iff_of_dropLast hsteps habs).1 habove with hup | hgoal
    · refine .inr ((FileTree.onWay_iff_of_dropLast ?_ habs'.symm).2 (.inl hup))
      rw [hsteps', List.dropLast_concat]
    · exact .inl hgoal
  · rw [goal_output t hname, goal_snapshotDirectory t hmode hname hdirectory,
      List.prefix_append_right_inj]
    intro habove
    have hsame := habove.eq_of_length rfl
    have hname' := congrArg String.toList (List.singleton_inj.1 hsame)
    have hends : ReportOptions.snapshotDirectorySuffix.toList = ['_', 'f', 'i', 'l', 'e', 's'] := by
      decide
    rw [snapshotDirectoryName, String.toList_append, String.toList_ofList, hends] at hname'
    exact Path.ne_stemOf_append s.toList (by decide : '_' ≠ '.') _ hname'.symm

theorem leavesNothing_iff_of_static (hdirectory : options.snapshotDirectory? = some directory) :
    LeavesNothing options t t' ↔ t'.read? options.output = none ∧
      t'.exists? directory = false ∧ t.AddsDirectories t' (t.OnWay directory) := by
  have hway : (fun place => ∃ directory, options.snapshotDirectory? = some directory ∧
      t.OnWay directory place) = t.OnWay directory := by
    funext place
    simp [hdirectory]
  constructor
  · rintro ⟨hreport, hsnapshots, hrest⟩
    exact ⟨hreport, hsnapshots _ hdirectory, hway ▸ hrest⟩
  · rintro ⟨hreport, hsnapshots, hrest⟩
    refine ⟨hreport, fun directory' hdirectory' => ?_, hway.symm ▸ hrest⟩
    rw [hdirectory] at hdirectory'
    cases hdirectory'
    exact hsnapshots

theorem opensNothing_iff_of_static (hdirectory : options.snapshotDirectory? = some directory) :
    OpensNothing options t ↔ (t.makeDirectories directory).1.read? options.output = none ∧
      ((t.makeDirectories directory).1.exists? directory = true →
        t.get? (t.goal directory) = none) := by
  simp [OpensNothing, hdirectory]

/-- A path that leads nowhere up, or a directory that is there: making the snapshot directory opens
nothing. -/
theorem opensNothing_of_way (hmode : options.mode = .static suffix)
    (hname : options.output.fileName? = some s) (h : t.WellFormed)
    (houtput : t.exists? options.output = false)
    (hfresh : ∀ directory, options.snapshotDirectory? = some directory →
      t.exists? directory = false)
    (hway : ['.', '.'] ∉ options.output.steps ∨ t.isDirectory options.outputDirectory = true) :
    OpensNothing options t := by
  intro directory hdirectory
  obtain ⟨hsteps, habs⟩ := steps_outputDirectory hname
  obtain ⟨hsteps', habs'⟩ := steps_snapshotDirectory hmode hname hdirectory
  have hadds := FileTree.makeDirectories_adds
    (show t.makeDirectories directory = ((t.makeDirectories directory).1, _) from rfl)
  have hway' : ['.', '.'] ∉ options.outputDirectory.steps ∨
      t.isDirectory options.outputDirectory = true := by
    refine hway.imp (fun hno hmem => hno ?_) id
    rw [hsteps] at hmem
    exact List.dropLast_subset _ hmem
  constructor
  · rw [Option.eq_none_iff_forall_not_mem]
    intro content hread
    obtain ⟨hresolve, hfile⟩ := FileTree.read?_eq_some.1 hread
    rw [FileTree.goal_congr hadds.current] at hfile
    have hthere : (t.get? (t.goal options.output)).isSome = true := by
      rw [hadds.file hfile]
      rfl
    have hfound := FileTree.exists?_of_adds hadds hsteps habs
      (fun above habove => h.get?_of_onWay hway' (goal_output t hname ▸ hthere) habove) hthere
      (FileTree.exists?_iff.2 hresolve)
    rw [houtput] at hfound
    cases hfound
  · intro hexists
    by_contra hold
    have hthere := Option.isSome_iff_ne_none.2 hold
    have hfound := FileTree.exists?_of_adds hadds (by rw [hsteps', List.dropLast_concat]) habs'.symm
      (fun above habove => h.get?_of_onWay hway'
        (goal_snapshotDirectory t hmode hname hdirectory ▸ hthere) habove) hthere hexists
    rw [hfresh directory hdirectory] at hfound
    cases hfound

end Leavings

section Failed

variable {options : ReportOptions} {index : SearchIndex} {given : Option Renderer} {x y : Writer}
  {queries : List NamedQuery} {rows : List SortedRow} {w v : Workspace} {e : Failure}

/-- **What is left of a report that fails.**  If its path and that of its snapshot directory led
nowhere before, nothing is left of it just if making this directory opens no way to what was there;
so it is if the path of the report does not lead up, or its directory was there. -/
theorem nothing_left_of_failed_report (hnew : Writer.new options index given = .ok x)
    (hsuffix : ∀ suffix, options.mode = .static suffix → '/' ∉ suffix.toList)
    (hlegal : w.tree.Legal) (houtput : w.tree.exists? options.output = false)
    (hfresh : ∀ directory, options.snapshotDirectory? = some directory →
      w.tree.exists? directory = false)
    (hfail : x.write queries rows w = (y, v, .error e)) (hreturns : e ≠ .breakdown) :
    (LeavesNothing options w.tree v.tree ↔ OpensNothing options w.tree) ∧
      (['.', '.'] ∉ options.output.steps ∨ w.tree.isDirectory options.outputDirectory = true →
        LeavesNothing options w.tree v.tree) := by
  obtain ⟨rfl, ⟨s, hname⟩, -⟩ := Writer.new_eq_ok.1 hnew
  obtain ⟨w', hemit, rfl⟩ := Writer.write_eq_error rfl hreturns hfail
  have hsteps : options.output.steps ≠ [] := by
    rw [(Path.exists_steps_of_fileName? hname).2]
    simp
  cases hmode : options.mode with
  | live base =>
    have hnone : options.snapshotDirectory? = none := by
      rw [ReportOptions.snapshotDirectory?, hmode]
    have hread := FileTree.read?_eq_none houtput
    have hremoved : w'.tree.removeFile options.output = w.tree := by
      rw [Writer.removeFile_of_emit_live hmode hlegal hemit, hlegal.removeFile_eq hsteps, hread]
      rfl
    have hleft : LeavesNothing options w.tree w.tree := ⟨hread, by simp [hnone], .refl w.tree⟩
    have hopens : OpensNothing options w.tree := by simp [OpensNothing, hnone]
    simp only [Writer.cleanUp, Writer.freshDirectory?, hnone, Option.filter_none, hremoved]
    exact ⟨iff_of_true hleft hopens, fun _ => hleft⟩
  | static suffix =>
    obtain ⟨directory, hdirectory⟩ : ∃ directory, options.snapshotDirectory? = some directory :=
      ⟨_, Writer.snapshotDirectory?_eq hmode hname⟩
    have hsteps' : directory.steps ≠ [] := by
      rw [(steps_snapshotDirectory hmode hname hdirectory).1]
      simp
    obtain ⟨t₂, hattempt, hremoved⟩ := Writer.attempt_of_emit hmode (hsuffix suffix hmode)
      hdirectory (text_snapshotDirectory_ne hmode hname hdirectory) hlegal hemit
    have hundo := hattempt.undo_iff (beside_output w.tree hmode hname hdirectory) hsteps hsteps'
    have hclean : (Writer.cleanUp ⟨options, index, given, false⟩
        (Writer.freshDirectory? ⟨options, index, given, false⟩ w) w').tree =
        (t₂.removeFile options.output).removeTree directory := by
      simp [Writer.cleanUp, Writer.freshDirectory?, hdirectory, Option.filter,
        hfresh directory hdirectory, hremoved]
    have hiff : LeavesNothing options w.tree
        ((t₂.removeFile options.output).removeTree directory) ↔
          OpensNothing options w.tree := by
      rw [leavesNothing_iff_of_static hdirectory, opensNothing_iff_of_static hdirectory]
      exact hundo
    rw [hclean]
    exact ⟨hiff, fun hway => hiff.2
      (opensNothing_of_way hmode hname hlegal.wellFormed houtput hfresh hway)⟩

end Failed

/-- Two files with a snapshot each.  The device is full when the sheet is saved, and stops it
half-way: the snapshots are removed, and what there is of the report. -/
theorem nothing_left_of_failed_report_two_rows :
    let options : ReportOptions := ⟨⟨"reports/tags.xlsx"⟩, .static ".html", none, 9⟩
    let index : SearchIndex := Script.index ⟨[(0, Script.plainDocument "f0"),
      (1, Script.plainDocument "f1")], [], [], [], [], [], [], false⟩
    let queries : List NamedQuery := [⟨1, "Q1", "q1", -1, -1⟩]
    let rows : List SortedRow := [⟨"f0", 1, "f0.txt", "docs/f0.txt", some 0, [(1, 1)]⟩,
      ⟨"f1", 1, "f1.txt", "docs/f1.txt", some 1, [(1, 1)]⟩]
    let full : Fault := .device "No space left on device (os error 28)"
    let w : Workspace := ⟨⟨[], []⟩, [],
      ⟨fun _ p _ => if p = options.output then some (some .other, full) else none⟩⟩
    ∃ x y v, Writer.new options index (some .naming) = .ok x ∧
      (x.emit queries rows w).1.tree.entries.map Prod.fst =
        [["reports"], ["reports", "tags_files"], ["reports", "tags_files", "docs"],
          ["reports", "tags_files", "docs", "f0.txt.html"],
          ["reports", "tags_files", "docs", "f1.txt.html"], ["reports", "tags.xlsx"]] ∧
      x.write queries rows w = (y, v, .error (.report (.save full))) ∧
      v.tree.entries.map Prod.fst = [["reports"]] ∧ LeavesNothing options w.tree v.tree := by
  intro options index queries rows full w
  have hname : options.output.fileName? = some "tags.xlsx" := by decide +kernel
  have hnew : Writer.new options index (some .naming) =
      .ok ⟨options, index, some .naming, false⟩ :=
    Writer.new_eq_ok.2 ⟨rfl, ⟨_, hname⟩, fun _ _ => ⟨_, rfl⟩⟩
  have hfresh : ∀ directory, options.snapshotDirectory? = some directory →
      w.tree.exists? directory = false := by
    intro directory hdirectory
    have hsome : options.snapshotDirectory? = some ⟨"reports/tags_files"⟩ := by decide +kernel
    rw [hsome] at hdirectory
    cases hdirectory
    decide +kernel
  have hsuffix : ∀ suffix, options.mode = .static suffix → '/' ∉ suffix.toList := by
    intro suffix hmode
    cases hmode
    decide
  obtain ⟨hfails, hleft⟩ :
      (Writer.write ⟨options, index, some .naming, false⟩ queries rows w).2.2 =
          .error (.report (.save full)) ∧
        (Writer.write ⟨options, index, some .naming, false⟩ queries rows w).2.1.tree.entries.map
          Prod.fst = [["reports"]] := by
    decide +kernel
  refine ⟨_, _, _, hnew, by decide +kernel, Prod.ext rfl (Prod.ext rfl hfails), hleft, ?_⟩
  exact (nothing_left_of_failed_report hnew hsuffix (FileTree.Legal.nil []) (by decide +kernel)
    hfresh (Prod.ext rfl (Prod.ext rfl hfails)) (by simp)).2 (.inl (by decide +kernel))

/-- **A report that fails removes an earlier one.**  Its directory is written as that of a directory
which is not there, and the one above it: so neither the report nor its snapshot directory is found;
but when the directory is made, they are. -/
theorem earlier_report_removed :
    let options : ReportOptions := ⟨⟨"new/../tags.xlsx"⟩, .static ".html", none, 9⟩
    let index : SearchIndex :=
      Script.index ⟨[(0, Script.plainDocument "f0")], [], [], [], [], [], [], false⟩
    let queries : List NamedQuery := [⟨1, "Q1", "q1", -1, -1⟩]
    let rows : List SortedRow := [⟨"f0", 1, "f0.txt", "docs/f0.txt", some 0, [(1, 1)]⟩]
    let x : Writer := ⟨options, index, some .failing, false⟩
    let t : FileTree Content := (FileTree.prepare ⟨[], []⟩ ⟨"tags.xlsx"⟩
      (.file (.text "an earlier report"))).prepare ⟨"tags_files/f0.html"⟩
        (.file (.text "an earlier snapshot"))
    let w : Workspace := ⟨t, [], .sound⟩
    options.snapshotDirectory? = some ⟨"new/../tags_files"⟩ ∧
      t.exists? options.output = false ∧ t.exists? ⟨"new/../tags_files"⟩ = false ∧
      (x.write queries rows w).2.2 = .error (.render "Render failed for f0.") ∧
      t.entries.map Prod.fst = [["tags.xlsx"], ["tags_files"], ["tags_files", "f0.html"]] ∧
      (x.write queries rows w).2.1.tree.entries.map Prod.fst = [["new"]] := by
  decide +kernel

end Tagging
