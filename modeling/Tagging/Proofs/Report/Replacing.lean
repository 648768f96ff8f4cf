import Tagging.Proofs.Report.Undoing

/-!
# What becomes of an earlier report

A report takes the place of the one before when it is saved, as its last step.  But the report at
its path is removed whenever a step fails, also one before: so an earlier report is lost with any
failure, though nothing was written over it.

* `Writer.cleanUp_gone`, `Writer.cleanUp_kept` — what undoing removes, and what it leaves;
* `Writer.file_of_emit` — no failing step touches a file beside the snapshot directory, but for the
  report that is being saved;
* `LosesReport` — the report is lost, and no other file beside the snapshots;
* `earlier_report_lost` — **every failure loses the earlier report**;
* `earlier_report_lost_unrendered` — one that no step had touched.
-/

namespace Tagging

/-- The report is gone, whether it was new or an earlier one; all other files beside the snapshots
are as they were. -/
structure LosesReport (options : ReportOptions) (t t' : FileTree Content) : Prop where
  /-- No report is found. -/
  gone : t'.read? options.output = none
  /-- Nothing stands where there was one. -/
  place : ∀ content, t.read? options.output = some content →
    t'.get? (t.goal options.output) = none
  /-- Other files stay. -/
  rest : ∀ place content, t.get? place = some (.file content) → place ≠ t.goal options.output →
    (∀ directory, options.snapshotDirectory? = some directory → ¬ t.goal directory <+: place) →
    t'.get? place = some (.file content)

/-- An earlier report outlives a failure just if there was none. -/
theorem LosesReport.read?_eq_iff {options : ReportOptions} {t t' : FileTree Content}
    (h : LosesReport options t t') :
    t'.read? options.output = t.read? options.output ↔ t.read? options.output = none := by
  rw [h.gone]
  exact eq_comm

namespace Writer

section CleanUp

variable {x : Writer} {w w' : Workspace} {fresh : Option Path} {place : Place} {content : Content}

/-- Undoing is the same wherever removing the report is. -/
theorem cleanUp_congr
    (h : w'.tree.removeFile x.options.output = w.tree.removeFile x.options.output) :
    (x.cleanUp fresh w').tree = (x.cleanUp fresh w).tree := by
  unfold cleanUp
  dsimp only
  rw [h]

variable (hlegal : w.tree.Legal) (hsteps : x.options.output.steps ≠ [])
include hlegal hsteps

/-- **Undoing** leaves no report. -/
theorem cleanUp_gone : (x.cleanUp fresh w).tree.read? x.options.output = none := by
  have hgone := hlegal.read?_removeFile hsteps
  unfold cleanUp
  cases fresh with
  | none => exact hgone
  | some directory => exact FileTree.read?_removeTree_eq_none hgone directory

/-- Undoing leaves nothing where a report was found. -/
theorem cleanUp_place (hread : w.tree.read? x.options.output = some content) :
    (x.cleanUp fresh w).tree.get? (w.tree.goal x.options.output) = none := by
  have hfile := (FileTree.read?_eq_some.1 hread).2
  have hroot : w.tree.goal x.options.output ≠ [] := by
    intro hnil
    rw [hnil] at hfile
    cases hfile
  have hgone : (w.tree.removeFile x.options.output).get? (w.tree.goal x.options.output) = none := by
    rw [hlegal.removeFile_eq hsteps, hread, Option.isSome_some, if_pos rfl,
      FileTree.get?_prune hroot, if_pos (List.prefix_refl _)]
  unfold cleanUp
  cases fresh with
  | none => exact hgone
  | some directory =>
    rw [← Option.not_isSome_iff_eq_none] at hgone ⊢
    exact fun hthere => hgone ((FileTree.removeTree_grows _ directory).node hthere)

/-- **Undoing keeps** every other file that is not below the directory it removes. -/
theorem cleanUp_kept (hfile : w.tree.get? place = some (.file content))
    (hother : place ≠ w.tree.goal x.options.output)
    (hbeside : ∀ directory ∈ fresh, ¬ w.tree.goal directory <+: place) :
    (x.cleanUp fresh w).tree.get? place = some (.file content) := by
  have hkept := hlegal.get?_removeFile hsteps hfile hother
  unfold cleanUp
  cases fresh with
  | none => exact hkept
  | some directory =>
    rw [← hkept]
    refine FileTree.get?_removeTree ?_
    have hcurrent : (w.tree.removeFile x.options.output).current = w.tree.current := by
      rw [hlegal.removeFile_eq hsteps]
      split_ifs <;> rfl
    rw [FileTree.goal_congr hcurrent]
    exact hbeside directory rfl

end CleanUp

section Failing

variable {x : Writer} {queries : List NamedQuery} {rows : List SortedRow} {w w' : Workspace}
  {e : Failure} {s : String}

/-- **No step** touches a file beside the snapshot directory, but for the report, which is removed
anyway; and paths lead where they led, if they led anywhere. -/
theorem file_of_emit (hname : x.options.output.fileName? = some s)
    (hsuffix : ∀ suffix, x.options.mode = .static suffix → '/' ∉ suffix.toList)
    (hlegal : w.tree.Legal) (h : x.emit queries rows w = (w', .error e)) :
    ∃ t₂, w'.tree.removeFile x.options.output = t₂.removeFile x.options.output ∧
      w.tree.Grows t₂ ∧ t₂.Legal ∧
      ∀ place content, w.tree.get? place = some (.file content) →
        (∀ directory, x.options.snapshotDirectory? = some directory →
          ¬ w.tree.goal directory <+: place) →
        t₂.get? place = some (.file content) := by
  cases hmode : x.options.mode with
  | live base =>
    exact ⟨w.tree, removeFile_of_emit_live hmode hlegal h, .refl _, hlegal,
      fun _ _ hfile _ => hfile⟩
  | static suffix =>
    obtain ⟨directory, hdirectory⟩ : ∃ directory, x.options.snapshotDirectory? = some directory :=
      ⟨_, snapshotDirectory?_eq hmode hname⟩
    obtain ⟨t₂, hattempt, hremoved⟩ := attempt_of_emit hmode (hsuffix suffix hmode) hdirectory
      (text_snapshotDirectory_ne hmode hname hdirectory) hlegal h
    refine ⟨t₂, hremoved, hattempt.adds.grows.trans hattempt.below.toGrows, hattempt.legal,
      fun place content hfile hbeside => ?_⟩
    rw [hattempt.below.same fun habove => absurd habove (hbeside directory hdirectory)]
    exact hattempt.adds.kept hfile

/-- What undoing a failure does to the report. -/
theorem losesReport_of_emit (hname : x.options.output.fileName? = some s)
    (hsuffix : ∀ suffix, x.options.mode = .static suffix → '/' ∉ suffix.toList)
    (hlegal : w.tree.Legal) (h : x.emit queries rows w = (w', .error e)) :
    LosesReport x.options w.tree (x.cleanUp (x.freshDirectory? w) w').tree := by
  have hsteps : x.options.output.steps ≠ [] := by
    rw [(Path.exists_steps_of_fileName? hname).2]
    simp
  obtain ⟨t₂, hremoved, hgrows, hlegal', hkept⟩ := file_of_emit hname hsuffix hlegal h
  have hgoal : ∀ p, t₂.goal p = w.tree.goal p := FileTree.goal_congr hgrows.current
  rw [cleanUp_congr (w := { w' with tree := t₂ }) hremoved]
  refine ⟨cleanUp_gone (w := { w' with tree := t₂ }) hlegal' hsteps, fun content hread => ?_,
    fun place content hfile hother hbeside => ?_⟩
  · -- the earlier report is still found when the failure is undone
    have hread' : t₂.read? x.options.output = some content := by
      obtain ⟨hresolve, hfile⟩ := FileTree.read?_eq_some.1 hread
      rw [FileTree.read?_eq_some, hgoal]
      refine ⟨hgrows.resolve hresolve, hkept _ _ hfile fun directory hdirectory => ?_⟩
      cases hmode : x.options.mode with
      | live base => simp [ReportOptions.snapshotDirectory?, hmode] at hdirectory
      | static suffix => exact (beside_output w.tree hmode hname hdirectory).goal
    rw [← hgoal]
    exact cleanUp_place (w := { w' with tree := t₂ }) hlegal' hsteps hread'
  · rw [← hgoal] at hother
    refine cleanUp_kept (w := { w' with tree := t₂ }) hlegal' hsteps (hkept _ _ hfile hbeside)
      hother fun directory hfresh => ?_
    dsimp only
    rw [hgoal]
    exact hbeside directory (Option.filter_eq_some_iff.1 hfresh).1

end Failing

end Writer

section Lost

variable {options : ReportOptions} {index : SearchIndex} {given : Option Renderer} {x y : Writer}
  {queries : List NamedQuery} {rows : List SortedRow} {w v : Workspace} {e : Failure}

/-- **Every failure loses the earlier report**, whatever step it was that failed, and no other file
beside the snapshots: so the report is as it was just if there was none. -/
theorem earlier_report_lost (hnew : Writer.new options index given = .ok x)
    (hsuffix : ∀ suffix, options.mode = .static suffix → '/' ∉ suffix.toList)
    (hlegal : w.tree.Legal) (hfail : x.write queries rows w = (y, v, .error e))
    (hreturns : e ≠ .breakdown) :
    LosesReport options w.tree v.tree ∧
      (v.tree.read? options.output = w.tree.read? options.output ↔
        w.tree.read? options.output = none) := by
  obtain ⟨rfl, ⟨s, hname⟩, -⟩ := Writer.new_eq_ok.1 hnew
  obtain ⟨w', hemit, rfl⟩ := Writer.write_eq_error rfl hreturns hfail
  have hlost := Writer.losesReport_of_emit (x := ⟨options, index, given, false⟩) hname hsuffix
    hlegal hemit
  exact ⟨hlost, hlost.read?_eq_iff⟩

end Lost

/-- What a text file says. -/
def Content.text? : Content → Option String
  | .text s => some s
  | _ => none

/-- The document of the second row cannot be read any more: the report of last time is lost. -/
theorem earlier_report_lost_two_rows :
    let options : ReportOptions := ⟨⟨"reports/tags.xlsx"⟩, .static ".html", none, 9⟩
    let index : SearchIndex :=
      Script.index ⟨[(0, Script.plainDocument "f0")], [], [], [], [], [], [], false⟩
    let queries : List NamedQuery := [⟨1, "Q1", "q1", -1, -1⟩]
    let rows : List SortedRow := [⟨"f0", 1, "f0.txt", "docs/f0.txt", some 0, [(1, 1)]⟩,
      ⟨"f1", 1, "f1.txt", "docs/f1.txt", some 1, [(1, 1)]⟩]
    let t : FileTree Content := FileTree.prepare ⟨[], []⟩ ⟨"reports/tags.xlsx"⟩
      (.file (.text "last time"))
    let w : Workspace := ⟨t, [], .sound⟩
    ∃ x y v e, Writer.new options index (some .naming) = .ok x ∧
      x.write queries rows w = (y, v, .error e) ∧
      (w.tree.read? options.output).bind Content.text? = some "last time" ∧
      LosesReport options w.tree v.tree := by
  intro options index queries rows t w
  have hnew : Writer.new options index (some .naming) =
      .ok ⟨options, index, some .naming, false⟩ :=
    Writer.new_eq_ok.2 ⟨rfl, ⟨"tags.xlsx", by decide +kernel⟩, fun _ _ => ⟨_, rfl⟩⟩
  have hfails : (Writer.write ⟨options, index, some .naming, false⟩ queries rows w).2.2 =
      .error (.index "Unknown document 1.") := by
    decide +kernel
  have hsuffix : ∀ suffix, options.mode = .static suffix → '/' ∉ suffix.toList := by
    intro suffix hmode
    cases hmode
    decide
  have hlegal : w.tree.Legal := FileTree.Legal.kept.prepare (FileTree.Legal.nil [])
    ⟨"reports/tags.xlsx"⟩ (.file (Content.text "last time"))
  refine ⟨_, _, _, _, hnew, Prod.ext rfl (Prod.ext rfl hfails), by decide +kernel, ?_⟩
  exact (earlier_report_lost hnew hsuffix hlegal (Prod.ext rfl (Prod.ext rfl hfails)) (by simp)).1

/-- **A report is lost that no step had touched**: the only snapshot is not even rendered, and no
sheet is written. -/
theorem earlier_report_lost_unrendered :
    let options : ReportOptions := ⟨⟨"tags.xlsx"⟩, .static ".html", none, 10⟩
    let index : SearchIndex :=
      Script.index ⟨[(0, Script.plainDocument "f0")], [], [], [], [], [], [], false⟩
    let queries : List NamedQuery := [⟨1, "Q1", "q1", -1, -1⟩]
    let rows : List SortedRow := [⟨"f0", 1, "f0.txt", "docs/f0.txt", some 0, [(1, 1)]⟩]
    let x : Writer := ⟨options, index, some .failing, false⟩
    let t : FileTree Content :=
      FileTree.prepare ⟨[], []⟩ ⟨"tags.xlsx"⟩ (.file (.text "an earlier report"))
    (t.read? options.output).bind Content.text? = some "an earlier report" ∧
      ((x.emit queries rows ⟨t, [], .sound⟩).1.tree.read? options.output).bind Content.text? =
        some "an earlier report" ∧
      (x.write queries rows ⟨t, [], .sound⟩).2.2 = .error (.render "Render failed for f0.") ∧
      ((x.write queries rows ⟨t, [], .sound⟩).2.1.tree.read? options.output).isNone = true := by
  decide +kernel

end Tagging
