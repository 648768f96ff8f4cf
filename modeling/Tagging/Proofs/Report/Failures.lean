import Tagging.Report.Writer

/-!
# How a report fails

Writing a report can fail because it was tried before, at its documents, at their snapshots, at the
sheet or at the file tree, and it breaks down only with its index or its renderer.  There is no
other way.

* `BreaksDown`, `Failure.OfReport` — these failures;
* `ofReport_putSnapshot`, `ofReport_planStaticRows` — **one snapshot**, and the snapshots of all
  rows;
* `Writer.ofReport_write` — **a whole report**.
-/

namespace Tagging

/-- The index breaks down at a document, or the renderer with one. -/
def BreaksDown (index : SearchIndex) (given : Option Renderer) : Prop :=
  (∃ address, index.document address = .breakdown) ∨
    ∃ renderer ∈ given, ∃ d queries, renderer.render d queries = .breakdown

/-- A failure that writing a report can end in, with documents of the index and what renders
them. -/
def Failure.OfReport (index : SearchIndex) (given : Option Renderer) : Failure → Prop
  | .alreadyDone .writeReport | .index _ | .render _ | .report _ => True
  | .breakdown => BreaksDown index given
  | _ => False

/-! ## Snapshots -/

section Snapshots

variable {index : SearchIndex} {renderer : Renderer} {directory : Path}

theorem ofReport_putSnapshot {plan : SnapshotPlan} {matched : List NamedQuery} {w : Workspace}
    {e : Failure} (h : (putSnapshot index renderer directory plan matched w).2 = .error e) :
    e.OfReport index (some renderer) := by
  unfold putSnapshot at h
  simp only at h
  split at h
  · cases h
    trivial
  · rename_i hread
    cases h
    exact .inl ⟨_, hread⟩
  · split at h
    · cases h
      trivial
    · rename_i hrender
      cases h
      exact .inr ⟨renderer, rfl, _, _, hrender⟩
    · split at h
      · cases h
      · cases h
        trivial

/-- The rows of a static report fail only at one of their snapshots. -/
theorem ofReport_planStaticRows {suffix : String} {queries : List NamedQuery}
    {rows : List SortedRow} {used : Used} {w : Workspace} {e : Failure}
    (h : (planStaticRows index renderer directory suffix queries used w rows).2 = .error e) :
    e.OfReport index (some renderer) := by
  induction rows generalizing used w with
  | nil => cases h
  | cons r rest ih =>
    rw [planStaticRows] at h
    simp only at h
    -- a failure of the first row is one of its snapshot, a later one is passed on
    split at h
    · split at h
      · cases h
      · rename_i hrest
        cases h
        exact ih (congrArg Prod.snd hrest)
    · split at h
      · split at h
        · cases h
        · rename_i hrest
          cases h
          exact ih (congrArg Prod.snd hrest)
      · split at h
        · rename_i hput
          cases h
          exact ofReport_putSnapshot (congrArg Prod.snd hput)
        · split at h
          · cases h
          · rename_i hrest
            cases h
            exact ih (congrArg Prod.snd hrest)

end Snapshots

/-! ## Reports -/

namespace Writer

variable {x : Writer} {queries : List NamedQuery} {rows : List SortedRow} {w : Workspace}
  {e : Failure}

theorem ofReport_prepareDirectory (h : (x.prepareDirectory w).2 = .error e) :
    e.OfReport x.index x.renderer := by
  unfold prepareDirectory at h
  split at h
  · cases h
  · split at h
    · cases h
    · cases h
      trivial

theorem ofReport_planRows (h : (x.planRows queries rows w).2 = .error e) :
    e.OfReport x.index x.renderer := by
  unfold planRows at h
  simp only at h
  split at h
  · cases h
  · split at h
    · rename_i hgiven
      rw [hgiven]
      exact ofReport_planStaticRows h
    · cases h

theorem ofReport_save {planned : List PlannedRow} (h : (x.save queries planned w).2 = .error e) :
    e.OfReport x.index x.renderer := by
  unfold save at h
  split at h
  · cases h
    trivial
  · split at h
    · cases h
    · cases h
      trivial

theorem ofReport_emit (h : (x.emit queries rows w).2 = .error e) :
    e.OfReport x.index x.renderer := by
  unfold emit at h
  simp only at h
  split at h
  · rename_i heq
    cases h
    exact ofReport_prepareDirectory (congrArg Prod.snd heq)
  · split at h
    · rename_i heq
      cases h
      exact ofReport_planRows (congrArg Prod.snd heq)
    · split at h
      · rename_i heq
        cases h
        exact ofReport_save (congrArg Prod.snd heq)
      · cases h

/-- **A report fails only in the ways of a report.** -/
theorem ofReport_write (h : (x.write queries rows w).2.2 = .error e) :
    e.OfReport x.index x.renderer := by
  unfold write at h
  split at h
  · cases h
    trivial
  · simp only at h
    split at h
    · cases h
    · rename_i heq
      cases h
      exact ofReport_emit (x := x) (congrArg Prod.snd heq)
    · rename_i heq
      cases h
      exact ofReport_emit (congrArg Prod.snd heq)

end Writer

end Tagging
