import Mathlib.Data.List.Forall2
import Tagging.Proofs.FileTree
import Tagging.Proofs.Report.Locations
import Tagging.Proofs.Run.Steps
import Tagging.Report.Writer

/-!
# What writing a report does to its workspace

A report touches its workspace in a few ways only, so what these keep is kept by the whole report,
also by one that fails.  And a report that is written has taken one step for each of its rows, with
a snapshot for each row that has a link.

* `SnapshotPlan.Of`, `snapshotPlan?_eq_some` — what a snapshot is planned from;
* `KeptBySnapshots`, `KeptBySnapshots.planStaticRows` — **what each snapshot keeps, all rows keep**;
* `KeptByReport`, `KeptByReport.write` — **what the steps keep, the report keeps**;
* `Writer.phases_write`, `Writer.wellFormed_write` — a report announces no phase and keeps file
  trees well-formed;
* `StaticStep`, `planStaticRows_eq_ok` — **one step for each row** of a static report;
* `Writer.exists_sheet_of_write` — a report that succeeds has saved the sheet of its rows.
-/

namespace Tagging

/-! ## Planned snapshots -/

/-- What a snapshot is planned from. -/
structure SnapshotPlan.Of (directory : Path) (suffix : String) (r : SortedRow)
    (plan : SnapshotPlan) : Prop where
  /-- The document of the row. -/
  address : r.address = some plan.address
  /-- Its place is one of the row's, tagged or not. -/
  location : ∃ tag, plan.location = snapshotLocation r.relativePath r.fileId suffix tag
  /-- Its link leads to this place. -/
  link : plan.link = snapshotLink (directory.fileName?.getD "") plan.location
  /-- The link fits. -/
  fits : linkFits plan.link = true

theorem snapshotPlan?_eq_some {directory : Path} {suffix : String} {r : SortedRow}
    {taken : List (List Component)} {plan : SnapshotPlan}
    (h : snapshotPlan? directory suffix taken r = some plan) :
    plan.Of directory suffix r ∧
      plan.location = firstFreeLocation taken r.relativePath r.fileId suffix := by
  unfold snapshotPlan? at h
  split at h
  · cases h
  rename_i address haddress
  dsimp only at h
  split_ifs at h with hfits
  cases h
  obtain ⟨tag, -, htag⟩ := exists_firstFreeLocation taken r.relativePath r.fileId suffix
  exact ⟨⟨haddress, ⟨tag, htag⟩, rfl, hfits⟩, rfl⟩

/-! ## One row after the other -/

section Rows

variable (index : SearchIndex) (renderer : Renderer) (directory : Path) (suffix : String)
  (queries : List NamedQuery)

/-- One row of a static report, with its snapshot if it takes a link. -/
def planStaticRow (used : Used) (w : Workspace) (r : SortedRow) :
    Workspace × Except Failure (PlannedRow × Used) :=
  match snapshotPlan? directory suffix used.taken r with
  | none => (w, .ok (.ofRow r, used))
  | some plan =>
    match used.budget.take? with
    | none => (w, .ok (.ofRow r, used))
    | some left =>
      match putSnapshot index renderer directory plan (matchedQueries queries r) w with
      | (w, .error e) => (w, .error e)
      | (w, .ok ()) =>
        (w, .ok ({ PlannedRow.ofRow r with fileLink := some plan.link },
          ⟨left, plan.location.components :: used.taken⟩))

/-- The rows of a static report are written one after the other, up to the first failure. -/
theorem planStaticRows_cons (used : Used) (w : Workspace) (r : SortedRow) (rest : List SortedRow) :
    planStaticRows index renderer directory suffix queries used w (r :: rest) =
      match planStaticRow index renderer directory suffix queries used w r with
      | (w, .error e) => (w, .error e)
      | (w, .ok (row, used)) =>
        match planStaticRows index renderer directory suffix queries used w rest with
        | (w, .ok (rows, final)) => (w, .ok (row :: rows, final))
        | (w, .error e) => (w, .error e) := by
  rw [planStaticRows, planStaticRow]
  cases snapshotPlan? directory suffix used.taken r with
  | none => rfl
  | some plan =>
    cases used.budget.take? with
    | none => rfl
    | some left =>
      simp only
      rcases putSnapshot index renderer directory plan (matchedQueries queries r) w with
        ⟨w₁, e | _⟩ <;> rfl

end Rows

/-! ## What all steps keep -/

/-- A property of workspaces that no snapshot destroys. -/
structure KeptBySnapshots (directory : Path) (suffix : String) (P : Workspace → Prop) : Prop where
  /-- Noting what is asked of the index and the renderer. -/
  note : ∀ {w : Workspace} {e : Event}, e.phase? = none → P w → P (w.note e)
  /-- Writing the snapshot of a row, also in vain. -/
  place : ∀ {w : Workspace} {r : SortedRow} {plan : SnapshotPlan} (text : String),
    plan.Of directory suffix r → P w →
    P { w with tree := (placeSnapshot w.disk w.tree (directory.join plan.location) text).1 }

namespace KeptBySnapshots

variable {P : Workspace → Prop} {w : Workspace} {directory : Path} {suffix : String}
  (index : SearchIndex) (renderer : Renderer)

theorem putSnapshot (h : KeptBySnapshots directory suffix P) (hw : P w) {r : SortedRow}
    {plan : SnapshotPlan} (hplan : plan.Of directory suffix r) (matched : List NamedQuery) :
    P (putSnapshot index renderer directory plan matched w).1 := by
  unfold Tagging.putSnapshot
  have hopened : P (w.note (.opened plan.address)) := h.note rfl hw
  simp only
  split
  · exact hopened
  · exact hopened
  · rename_i d hd
    have hrendered : P ((w.note (.opened plan.address)).note
        (.rendered d.fileId (matched.map NamedQuery.id))) := h.note rfl hopened
    split
    · exact hrendered
    · exact hrendered
    · rename_i text htext
      have hplaced := h.place text hplan hrendered
      split <;> rename_i heq <;> rwa [heq] at hplaced

theorem planStaticRow (h : KeptBySnapshots directory suffix P) (hw : P w)
    (queries : List NamedQuery) (used : Used) (r : SortedRow) :
    P (planStaticRow index renderer directory suffix queries used w r).1 := by
  unfold Tagging.planStaticRow
  split
  · exact hw
  · rename_i plan hplan
    split
    · exact hw
    · have hput := h.putSnapshot index renderer hw (snapshotPlan?_eq_some hplan).1
        (matchedQueries queries r)
      split <;> rename_i heq <;> rwa [heq] at hput

/-- **The steps of all rows** keep what one step keeps. -/
theorem planStaticRows (h : KeptBySnapshots directory suffix P) (hw : P w)
    (queries : List NamedQuery) (used : Used) (rows : List SortedRow) :
    P (planStaticRows index renderer directory suffix queries used w rows).1 := by
  induction rows generalizing used w with
  | nil => exact hw
  | cons r rest ih =>
    rw [planStaticRows_cons]
    have hrow := h.planStaticRow index renderer hw queries used r
    rcases hfirst : Tagging.planStaticRow index renderer directory suffix queries used w r with
      ⟨w₁, e | ⟨row, used₁⟩⟩
    · rwa [hfirst] at hrow
    rw [hfirst] at hrow
    have hrest := ih hrow used₁
    simp only
    rcases hlater : Tagging.planStaticRows index renderer directory suffix queries used₁ w₁ rest
      with ⟨w₂, e | ⟨rows, final⟩⟩ <;> rwa [hlater] at hrest

end KeptBySnapshots

/-- A property of workspaces that no step of a report destroys. -/
structure KeptByReport (P : Workspace → Prop) : Prop where
  /-- Noting what is asked of the index and the renderer. -/
  note : ∀ {w : Workspace} {e : Event}, e.phase? = none → P w → P (w.note e)
  /-- Making directories. -/
  makeDirectories : ∀ {w : Workspace} (p : Path), P w →
    P { w with tree := (w.tree.makeDirectories p).1 }
  /-- Writing a file. -/
  writeFile : ∀ {w : Workspace} {t : FileTree Content} {p : Path} {c : Content},
    w.tree.writeFile p c = .ok t → P w → P { w with tree := t }
  /-- Removing a file. -/
  removeFile : ∀ {w : Workspace} (p : Path), P w → P { w with tree := w.tree.removeFile p }
  /-- Removing a directory. -/
  removeTree : ∀ {w : Workspace} (p : Path), P w → P { w with tree := w.tree.removeTree p }

namespace KeptByReport

variable {P : Workspace → Prop} {w : Workspace}

/-- A write on a device, also one that is stopped. -/
theorem writeOn (h : KeptByReport P) (hw : P w) (p : Path) (c : Content) :
    P { w with tree := (w.tree.writeOn w.disk p c).1 } := by
  have hwrites := FileTree.writesOn w.disk w.tree p c
  rcases heq : w.tree.writeOn w.disk p c with ⟨t, result⟩
  rw [heq] at hwrites
  cases hwrites with
  | whole _ hwritten | partly _ hwritten => exact h.writeFile hwritten hw
  | untouched => exact hw

theorem placeSnapshot (h : KeptByReport P) (hw : P w) (path : Path) (text : String) :
    P { w with tree := (placeSnapshot w.disk w.tree path text).1 } := by
  unfold Tagging.placeSnapshot
  have hmade := h.makeDirectories (path.parent?.getD ⟨""⟩) hw
  simp only
  split
  · rename_i heq
    rwa [heq] at hmade
  · rename_i heq
    rw [heq] at hmade
    have hwritten := h.writeOn hmade path (.text text)
    split <;> rename_i hwrite <;> rwa [hwrite] at hwritten

theorem snapshots (h : KeptByReport P) (directory : Path) (suffix : String) :
    KeptBySnapshots directory suffix P :=
  ⟨h.note, fun text _ hw => h.placeSnapshot hw _ text⟩

/-- What no operation destroys, no step of a report destroys. -/
theorem ofTree {Q : FileTree Content → Prop} (h : FileTree.KeptByOperations Q) :
    KeptByReport fun w => Q w.tree :=
  ⟨fun _ ht => ht, fun p ht => h.makeDirectories ht p, fun hwritten ht => h.writeFile ht hwritten,
    fun p ht => h.removeFile ht p, fun p ht => h.removeTree ht p⟩

variable (x : Writer) (queries : List NamedQuery) (rows : List SortedRow)

theorem prepareDirectory (h : KeptByReport P) (hw : P w) : P (x.prepareDirectory w).1 := by
  unfold Writer.prepareDirectory
  split
  · exact hw
  · rename_i directory _
    have hmade := h.makeDirectories directory hw
    split <;> rename_i heq <;> rwa [heq] at hmade

theorem planRows (h : KeptByReport P) (hw : P w) : P (x.planRows queries rows w).1 := by
  unfold Writer.planRows
  simp only
  split
  · exact hw
  · split
    · exact (h.snapshots _ _).planStaticRows _ _ hw _ _ _
    · exact hw

theorem save (h : KeptByReport P) (hw : P w) (planned : List PlannedRow) :
    P (x.save queries planned w).1 := by
  unfold Writer.save
  split
  · exact hw
  · rename_i sheet _
    have hwritten := h.writeOn hw x.options.output (.sheet sheet)
    split <;> rename_i hwrite <;> rwa [hwrite] at hwritten

theorem emit (h : KeptByReport P) (hw : P w) : P (x.emit queries rows w).1 := by
  have hprepared := h.prepareDirectory x hw
  unfold Writer.emit
  simp only
  split
  · rename_i hfirst
    rwa [hfirst] at hprepared
  rename_i hfirst
  rw [hfirst] at hprepared
  have hplanned := h.planRows x queries (rows.take (x.options.shown rows.length)) hprepared
  split
  · rename_i hsecond
    rwa [hsecond] at hplanned
  rename_i planned used hsecond
  rw [hsecond] at hplanned
  have hsaved := h.save x queries hplanned planned
  split <;> rename_i hthird <;> rwa [hthird] at hsaved

theorem cleanUp (h : KeptByReport P) (hw : P w) (fresh : Option Path) :
    P (x.cleanUp fresh w) := by
  have hremoved := h.removeFile x.options.output hw
  unfold Writer.cleanUp
  cases fresh with
  | none => exact hremoved
  | some directory => exact h.removeTree directory hremoved

/-- **What the steps keep, the report keeps**, whether it succeeds or not. -/
theorem write (h : KeptByReport P) (hw : P w) : P (x.write queries rows w).2.1 := by
  have hemitted := h.emit x queries rows hw
  unfold Writer.write
  simp only
  split
  · exact hw
  · split
    · rename_i heq
      rwa [heq] at hemitted
    · rename_i heq
      rwa [heq] at hemitted
    · rename_i heq
      rw [heq] at hemitted
      exact h.cleanUp x hemitted _

end KeptByReport

namespace Writer

variable (x : Writer) (queries : List NamedQuery) (rows : List SortedRow) (w : Workspace)

/-- A report announces no phase. -/
theorem phases_write : (x.write queries rows w).2.1.phases = w.phases := by
  refine KeptByReport.write (P := fun w' => w'.phases = w.phases) x queries rows ?_ rfl
  refine ⟨fun {w' e} he hw' => ?_, fun _ h => h, fun _ h => h, fun _ h => h, fun _ h => h⟩
  rw [Workspace.phases_note_of_none w' he, hw']

/-- A report keeps a file tree well-formed. -/
theorem wellFormed_write (h : w.tree.WellFormed) :
    (x.write queries rows w).2.1.tree.WellFormed :=
  (KeptByReport.ofTree FileTree.WellFormed.kept).write x queries rows h

end Writer

/-! ## What a report that succeeds has done -/

/-- The links in a file that is a sheet, each with its row and column. -/
def Content.links : Content → List (Nat × Nat × StoredLink)
  | .sheet s => s.cells.filterMap (fun c => c.link.map (fun l => (c.row, c.column, l)))
  | _ => []

theorem exists_getElem?_of_forall₂ {α β : Type} {R : α → β → Prop} {as : List α} {bs : List β}
    (h : List.Forall₂ R as bs) {i : Nat} {b : β} (hb : bs[i]? = some b) :
    ∃ a, as[i]? = some a ∧ R a b := by
  induction h generalizing i with
  | nil => cases hb
  | cons hab _ ih =>
    cases i with
    | zero =>
      cases hb
      exact ⟨_, rfl, hab⟩
    | succ i => exact ih hb

theorem getElem?_of_take {α : Type} {n i : Nat} {as : List α} {a : α}
    (h : (as.take n)[i]? = some a) : as[i]? = some a := by
  rw [List.getElem?_take] at h
  split_ifs at h
  exact h

section Steps

variable (index : SearchIndex) (renderer : Renderer) (directory : Path) (suffix : String)
  (queries : List NamedQuery)

/-- What a row of a static report comes to: its planned row, and what is noted. -/
inductive StaticStep (r : SortedRow) : PlannedRow × List Event → Prop where
  /-- It has no link. -/
  | plain : StaticStep r (.ofRow r, [])
  /-- It has a link to its snapshot, for which its document was read and rendered. -/
  | linked {taken : List (List Component)} {plan : SnapshotPlan} {d : Document} {text : String}
      (planned : snapshotPlan? directory suffix taken r = some plan)
      (read : index.document plan.address = .answer d)
      (rendered : renderer.render d (matchedQueries queries r) = .answer text) :
      StaticStep r ({ PlannedRow.ofRow r with fileLink := some plan.link },
        [.opened plan.address, .rendered d.fileId ((matchedQueries queries r).map NamedQuery.id)])

variable {index renderer directory suffix queries} {w w' : Workspace}

theorem putSnapshot_eq_ok {plan : SnapshotPlan} {matched : List NamedQuery}
    (h : putSnapshot index renderer directory plan matched w = (w', .ok ())) :
    ∃ d text, index.document plan.address = .answer d ∧ renderer.render d matched = .answer text ∧
      placeSnapshot w.disk w.tree (directory.join plan.location) text = (w'.tree, .ok ()) ∧
      w'.journal =
        w.journal ++ [.opened plan.address, .rendered d.fileId (matched.map NamedQuery.id)] := by
  unfold putSnapshot at h
  simp only at h
  split at h
  · cases h
  · cases h
  rename_i d hread
  split at h
  · cases h
  · cases h
  rename_i text hrender
  split at h
  · rename_i tree hplaced
    obtain ⟨rfl, -⟩ := Prod.mk.inj h
    refine ⟨d, text, hread, hrender, hplaced, ?_⟩
    rw [Workspace.note, Workspace.note, List.append_assoc, List.singleton_append]
  · cases h

/-- **One row** takes one step. -/
theorem planStaticRow_eq_ok {used final : Used} {r : SortedRow} {row : PlannedRow}
    (h : planStaticRow index renderer directory suffix queries used w r = (w', .ok (row, final))) :
    ∃ events, StaticStep index renderer directory suffix queries r (row, events) ∧
      w'.journal = w.journal ++ events := by
  unfold planStaticRow at h
  split at h
  · cases h
    exact ⟨[], .plain, (List.append_nil _).symm⟩
  rename_i plan hplan
  split at h
  · cases h
    exact ⟨[], .plain, (List.append_nil _).symm⟩
  split at h
  · cases h
  · rename_i hput
    cases h
    obtain ⟨d, text, hread, hrender, -, hjournal⟩ := putSnapshot_eq_ok hput
    exact ⟨_, .linked hplan hread hrender, hjournal⟩

/-- **All rows** take one step each, in order. -/
theorem planStaticRows_eq_ok {used final : Used} {rows : List SortedRow} {planned : List PlannedRow}
    (h : planStaticRows index renderer directory suffix queries used w rows =
      (w', .ok (planned, final))) :
    ∃ steps, List.Forall₂ (StaticStep index renderer directory suffix queries) rows steps ∧
      steps.map Prod.fst = planned ∧ w'.journal = w.journal ++ steps.flatMap Prod.snd := by
  induction rows generalizing used w planned with
  | nil =>
    cases h
    exact ⟨[], .nil, rfl, (List.append_nil _).symm⟩
  | cons r rest ih =>
    rw [planStaticRows_cons] at h
    split at h
    · cases h
    rename_i w₁ row used₁ hrow
    obtain ⟨events, hstep, hjournal⟩ := planStaticRow_eq_ok hrow
    split at h
    · rename_i w₂ later final' hrest
      cases h
      obtain ⟨steps, hsteps, hplanned, hlater⟩ := ih hrest
      refine ⟨(row, events) :: steps, .cons hstep hsteps, by rw [List.map_cons, hplanned], ?_⟩
      rw [hlater, hjournal, List.append_assoc, List.flatMap_cons]
    · cases h

end Steps

namespace Writer

variable {x y : Writer} {queries : List NamedQuery} {rows : List SortedRow} {w w' : Workspace}
  {artifact : Artifact}

/-- **The rows of a static report**: without a place for snapshots or a renderer none has a link;
otherwise each takes its step. -/
theorem planRows_static_eq_ok {suffix : String} (hmode : x.options.mode = .static suffix)
    {planned : List PlannedRow} {used : Used}
    (h : x.planRows queries rows w = (w', .ok (planned, used))) :
    ∃ steps, List.Forall₂ (fun row step => step = (.ofRow row, []) ∨
        ∃ directory renderer, x.options.snapshotDirectory? = some directory ∧
          x.renderer = some renderer ∧
          StaticStep x.index renderer directory suffix queries row step) rows steps ∧
      steps.map Prod.fst = planned ∧ w'.journal = w.journal ++ steps.flatMap Prod.snd := by
  unfold planRows at h
  simp only [hmode] at h
  split at h
  · rename_i directory renderer hdirectory hrenderer
    obtain ⟨steps, hsteps, hplanned, hjournal⟩ := planStaticRows_eq_ok h
    exact ⟨steps, hsteps.imp fun _ _ hstep => .inr ⟨directory, renderer, hdirectory, hrenderer,
      hstep⟩, hplanned, hjournal⟩
  · cases h
    refine ⟨rows.map fun row => (.ofRow row, []), ?_, ?_, ?_⟩
    · exact List.forall₂_map_right_iff.2 (List.forall₂_same.2 fun row _ => .inl rfl)
    · rw [List.map_map]
      rfl
    · simp

/-- **A report that succeeds** has planned the rows that it shows, saved their sheet, and counted
its rows, links and snapshots. -/
theorem write_eq_ok (h : x.write queries rows w = (y, w', .ok artifact)) :
    ∃ w₁ w₂ planned used sheet tree,
      x.prepareDirectory w = (w₁, .ok ()) ∧
      x.planRows queries (rows.take (x.options.shown rows.length)) w₁ =
        (w₂, .ok (planned, used)) ∧
      layout queries planned = .ok sheet ∧
      w₂.tree.writeFile x.options.output (.sheet sheet) = .ok tree ∧
      w' = { w₂ with tree := tree } ∧
      artifact = ⟨x.options.output, x.options.snapshotDirectory?, planned.length, used.budget.used,
        used.taken.length, x.options.shown rows.length < rows.length⟩ := by
  unfold write at h
  simp only at h
  split at h
  · cases h
  split at h
  case h_2 => cases h
  case h_3 => cases h
  rename_i hemit
  cases h
  unfold emit at hemit
  simp only at hemit
  split at hemit
  · cases hemit
  rename_i w₁ hprepare
  split at hemit
  · cases hemit
  rename_i w₂ planned used hplan
  split at hemit
  · cases hemit
  rename_i w₃ hsave
  cases hemit
  unfold save at hsave
  split at hsave
  · cases hsave
  rename_i sheet hlayout
  split at hsave
  · rename_i tree hwrite
    cases hsave
    exact ⟨w₁, w₂, planned, used, sheet, tree, hprepare, hplan, hlayout,
      (FileTree.writeOn_eq_ok.1 hwrite).2, rfl, rfl⟩
  · cases hsave

/-- It has saved the sheet of the rows that it shows. -/
theorem exists_sheet_of_write (h : x.write queries rows w = (y, w', .ok artifact)) :
    ∃ w₁ w₂ planned used sheet tree,
      x.prepareDirectory w = (w₁, .ok ()) ∧
      x.planRows queries (rows.take (x.options.shown rows.length)) w₁ =
        (w₂, .ok (planned, used)) ∧
      layout queries planned = .ok sheet ∧
      w₂.tree.writeFile x.options.output (.sheet sheet) = .ok tree ∧
      w' = { w₂ with tree := tree } := by
  obtain ⟨w₁, w₂, planned, used, sheet, tree, hprepare, hplan, hlayout, hwrite, hend, -⟩ :=
    write_eq_ok h
  exact ⟨w₁, w₂, planned, used, sheet, tree, hprepare, hplan, hlayout, hwrite, hend⟩

end Writer

end Tagging
