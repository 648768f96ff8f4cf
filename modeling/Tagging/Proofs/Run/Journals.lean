import Tagging.Proofs.Run.Course

/-!
# Journals do not matter

A run only ever adds to its journal.  So what it comes to and what it leaves in the file tree do not
depend on the journal, and two runs that execute their queries to the same end agree.

* `Workspace.Alike`, `Workspace.Agree` — two workspaces, and two outcomes, that agree but for their
  journals;
* `agree_putSnapshot`, `agree_planStaticRows` — snapshots;
* `Writer.agree_write` — **reports**;
* `Run.agree_scoreAndReport`, `Run.agree_execute` — **runs** in two environments.
-/

namespace Tagging

/-- Two workspaces hold the same files on the same device. -/
structure Workspace.Alike (w w' : Workspace) : Prop where
  /-- The files. -/
  tree : w.tree = w'.tree
  /-- The device. -/
  disk : w.disk = w'.disk

/-- Two outcomes agree: they come to the same and leave the same files. -/
structure Workspace.Agree {α : Type} (a b : Workspace × α) : Prop where
  /-- The files. -/
  alike : a.1.Alike b.1
  /-- What it comes to. -/
  result : a.2 = b.2

/-- Two outcomes that agree are one result with files of one kind. -/
theorem Workspace.Agree.split {α : Type} {a b : Workspace × α} (h : Agree a b) :
    ∃ v v' result, a = (v, result) ∧ b = (v', result) ∧ v.Alike v' := by
  obtain ⟨v, result⟩ := a
  obtain ⟨v', result'⟩ := b
  obtain ⟨halike, hresult⟩ := h
  obtain rfl : result = result' := hresult
  exact ⟨v, v', result, rfl, rfl, halike⟩

variable {w w' : Workspace}

/-- The same tree in both. -/
theorem Workspace.Alike.withTree (h : w.Alike w') (t : FileTree Content) :
    ({ w with tree := t } : Workspace).Alike { w' with tree := t } :=
  ⟨rfl, h.disk⟩

/-- Notes in both. -/
theorem Workspace.Alike.note (h : w.Alike w') (e e' : Event) : (w.note e).Alike (w'.note e') :=
  ⟨h.tree, h.disk⟩

/-- The same phase in both. -/
theorem Workspace.Alike.announce {α : Type} (h : w.Alike w') (p : Phase)
    (result : Except Failure α) : (w.announce p result).Alike (w'.announce p result) := by
  unfold Workspace.announce
  split_ifs
  · exact h
  · exact h.note _ _

/-! ## Snapshots -/

section Snapshots

variable (index : SearchIndex) (renderer : Renderer) (directory : Path)

theorem agree_putSnapshot (plan : SnapshotPlan) (matched : List NamedQuery)
    (h : w.Alike w') : Workspace.Agree (putSnapshot index renderer directory plan matched w)
      (putSnapshot index renderer directory plan matched w') := by
  unfold putSnapshot
  simp only [Workspace.tree_note, Workspace.disk_note, h.tree, h.disk]
  cases index.document plan.address with
  | failure message => exact ⟨h.note _ _, rfl⟩
  | breakdown => exact ⟨h.note _ _, rfl⟩
  | answer d =>
    dsimp only
    cases renderer.render d matched with
    | failure message => exact ⟨(h.note _ _).note _ _, rfl⟩
    | breakdown => exact ⟨(h.note _ _).note _ _, rfl⟩
    | answer text =>
      dsimp only
      rcases placeSnapshot w'.disk w'.tree (directory.join plan.location) text with
        ⟨tree, _ | _⟩ <;> exact ⟨⟨rfl, rfl⟩, rfl⟩

/-- A row is put before those that follow it. -/
theorem agree_prepend (row : PlannedRow)
    {a b : Workspace × Except Failure (List PlannedRow × Used)} :
    Workspace.Agree a b → @Workspace.Agree (Except Failure (List PlannedRow × Used))
      (match a with
        | (v, .ok (rows, final)) => (v, .ok (row :: rows, final))
        | (v, .error e) => (v, .error e))
      (match b with
        | (v, .ok (rows, final)) => (v, .ok (row :: rows, final))
        | (v, .error e) => (v, .error e)) := by
  intro h
  obtain ⟨v, v', result, rfl, rfl, halike⟩ := h.split
  cases result <;> exact ⟨halike, rfl⟩

/-- **The rows of a static report** and its snapshots. -/
theorem agree_planStaticRows (suffix : String) (queries : List NamedQuery) (rows : List SortedRow)
    (used : Used) (h : w.Alike w') :
    Workspace.Agree (planStaticRows index renderer directory suffix queries used w rows)
      (planStaticRows index renderer directory suffix queries used w' rows) := by
  induction rows generalizing used w w' with
  | nil => exact ⟨h, rfl⟩
  | cons r rest ih =>
    rw [planStaticRows, planStaticRows]
    cases snapshotPlan? directory suffix used.taken r with
    | none => exact agree_prepend _ (ih _ h)
    | some plan =>
      dsimp only
      cases used.budget.take? with
      | none => exact agree_prepend _ (ih _ h)
      | some left =>
        dsimp only
        obtain ⟨v, v', result, hput, hput', halike⟩ :=
          (agree_putSnapshot index renderer directory plan (matchedQueries queries r) h).split
        rw [hput, hput']
        cases result with
        | error e => exact ⟨halike, rfl⟩
        | ok u => exact agree_prepend _ (ih _ halike)

end Snapshots

/-! ## Reports -/

namespace Writer

variable (x : Writer) (queries : List NamedQuery) (rows : List SortedRow)

theorem agree_prepareDirectory (h : w.Alike w') :
    Workspace.Agree (x.prepareDirectory w) (x.prepareDirectory w') := by
  unfold prepareDirectory
  simp only [h.tree]
  cases x.options.snapshotDirectory? with
  | none => exact ⟨h, rfl⟩
  | some directory =>
    dsimp only
    rcases w'.tree.makeDirectories directory with ⟨tree, _ | _⟩ <;>
      exact ⟨h.withTree tree, rfl⟩

theorem agree_planRows (h : w.Alike w') :
    Workspace.Agree (x.planRows queries rows w) (x.planRows queries rows w') := by
  unfold planRows
  cases x.options.mode with
  | live base => exact ⟨h, rfl⟩
  | static suffix =>
    dsimp only
    split
    · exact agree_planStaticRows _ _ _ suffix queries rows _ h
    · exact ⟨h, rfl⟩

theorem agree_save (planned : List PlannedRow) (h : w.Alike w') :
    Workspace.Agree (x.save queries planned w) (x.save queries planned w') := by
  unfold save
  simp only [h.tree, h.disk]
  cases layout queries planned with
  | error f => exact ⟨h, rfl⟩
  | ok sheet =>
    dsimp only
    rcases w'.tree.writeOn w'.disk x.options.output (.sheet sheet) with ⟨tree, _ | _⟩ <;>
      exact ⟨⟨rfl, rfl⟩, rfl⟩

theorem agree_emit (h : w.Alike w') :
    Workspace.Agree (x.emit queries rows w) (x.emit queries rows w') := by
  unfold emit
  obtain ⟨v₁, v₁', result, hprepare, hprepare', hprepared⟩ := (x.agree_prepareDirectory h).split
  rw [hprepare, hprepare']
  cases result with
  | error e => exact ⟨hprepared, rfl⟩
  | ok u =>
    dsimp only
    obtain ⟨v₂, v₂', result, hplan, hplan', hplanned⟩ :=
      (x.agree_planRows queries (rows.take (x.options.shown rows.length)) hprepared).split
    rw [hplan, hplan']
    rcases result with e | ⟨planned, used⟩
    · exact ⟨hplanned, rfl⟩
    · dsimp only
      obtain ⟨v₃, v₃', result, hsave, hsave', hsaved⟩ :=
        (x.agree_save queries planned hplanned).split
      rw [hsave, hsave']
      cases result <;> exact ⟨hsaved, rfl⟩

/-- **Writing a report** comes to the same whatever the journal says. -/
theorem agree_write (h : w.Alike w') :
    Workspace.Agree (x.write queries rows w).2 (x.write queries rows w').2 := by
  unfold write
  split_ifs
  · exact ⟨h, rfl⟩
  dsimp only
  have hfresh : x.freshDirectory? w = x.freshDirectory? w' := by
    rw [freshDirectory?, h.tree, freshDirectory?]
  obtain ⟨v, v', result, hemit, hemit', hemitted⟩ := (x.agree_emit queries rows h).split
  rw [hemit, hemit']
  have hcleaned : (x.cleanUp (x.freshDirectory? w) v).Alike
      (x.cleanUp (x.freshDirectory? w') v') := by
    rw [hfresh]
    unfold cleanUp
    dsimp only
    rw [hemitted.tree]
    exact hemitted.withTree _
  cases result with
  | ok artifact => exact ⟨hemitted, rfl⟩
  | error e =>
    cases e with
    | breakdown => exact ⟨hemitted, rfl⟩
    | request | alreadyDone | index | storage | report | render | worker => exact ⟨hcleaned, rfl⟩

end Writer

/-! ## Runs -/

/-- What a run found: all of its summary but what was counted before. -/
def Summary.found (s : Summary) : Nat × List SortedRow × Artifact :=
  (s.filesScored, s.rows, s.artifact)

namespace Run

variable {r : Run} {env env' : Environment} {e e' : Estimate}

/-- How executing the queries ends is told from the board on which it ends. -/
theorem executeQueries_eq (store : Store) (w : Workspace) :
    r.executeQueries env e store w =
      (w.noteAll (r.crew.drive env.schedule (Board.start (r.work e) store)).journal,
        match (r.crew.drive env.schedule (Board.start (r.work e) store)).verdict with
        | some (.ok ()) => .ok (r.crew.drive env.schedule (Board.start (r.work e) store)).store
        | some (.error f) => .error f
        | none => .error .worker) := by
  unfold executeQueries
  dsimp only
  rcases (r.crew.drive env.schedule (Board.start (r.work e) store)).verdict with _ | _ | _ <;> rfl

/-- The queries are executed to the same end, whatever store they begin with. -/
def ExecutesAlike (r : Run) (env env' : Environment) (e e' : Estimate) : Prop :=
  ∀ store w w', (r.executeQueries env e store w).2 = (r.executeQueries env' e' store w').2

/-- **Gathering rows and writing the report** comes to the same if the queries are executed to the
same end. -/
theorem agree_scoreAndReport (halike : r.ExecutesAlike env env' e e') (store : Store)
    (h : w.Alike w') : Workspace.Agree (r.scoreAndReport env e store w).2
      (r.scoreAndReport env' e' store w').2 := by
  unfold scoreAndReport
  rcases store.insertQueries (r.queries.map NamedQuery.record) with ⟨first, _ | _⟩
  · exact ⟨h.note _ _, rfl⟩
  dsimp only
  have hresult := halike first (w.note (.phase .loadingQueries)) (w'.note (.phase .loadingQueries))
  rcases hexecute : r.executeQueries env e first (w.note (.phase .loadingQueries)) with
    ⟨v, result⟩
  rcases hexecute' : r.executeQueries env' e' first (w'.note (.phase .loadingQueries)) with
    ⟨v', result'⟩
  have hgathered : v.Alike v' := by
    rw [executeQueries_eq] at hexecute hexecute'
    obtain ⟨rfl, -⟩ := Prod.mk.inj hexecute
    obtain ⟨rfl, -⟩ := Prod.mk.inj hexecute'
    exact ⟨h.tree, h.disk⟩
  rw [hexecute, hexecute'] at hresult
  obtain rfl : result = result' := hresult
  rcases result with f | second
  · exact ⟨hgathered, rfl⟩
  dsimp only
  rcases addUp second with f | ⟨files, rows⟩
  · exact ⟨hgathered.note _ _, rfl⟩
  dsimp only
  have hbefore := (hgathered.note (.phase .aggregating) (.phase .aggregating)).note
    (.phase .writingReport) (.phase .writingReport)
  obtain ⟨hwritten, hresult⟩ := r.writer.agree_write r.queries rows hbefore
  rcases hwrite : r.writer.write r.queries rows
    ((v.note (.phase .aggregating)).note (.phase .writingReport)) with ⟨writer, after, result⟩
  rcases hwrite' : r.writer.write r.queries rows
    ((v'.note (.phase .aggregating)).note (.phase .writingReport)) with ⟨writer', after', result'⟩
  rw [hwrite, hwrite'] at hwritten hresult
  obtain rfl : result = result' := hresult
  cases result <;> exact ⟨hwritten, rfl⟩

theorem agree_workInStore (halike : r.ExecutesAlike env env' e e')
    (hfault : env.databaseFault = env'.databaseFault) (scratch : Place) (h : w.Alike w') :
    Workspace.Agree (r.workInStore env e scratch w).2 (r.workInStore env' e' scratch w').2 := by
  unfold workInStore
  rw [h.tree, hfault]
  rcases openStore w'.tree scratch r.options.backend .database env'.databaseFault with
    ⟨tree, _ | store⟩
  · exact ⟨h.withTree tree, rfl⟩
  · exact agree_scoreAndReport halike store (h.withTree tree)

theorem agree_workInScratch (halike : r.ExecutesAlike env env' e e')
    (hfault : env.databaseFault = env'.databaseFault) (h : w.Alike w') :
    Workspace.Agree (r.workInScratch env e w).2 (r.workInScratch env' e' w').2 := by
  unfold workInScratch
  rw [h.tree]
  rcases createScratch w'.tree r.options.scratchRoot with f | ⟨tree, scratch⟩
  · exact ⟨h, rfl⟩
  obtain ⟨hworked, hresult⟩ := agree_workInStore halike hfault scratch (h.withTree tree)
  dsimp only
  rw [hresult, (hworked.announce _ _).tree]
  exact ⟨(hworked.announce _ _).withTree _, rfl⟩

/-- **Two runs agree**, but for what was counted, if they begin at the same time and execute their
queries to the same end. -/
theorem agree_execute (halike : r.ExecutesAlike env env' (r.estimate env) (r.estimate env'))
    (hclock : env.clock = env'.clock) (hfault : env.databaseFault = env'.databaseFault)
    (w : Workspace) :
    (r.execute env w).2.1.tree = (r.execute env' w).2.1.tree ∧
      (r.execute env w).2.2.map Summary.found = (r.execute env' w).2.2.map Summary.found := by
  by_cases hexecuted : r.executed = true
  · rw [execute, if_pos hexecuted, execute, if_pos hexecuted]
    exact ⟨rfl, rfl⟩
  have hfresh : r.executed = false := by simpa using hexecuted
  by_cases htimed : env.clock.Reaches r.options.estimatorBudget
  swap
  · rw [execute_of_not_reaches hfresh htimed, execute_of_not_reaches hfresh (hclock ▸ htimed)]
    exact ⟨rfl, rfl⟩
  have hbegun : (r.begun env w).Alike (r.begun env' w) := ⟨rfl, rfl⟩
  obtain ⟨hworked, hresult⟩ := agree_workInScratch halike hfault hbegun
  rcases hwork : r.workInScratch env (r.estimate env) (r.begun env w) with ⟨writer, v, result⟩
  rcases hwork' : r.workInScratch env' (r.estimate env') (r.begun env' w) with
    ⟨writer', v', result'⟩
  rw [hwork, hwork'] at hworked hresult
  obtain rfl : result = result' := hresult
  rw [execute_eq hfresh htimed hwork, execute_eq hfresh (hclock ▸ htimed) hwork']
  refine ⟨?_, ?_⟩
  · rw [Workspace.tree_announce, Workspace.tree_announce]
    exact hworked.tree
  · cases result <;> rfl

end Run

end Tagging
