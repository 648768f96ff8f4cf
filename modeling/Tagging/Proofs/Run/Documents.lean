import Tagging.Proofs.Report.Snapshots
import Tagging.Proofs.Run.Rows
import Tagging.Proofs.Store.Reordering

/-!
# Rows point at documents of their own file

The scores of a file come from its first hit under each query and what is shown of it from the last
one, through a store that keeps one entry a file.  So it has to be proved that what a row shows
belongs together and to the file of the row.

* `SortedRow.Depicts` — a row points at a document, and all that it shows is of this document;
* `Run.exists_shown_of_executeQueries` — **what the store shows of a file that has a score**;
* `SortedRow.ReadAgain` — what a static report does for a row;
* `documents_of_execute` — **every row of a run** depicts a document behind a hit of one of its
  queries, and a static report reads this document again.
-/

namespace Tagging

/-! ## Rows and documents -/

/-- The row points at the document at the address, and what it shows is of this document, each text
shortened. -/
structure SortedRow.Depicts (row : SortedRow) (index : SearchIndex) (address : Address)
    (d : Document) : Prop where
  /-- It points there. -/
  points : row.address = some address
  /-- The index has the document there. -/
  document : index.document address = .answer d
  /-- The file of the row is that of the document. -/
  fileId : row.fileId = firstChars maxFileIdLength d.fileId
  /-- So is the shown name. -/
  displayName : row.displayName = firstChars maxDisplayNameLength d.displayName
  /-- So is the place. -/
  relativePath : row.relativePath = firstChars maxRelativePathLength d.relativePath

/-- A row depicts the document that its file is shown as. -/
theorem SortedRow.depicts_of_shows {row : SortedRow} {index : SearchIndex} {address : Address}
    {d : Document} (hshows : Shows (some (.ofDocument address d)) row)
    (hread : index.document address = .answer d)
    (hfile : firstChars maxFileIdLength d.fileId = row.fileId) : row.Depicts index address d :=
  ⟨hshows.2.2, hread, hfile.symm, hshows.1, hshows.2.1⟩

namespace Run

/-- What a batch shows of a file is a document behind a hit that is looked at, and the batch scores
the file. -/
theorem exists_document_of_reply {r : Run} {e : Estimate} {q : NamedQuery} {batch : ScoreBatch}
    (hq : q ∈ r.queries) (hreply : r.crew.reply q (r.limit e q) = .answer batch) {f : String}
    {entry : DisplayEntry} (hentry : lastDisplay batch.displays f = some entry) :
    ∃ address d, entry = .ofDocument address d ∧ r.index.document address = .answer d ∧
      firstChars maxFileIdLength d.fileId = f ∧ (∃ x, r.Scored e (f, q.id) x) ∧
        ∃ looked, r.LooksAt e q looked ∧ address ∈ looked := by
  obtain ⟨hmem, rfl⟩ := mem_of_lastDisplay hentry
  obtain ⟨hfiles, hits, hsearch, hdocuments⟩ := displays_of_retrieve hreply
  obtain ⟨haddress, d, hread, heq⟩ := hdocuments entry hmem
  obtain ⟨row, hrow, hfile⟩ := List.mem_map.1 ((hfiles entry.fileId).1 (List.mem_map_of_mem hmem))
  have hscored := (mem_scores_of_reply hreply row.key row.weight).1 (List.mem_map_of_mem hrow)
  refine ⟨entry.address, d, heq, hread, (congrArg DisplayEntry.fileId heq).symm,
    ⟨row.weight, q, hq, rfl, ?_⟩, _, ⟨hits, hsearch, rfl⟩, haddress⟩
  rw [← hfile]
  exact hscored.2

/-- **What the store shows of a file that has a score**, if it showed nothing before the queries
were executed: a document of this file, behind a hit of a query that scores the file. -/
theorem exists_shown_of_executeQueries {r : Run} {env : Environment} {e : Estimate}
    {first second : Store} {v : Workspace} (hscores : first.scores = [])
    (hdisplays : first.displays = []) (h : (r.executeQueries env e first v).2 = .ok second)
    {key : ScoreKey} {x : Double} (hscored : r.Scored e key x) :
    ∃ address d, displayOf second.displays key.1 = some (.ofDocument address d) ∧
      r.index.document address = .answer d ∧ firstChars maxFileIdLength d.fileId = key.1 ∧
        ∃ q ∈ r.queries, (∃ x, r.Scored e (key.1, q.id) x) ∧
          ∃ looked, r.LooksAt e q looked ∧ address ∈ looked := by
  have hasc : Ascending keyLt first.scores := by
    rw [hscores]
    exact Ascending.nil
  obtain ⟨b, hreach, hok, rfl⟩ := executeQueries_eq_ok h
  have hdelivered := hreach.delivered hok
  obtain ⟨batches, hreplies, hperm⟩ := hdelivered.batches
  have hshown : displayOf b.store.displays key.1 = lastShown b.applied key.1 := by
    have hall := Store.displayOf_of_acceptance hasc (congrArg Prod.snd hdelivered.stored) key.1
    rw [hdelivered.stored, hdisplays] at hall
    exact hall.trans (Option.or_none ..)
  -- the batch of a query that scores the file shows it
  have hsome : lastShown b.applied key.1 ≠ none := by
    obtain ⟨q, hq, hid, hwhere⟩ := hscored
    have hwork : (q, r.limit e q) ∈ r.work e := List.mem_map_of_mem hq
    obtain ⟨batch, hbatch, hreply⟩ := exists_mem_of_forall₂ hreplies _ hwork
    obtain ⟨row, hrow, heq⟩ :=
      List.mem_map.1 ((mem_scores_of_reply hreply key x).2 ⟨hid, hwhere⟩)
    have hfile : row.fileId = key.1 := congrArg (fun p => p.1.1) heq
    have hmem := ((displays_of_retrieve hreply).1 key.1).2 (hfile ▸ List.mem_map_of_mem hrow)
    intro hnone
    exact lastDisplay_eq_none_iff.1
      (lastShown_eq_none_iff.1 hnone batch (hperm.mem_iff.2 hbatch)) hmem
  obtain ⟨entry, hentry⟩ := Option.ne_none_iff_exists'.1 hsome
  -- the last batch that shows the file is the reply to a query of the run
  obtain ⟨batch, hbatch, hlast⟩ := exists_of_lastShown_eq_some hentry
  obtain ⟨p, hp, hreply⟩ := exists_mem_of_forall₂ hreplies.flip batch (hperm.mem_iff.1 hbatch)
  obtain ⟨q, hq, rfl⟩ := List.mem_map.1 hp
  obtain ⟨address, d, rfl, hread, hfile, hby, hlooked⟩ := exists_document_of_reply hq hreply hlast
  exact ⟨address, d, hshown.trans hentry, hread, hfile, q, hq, hby, hlooked⟩

end Run

/-! ## Documents that are read again -/

/-- What a static report does for a row: without a link it asks nothing; with one it reads the
document that the row depicts and renders it under the queries that matched. -/
def SortedRow.ReadAgain (row : SortedRow) (index : SearchIndex) (queries : List NamedQuery)
    (step : PlannedRow × List Event) : Prop :=
  step = (.ofRow row, []) ∨
    ∃ link address d, row.Depicts index address d ∧
      step = ({ PlannedRow.ofRow row with fileLink := some link },
        [.opened address, .rendered d.fileId ((matchedQueries queries row).map NamedQuery.id)])

/-- The document behind a snapshot is the one that the row depicts. -/
theorem SortedRow.readAgain_of_staticStep {row : SortedRow} {index : SearchIndex}
    {renderer : Renderer} {directory : Path} {suffix : String} {queries : List NamedQuery}
    {step : PlannedRow × List Event} (hdepicts : ∃ address d, row.Depicts index address d)
    (h : StaticStep index renderer directory suffix queries row step) :
    row.ReadAgain index queries step := by
  cases h with
  | plain => exact .inl rfl
  | @linked taken plan d text planned read rendered =>
    obtain ⟨address, d', hrow⟩ := hdepicts
    have haddress : plan.address = address := by
      unfold snapshotPlan? at planned
      rw [hrow.points] at planned
      simp only at planned
      split_ifs at planned
      rw [← Option.some.inj planned]
    subst haddress
    obtain rfl : d' = d := Reply.answer.inj (hrow.document.symm.trans read)
    exact .inr ⟨plan.link, plan.address, d', hrow, rfl⟩

/-- **Every row of a run depicts a document of its file.**  Whatever order the workers took and
whichever backend the run used: each row of a run that succeeds points at a document behind one of
the hits that were looked at for a query under which the row has a weight, and file, name and place
of the row are those of this document, shortened.  So if the report is a static one over the same
index, what it noted ends with one step for each row that it shows, in order, and the step of a row
with a link reads the document that the row depicts.  The sheet of these rows is saved last, before
the scratch directory that the run made is removed. -/
theorem documents_of_execute (r : Run) (env : Environment) (w : Workspace) {s : Summary}
    (h : (r.execute env w).2.2 = .ok s) :
    (∀ row ∈ s.rows, ∃ address d, row.Depicts r.index address d ∧
      ∃ q ∈ r.queries, q.id ∈ row.matched ∧
        ∃ looked, r.LooksAt (r.estimate env) q looked ∧ address ∈ looked) ∧
    ∀ suffix, r.writer.options.mode = .static suffix → r.writer.index = r.index →
      ∃ early steps sheet,
        (r.execute env w).2.1.journal =
          early ++ steps.flatMap Prod.snd ++ [.phase .cleaningUp, .phase .finished] ∧
        layout r.queries (steps.map Prod.fst) = .ok sheet ∧
        (∃ (made t t' : FileTree Content) (scratch : Place),
          createScratch w.tree r.options.scratchRoot = .ok (made, scratch) ∧
          t.writeFile r.writer.options.output (.sheet sheet) = .ok t' ∧
          (r.execute env w).2.1.tree = removeScratch t' scratch) ∧
        List.Forall₂ (fun row step => row.ReadAgain r.index r.queries step)
          (s.rows.take (r.writer.options.shown s.rows.length)) steps := by
  obtain ⟨first, second, v, hscores, hdisplays, hexecute, htab, hshows, -⟩ :=
    Run.exists_table_of_execute h
  have hrows : ∀ row ∈ s.rows, ∃ address d, row.Depicts r.index address d ∧
      ∃ q ∈ r.queries, q.id ∈ row.matched ∧
        ∃ looked, r.LooksAt (r.estimate env) q looked ∧ address ∈ looked := by
    intro row hrow
    obtain ⟨id, x, hscored⟩ := (htab.files row.fileId).1 (List.mem_map_of_mem hrow)
    obtain ⟨address, d, hshown, hread, hfile, q, hq, ⟨y, hy⟩, hlooked⟩ :=
      Run.exists_shown_of_executeQueries hscores hdisplays hexecute hscored
    have hrowShows := hshows row hrow
    rw [hshown] at hrowShows
    have hweight : (q.id, y) ∈ row.weights := (htab.weights row hrow q.id y).2 hy
    exact ⟨address, d, SortedRow.depicts_of_shows hrowShows hread hfile, q, hq,
      List.mem_map_of_mem hweight, hlooked⟩
  refine ⟨hrows, fun suffix hmode hindex => ?_⟩
  obtain ⟨made, scratch, -, -, -, before, after, writer, hcreate, -, -, -, hwrite, htree,
    hjournal⟩ := Run.exists_report_of_execute h
  obtain ⟨w₁, w₂, planned, used, sheet, tree, hprepare, hplan, hlayout, hsave, rfl⟩ :=
    Writer.exists_sheet_of_write hwrite
  obtain ⟨steps, hsteps, rfl, hnoted⟩ := Writer.planRows_static_eq_ok hmode hplan
  refine ⟨w₁.journal, steps, sheet, ?_, hlayout,
    ⟨made, w₂.tree, tree, scratch, hcreate, hsave, htree⟩, ?_⟩
  · rw [hjournal, ← hnoted]
  · have hdepicts : ∀ row ∈ s.rows.take (r.writer.options.shown s.rows.length),
        ∃ address d, row.Depicts r.index address d := by
      intro row hrow
      obtain ⟨address, d, hrow, -⟩ := hrows row (List.mem_of_mem_take hrow)
      exact ⟨address, d, hrow⟩
    refine ((List.forall₂_and_left _ _).2 ⟨hdepicts, hsteps⟩).imp ?_
    rintro row step ⟨hrow, hplain | ⟨directory, renderer, -, -, hstep⟩⟩
    · exact .inl hplain
    · rw [hindex] at hstep
      exact SortedRow.readAgain_of_staticStep hrow hstep

/-- Two documents of one file that are shown differently, found in another order by two queries. -/
theorem documents_of_execute_two_names :
    let script : Script :=
      ⟨[(0, Script.namedDocument "x" "old" "a/x"), (1, Script.namedDocument "x" "new" "b/x")],
        [(1, [0, 1]), (2, [1, 0])], [], [], [], [], [], false⟩
    let queries : List NamedQuery := [⟨1, "one", "a", -1, -1⟩, ⟨2, "two", "b", -1, -1⟩]
    let writer : Writer := ⟨.snapshots ⟨"tags.xlsx"⟩, script.index, some .naming, false⟩
    let r : Run := ⟨queries, script.index,
      ⟨1, 1000, 1, 10, .inverseRank, .sqlite, some ⟨"scratch"⟩, 1⟩, writer, false⟩
    let env : Environment :=
      ⟨.started, fun _ _ _ => (⟨[(1, 2), (2, 2)], .complete⟩, [1, 2]), Board.inOrder, none⟩
    let w : Workspace :=
      ⟨⟨[(["work"], .directory), (["work", "scratch"], .directory)], ["work"]⟩, [], .sound⟩
    ∃ s, (r.execute env w).2.2 = .ok s ∧ s.rows.map SortedRow.fileId = ["x"] ∧
      (∀ row ∈ s.rows, ∃ address d, row.Depicts r.index address d ∧
        ∃ q ∈ r.queries, q.id ∈ row.matched ∧
          ∃ looked, r.LooksAt (r.estimate env) q looked ∧ address ∈ looked) ∧
      ∃ early steps sheet,
        (r.execute env w).2.1.journal =
          early ++ steps.flatMap Prod.snd ++ [.phase .cleaningUp, .phase .finished] ∧
        layout r.queries (steps.map Prod.fst) = .ok sheet ∧
        List.Forall₂ (fun row step => row.ReadAgain r.index r.queries step) s.rows steps := by
  intro script queries writer r env w
  have hfiles : (r.execute env w).2.2.map (fun s => s.rows.map SortedRow.fileId) = .ok ["x"] := by
    decide +kernel
  cases hs : (r.execute env w).2.2 with
  | error f =>
    rw [hs] at hfiles
    cases hfiles
  | ok s =>
    rw [hs] at hfiles
    obtain ⟨hrows, hstatic⟩ := documents_of_execute r env w hs
    obtain ⟨early, steps, sheet, hjournal, hlayout, -, hsteps⟩ := hstatic _ rfl rfl
    have hall : s.rows.take (r.writer.options.shown s.rows.length) = s.rows := List.take_length
    rw [hall] at hsteps
    exact ⟨s, rfl, Except.ok.inj hfiles, hrows, early, steps, sheet, hjournal, hlayout, hsteps⟩

end Tagging
