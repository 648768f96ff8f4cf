import Tagging.Index
import Tagging.Proofs.Report.Failures
import Tagging.Proofs.Report.Snapshots
import Tagging.Proofs.Run.Course

/-!
# How runs end

What a run has announced and what it leaves behind when it is over, whatever came of it: any
queries, any replies of the index, any order of the workers, any file tree.

* `phases_of_execute` — the **phases** of a run stand in order, with exactly one
  that ends it, unless the run breaks down; and a run that was executed does nothing any more;
* `runs_without_end` — runs that break down;
* `Run.wellFormed_execute` — a run keeps file trees well-formed;
* `tree_of_execute` — **no scratch directory is left**, and a run that ends before its report leaves
  the tree as it was.
-/

namespace Tagging

variable {r : Run} {env : Environment} {w : Workspace}

/-! ## Phases -/

/-- No phase between the first two and the last one ends a run. -/
theorem Phase.isTerminal_of_mem_course {n : Nat} {p : Phase}
    (h : p ∈ Phase.course n ++ [.cleaningUp]) : p.isTerminal = false := by
  have hcases : p = .loadingQueries ∨ (∃ k, p = .executing k n) ∨ p = .aggregating ∨
      p = .writingReport ∨ p = .cleaningUp := by
    simp only [course, gathering, counts, List.mem_append, List.mem_cons, List.mem_map,
      List.not_mem_nil, or_false] at h
    rcases h with (((h | (⟨k, -, h⟩ | h)) | h) | h)
    · exact .inl h
    · exact .inr (.inl ⟨k, h.symm⟩)
    · exact .inr (.inr (.inl h))
    · exact .inr (.inr (.inr (.inl h)))
    · exact .inr (.inr (.inr (.inr h)))
  rcases hcases with rfl | ⟨k, rfl⟩ | rfl | rfl | rfl <;> rfl

/-- A run that was executed does nothing. -/
theorem Run.execute_of_executed (hexecuted : r.executed = true) (env : Environment)
    (w : Workspace) : r.execute env w = (r, w, .error (.alreadyDone .executeRun)) := by
  rw [Run.execute, if_pos hexecuted]

theorem Run.executed_execute (r : Run) (env : Environment) (w : Workspace) :
    (r.execute env w).1.executed = true := by
  by_cases hexecuted : r.executed = true
  · rw [r.execute_of_executed hexecuted]
    exact hexecuted
  · rw [Run.execute, if_neg hexecuted]

/-- A run breaks down with its report or because its deadline is no instant. -/
theorem Run.breaksDown_of_execute (hfresh : r.executed = false)
    (htimed : env.clock.Reaches r.options.estimatorBudget)
    (hbroke : (r.execute env w).2.2 = .error .breakdown) :
    BreaksDown r.writer.index r.writer.renderer := by
  have hcourse := Run.course_of_execute hfresh env w
  rw [hbroke] at hcourse
  generalize hresult : (Except.error .breakdown : Except Failure Summary) = result at hcourse
  cases hcourse with
  | timeless endless => exact absurd htimed endless
  | unhoused => cases hresult
  | early timed created partly returns => exact absurd (Except.error.inj hresult).symm returns
  | @report _ _ _ _ _ before _ _ rows _ written timed created inserted retrieved summed opened
      wrote =>
    cases written with
    | ok artifact => cases hresult
    | error f =>
      cases hresult
      exact Writer.ofReport_write (congrArg (fun x => x.2.2) wrote)

/-- **The phases of a run** whose deadline is an instant.  It does not break down unless the index
or the renderer of its report does.  If it comes to a result, it announces that it counts and that
it prepares its storage, then a middle part, then one phase that ends it, and no other phase ends
it.  The middle part is empty if there is no scratch directory, and only then; else it is a part of
the course from its beginning, followed by the removal of the scratch directory.  The run is
announced as finished if it succeeds, and then its course is complete; else as failed.  If it breaks
down, it announces its course up to the report and nothing more.  And a run that is executed again,
whatever came of it and in whatever surroundings, says so and neither announces nor asks nor changes
anything. -/
theorem phases_of_execute (hfresh : r.executed = false) (env : Environment) (w : Workspace) :
    (env.clock.Reaches r.options.estimatorBudget →
      (¬ BreaksDown r.writer.index r.writer.renderer →
        (r.execute env w).2.2 ≠ .error .breakdown) ∧
      ((r.execute env w).2.2 ≠ .error .breakdown → ∃ middle,
        (r.execute env w).2.1.phases = w.phases ++ ([.estimating, .preparingStorage] ++ middle ++
          [if (r.execute env w).2.2.isOk then .finished else .failed]) ∧
        (∀ p ∈ [.estimating, .preparingStorage] ++ middle, p.isTerminal = false) ∧
        (middle = [] ↔ ∃ f, createScratch w.tree r.options.scratchRoot = .error f) ∧
        (middle ≠ [] →
          ∃ done, middle = done ++ [.cleaningUp] ∧ done <+: Phase.course r.queries.length) ∧
        ((r.execute env w).2.2.isOk = true →
          middle = Phase.course r.queries.length ++ [.cleaningUp])) ∧
      ((r.execute env w).2.2 = .error .breakdown →
        (r.execute env w).2.1.phases =
          w.phases ++ ([.estimating, .preparingStorage] ++ Phase.course r.queries.length))) ∧
    ∀ env' w', (r.execute env w).1.execute env' w' =
      ((r.execute env w).1, w', .error (.alreadyDone .executeRun)) := by
  refine ⟨fun htimed => ⟨fun hsteady hbroke =>
      hsteady (Run.breaksDown_of_execute hfresh htimed hbroke), ?_⟩,
    fun env' w' => Run.execute_of_executed (r.executed_execute env w) env' w'⟩
  have hcourse := Run.course_of_execute hfresh env w
  generalize (r.execute env w).2.1 = w', (r.execute env w).2.2 = result at hcourse ⊢
  -- where there is a scratch directory the middle part ends with its removal
  have hmiddle : ∀ done : List Phase, done <+: Phase.course r.queries.length →
      ∀ p ∈ [.estimating, .preparingStorage] ++ (done ++ [.cleaningUp]), p.isTerminal = false := by
    intro done hdone p hp
    rcases List.mem_append.1 hp with hp | hp
    · rcases List.mem_pair.1 hp with rfl | rfl <;> rfl
    · refine Phase.isTerminal_of_mem_course (n := r.queries.length) ?_
      rcases List.mem_append.1 hp with hp | hp
      · exact List.mem_append_left _ (hdone.subset hp)
      · exact List.mem_append_right _ hp
  have hhoused : ∀ {done : List Phase} {t : FileTree Content} {scratch : Place},
      createScratch w.tree r.options.scratchRoot = .ok (t, scratch) →
      (done ++ [.cleaningUp] = [] ↔
        ∃ f, createScratch w.tree r.options.scratchRoot = .error f) := by
    intro done t scratch created
    refine iff_of_false (by simp) ?_
    rintro ⟨f, hf⟩
    rw [created] at hf
    cases hf
  cases hcourse with
  | timeless endless => exact absurd htimed endless
  | @unhoused f _ refused tree phases =>
    refine ⟨fun _ => ⟨[], phases, by decide, iff_of_true rfl ⟨f, refused⟩,
      fun h => absurd rfl h, fun h => nomatch h⟩, fun h => nomatch h⟩
  | @early t scratch done f _ created partly returns tree phases =>
    have hdone : done <+: Phase.course r.queries.length :=
      partly.trans (List.prefix_append _ _)
    refine ⟨fun _ => ⟨done ++ [.cleaningUp], ?_, hmiddle done hdone, hhoused created,
      fun _ => ⟨done, rfl, hdone⟩, fun h => nomatch h⟩,
      fun h => absurd (Except.error.inj h) returns⟩
    rw [phases]
    simp [Except.isOk, Except.toBool]
  | @report t scratch first second v before after files rows writer written _ created inserted
      retrieved summed opened wrote tree journal phases =>
    refine ⟨fun hreturns => ⟨Phase.course r.queries.length ++ [.cleaningUp], ?_,
      hmiddle _ List.prefix_rfl, hhoused created, fun _ => ⟨_, rfl, List.prefix_rfl⟩,
      fun _ => rfl⟩, fun hbroke => ?_⟩
    · rw [phases]
      cases written with
      | ok artifact => simp [Except.map, Except.isOk, Except.toBool]
      | error f =>
        rw [ending_error fun hbroke => hreturns (congrArg Except.error hbroke)]
        simp [Except.map, Except.isOk, Except.toBool]
    · rw [phases]
      cases written with
      | ok artifact => cases hbroke
      | error f =>
        obtain rfl : f = .breakdown := Except.error.inj hbroke
        rw [ending_breakdown, List.append_nil]

/-- Two queries, the second one with a worker that breaks down. -/
theorem phases_of_execute_breakdown :
    let script : Script := ⟨[(0, Script.plainDocument "x")], [(1, [0]), (2, [0])], [], [], [], [],
      [], false⟩
    let index : SearchIndex := { script.index with
      search := fun q limit => if q.id = 2 then .breakdown else script.index.search q limit }
    let queries : List NamedQuery := [⟨1, "one", "a", -1, -1⟩, ⟨2, "two", "b", -1, -1⟩]
    let writer : Writer := ⟨.snapshots ⟨"tags.xlsx"⟩, index, none, false⟩
    let r : Run := ⟨queries, index,
      ⟨1, 1000, 1, 10, .inverseRank, .sqlite, some ⟨"scratch"⟩, 1⟩, writer, false⟩
    let w : Workspace :=
      ⟨⟨[(["work"], .directory), (["work", "scratch"], .directory)], ["work"]⟩, [], .sound⟩
    let env : Environment :=
      ⟨.started, fun _ _ _ => (⟨[(1, 1)], .incomplete [2] []⟩, [1, 2]), Board.inOrder, none⟩
    r.executed = false ∧ env.clock.Reaches r.options.estimatorBudget ∧
      (r.execute env w).2.2 = .error .worker ∧
      (∃ middle, (r.execute env w).2.1.phases =
        [.estimating, .preparingStorage] ++ middle ++ [.failed] ∧
        ∃ done, middle = done ++ [.cleaningUp] ∧ done <+: Phase.course 2) ∧
      ∀ env' w', (r.execute env w).1.execute env' w' =
        ((r.execute env w).1, w', .error (.alreadyDone .executeRun)) := by
  intro script index queries writer r w env
  have hreaches : env.clock.Reaches r.options.estimatorBudget := by decide +kernel
  have hfailed : (r.execute env w).2.2 = .error .worker := by
    have hworker : (r.execute env w).2.2.map Summary.filesScored = .error .worker := by
      decide +kernel
    rcases hresult : (r.execute env w).2.2 with f | s
    · rw [hresult] at hworker
      cases hworker
      rfl
    · rw [hresult] at hworker
      cases hworker
  have hcreated : (createScratch w.tree r.options.scratchRoot).isOk = true := by decide +kernel
  obtain ⟨hrun, hagain⟩ := phases_of_execute (r := r) rfl env w
  obtain ⟨-, hreturns, -⟩ := hrun hreaches
  obtain ⟨middle, hphases, -, hempty, hnonempty, -⟩ := hreturns (by rw [hfailed]; simp)
  refine ⟨rfl, hreaches, hfailed, ⟨middle, ?_, hnonempty fun hnil => ?_⟩, hagain⟩
  · rw [hphases, hfailed]
    rfl
  · obtain ⟨f, hf⟩ := hempty.1 hnil
    rw [hf] at hcreated
    cases hcreated

/-- **Runs without an end.**  The first one counts for so long that its deadline is no instant, and
announces nothing but that it counts; the second one breaks down with the renderer, and announces
nothing after its report.  Neither announces that it failed. -/
theorem runs_without_end :
    let script : Script := ⟨[(0, Script.plainDocument "x")], [(1, [0])], [], [], [], [], [], false⟩
    let queries : List NamedQuery := [⟨1, "one", "a", -1, -1⟩]
    let options : RunOptions := ⟨1, 9223372036854775807 * 1000, 1, 10, .inverseRank, .memory,
      some ⟨"scratch"⟩, 1⟩
    let live : Writer := ⟨⟨⟨"tags.xlsx"⟩, .live ⟨"http".toList,
      some ⟨[], none, some (.domain "h".toList), none⟩, .segments ["s".toList], none, none⟩,
      none, 10⟩, script.index, none, false⟩
    let breaking : Writer :=
      ⟨.snapshots ⟨"tags.xlsx"⟩, script.index, some ⟨fun _ _ => .breakdown⟩, false⟩
    let long : Run := ⟨queries, script.index, options, live, false⟩
    let broken : Run :=
      ⟨queries, script.index, { options with estimatorBudget := 1000 }, breaking, false⟩
    let w : Workspace :=
      ⟨⟨[(["work"], .directory), (["work", "scratch"], .directory)], ["work"]⟩, [], .sound⟩
    (long.execute .inOrder w).2.2 = .error .breakdown ∧
      (long.execute .inOrder w).2.1.phases = [.estimating] ∧
      (broken.execute .inOrder w).2.2 = .error .breakdown ∧
      (broken.execute .inOrder w).2.1.phases = [.estimating, .preparingStorage, .loadingQueries,
        .executing 0 1, .executing 1 1, .aggregating, .writingReport] := by
  intro script queries options live breaking long broken w
  have hlong : ¬ (Environment.inOrder.clock).Reaches long.options.estimatorBudget := by
    decide +kernel
  rw [Run.execute_of_not_reaches rfl hlong]
  have hbroken : brokeDown (broken.execute .inOrder w).2.2 = true := by decide +kernel
  exact ⟨rfl, rfl, brokeDown_iff.1 hbroken, by decide +kernel⟩

/-! ## Files -/

/-- A run keeps a file tree well-formed. -/
theorem Run.wellFormed_execute (hwell : w.tree.WellFormed) (r : Run) (env : Environment) :
    (r.execute env w).2.1.tree.WellFormed := by
  by_cases hexecuted : r.executed = true
  · rw [r.execute_of_executed hexecuted]
    exact hwell
  have hcourse := r.course_of_execute (by simpa using hexecuted) env w
  generalize (r.execute env w).2.1 = w', (r.execute env w).2.2 = result at hcourse ⊢
  cases hcourse with
  | timeless endless tree phases => rwa [tree]
  | unhoused _ refused tree phases => rwa [tree]
  | early _ created partly returns tree phases =>
    rw [tree]
    exact (wellFormed_openStore hwell created _ _ _).prune _
  | @report t scratch first second v before after files rows writer written _ created inserted
      retrieved summed opened wrote tree journal phases =>
    have hbefore : before.tree.WellFormed := by
      rw [opened]
      exact wellFormed_openStore hwell created _ _ _
    have hafter := r.writer.wellFormed_write r.queries rows before hbefore
    rw [wrote] at hafter
    rw [tree]
    exact hafter.prune _

/-- **What a run leaves behind.**  Take any run in a well-formed file tree, whatever it comes to.
The scratch directory that it makes, if it makes one, is a place where nothing stood, and in the end
nothing stands there or below.  And unless the run has announced its report, the tree is what it was
before. -/
theorem tree_of_execute (hwell : w.tree.WellFormed) (r : Run) (env : Environment) :
    (∀ t scratch, createScratch w.tree r.options.scratchRoot = .ok (t, scratch) →
      (∀ p, scratch <+: p → w.tree.get? p = none) ∧
      ∀ p, scratch <+: p → (r.execute env w).2.1.tree.get? p = none) ∧
    ∃ published, (r.execute env w).2.1.phases = w.phases ++ published ∧
      (.writingReport ∉ published → (r.execute env w).2.1.tree = w.tree) := by
  have hbefore : ∀ t scratch, createScratch w.tree r.options.scratchRoot = .ok (t, scratch) →
      ∀ p, scratch <+: p → w.tree.get? p = none :=
    fun t scratch hcreate p hp => get?_of_createScratch hcreate hwell hp
  by_cases hexecuted : r.executed = true
  · rw [r.execute_of_executed hexecuted]
    exact ⟨fun t scratch hcreate => ⟨hbefore t scratch hcreate, hbefore t scratch hcreate⟩,
      [], (List.append_nil _).symm, fun _ => rfl⟩
  have hcourse := r.course_of_execute (by simpa using hexecuted) env w
  generalize (r.execute env w).2.1 = w', (r.execute env w).2.2 = result at hcourse ⊢
  cases hcourse with
  | timeless endless tree phases =>
    refine ⟨fun t scratch hcreate => ⟨hbefore t scratch hcreate, ?_⟩, _, phases, fun _ => tree⟩
    rw [tree]
    exact hbefore t scratch hcreate
  | @unhoused f _ refused tree phases =>
    refine ⟨fun t scratch hcreate => ?_, _, phases, fun _ => tree⟩
    rw [refused] at hcreate
    cases hcreate
  | @early t scratch done f _ created partly returns tree phases =>
    have hsame : w'.tree = w.tree := by
      rw [tree]
      exact removeScratch_openStore hwell created _ _ _
    refine ⟨fun t' scratch' hcreate => ⟨hbefore t' scratch' hcreate, ?_⟩, _, phases, fun _ => hsame⟩
    rw [hsame]
    exact hbefore t' scratch' hcreate
  | @report t scratch first second v before after files rows writer written _ created inserted
      retrieved summed opened wrote tree journal phases =>
    refine ⟨fun t' scratch' hcreate => ⟨hbefore t' scratch' hcreate, fun p hp => ?_⟩, _, phases,
      fun hsilent => ?_⟩
    · rw [created] at hcreate
      cases hcreate
      rw [tree]
      exact get?_removeScratch created after.tree hp
    · -- the report is announced
      exact absurd (by simp [Phase.course]) hsilent

/-- A document cannot be read, and a report of an earlier run stands where this one would be. -/
theorem tree_of_execute_unreadable :
    let script : Script := ⟨[(0, Script.plainDocument "x")], [(1, [0])], [], [], [], [], [0], false⟩
    let writer : Writer := ⟨.snapshots ⟨"tags.xlsx"⟩, script.index, none, false⟩
    let r : Run := ⟨[⟨1, "one", "a", -1, -1⟩], script.index,
      ⟨1, 1000, 1, 10, .inverseRank, .sqlite, some ⟨"scratch"⟩, 1⟩, writer, false⟩
    let env : Environment :=
      ⟨.started, fun _ _ _ => (⟨[(1, 1)], .complete⟩, [1]), Board.inOrder, none⟩
    let empty : FileTree Content := ⟨[], ["work"]⟩
    let w : Workspace :=
      ⟨(empty.prepare ⟨"/work/scratch"⟩ .directory).prepare ⟨"/work/tags.xlsx"⟩ (.file .other), [],
        .sound⟩
    w.tree.WellFormed ∧ (createScratch w.tree r.options.scratchRoot).isOk = true ∧
      w.tree.exists? r.writer.options.output = true ∧ (r.execute env w).2.2.isOk = false ∧
      (r.execute env w).2.1.tree = w.tree := by
  intro script writer r env empty w
  have hwell : w.tree.WellFormed := ((FileTree.WellFormed.nil _).prepare _ _).prepare _ _
  have hsilent : .writingReport ∉ (r.execute env w).2.1.phases := by decide +kernel
  obtain ⟨-, published, hphases, hsame⟩ := tree_of_execute hwell r env
  refine ⟨hwell, by decide +kernel, by decide +kernel, by decide +kernel, hsame fun hmem => ?_⟩
  rw [hphases] at hsilent
  exact hsilent (List.mem_append_right _ hmem)

end Tagging
