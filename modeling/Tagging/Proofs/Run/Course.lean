import Tagging.Proofs.Report.Snapshots
import Tagging.Proofs.Run.Workers
import Tagging.Proofs.Store.Scratch
import Tagging.Run.Execute

/-!
# The course of a run

How far a run can get, told once with the phases that it announces, what it does to the file tree
and what comes of it.  All that holds of every run, however it ends, is read off the four ways
that it can go.

* `Phase.counts`, `Phase.gathering`, `Phase.course` — the phases between the first two and the last
  two, in order;
* `ending` — the last two, which are missing if the run breaks down;
* `Announced`, `Crew.Reachable.announced` — **any order of moves** announces each number of ended
  queries once, in ascending order;
* `Crew.Reachable.verdict_ne_breakdown` — workers that break down do not take the run with them;
* `Run.Scoring`, `Run.scoring_workInStore` — how far the work with a store gets;
* `Run.Course`, `Run.course_of_execute` — **how far a run gets**;
* `Run.exists_report_of_execute` — a run that succeeds went through all of its parts.
-/

namespace Tagging

/-! ## Phases in order -/

namespace Phase

/-- The numbers of ended queries up to `k`, of `total` ones. -/
def counts (k total : Nat) : List Phase :=
  (List.range (k + 1)).map (fun completed => executing completed total)

/-- The phases in which the rows of `total` queries are gathered. -/
def gathering (total : Nat) : List Phase := loadingQueries :: (counts total total ++ [aggregating])

/-- The phases of a run over `total` queries for which there is a scratch directory, up to the
report. -/
def course (total : Nat) : List Phase := gathering total ++ [writingReport]

theorem counts_succ (k total : Nat) :
    counts (k + 1) total = counts k total ++ [executing (k + 1) total] := by
  rw [counts, List.range_succ, List.map_append]
  rfl

theorem counts_le {k l : Nat} (h : k ≤ l) (total : Nat) : counts k total <+: counts l total := by
  induction l with
  | zero =>
    obtain rfl := Nat.le_zero.1 h
    exact List.prefix_rfl
  | succ l ih =>
    rcases Nat.le_or_eq_of_le_succ h with hle | rfl
    · rw [counts_succ]
      exact (ih hle).trans (List.prefix_append _ _)
    · exact List.prefix_rfl

theorem loading_counts_le {k total : Nat} (h : k ≤ total) :
    loadingQueries :: counts k total <+: gathering total :=
  List.cons_prefix_cons.2 ⟨rfl, (counts_le h total).trans (List.prefix_append _ _)⟩

end Phase

/-! ## The last phases -/

section Ending

variable {α β : Type}

/-- The phases after those of the course: the removal of the scratch directory and the end, neither
of them if what came before broke down. -/
def ending (result : Except Failure α) : List Phase :=
  if brokeDown result then [] else [.cleaningUp, if result.isOk then .finished else .failed]

@[simp] theorem ending_ok (a : α) :
    ending (.ok a : Except Failure α) = [.cleaningUp, .finished] := rfl

@[simp] theorem ending_breakdown : ending (.error .breakdown : Except Failure α) = [] := rfl

@[simp] theorem ending_error {f : Failure} (h : f ≠ .breakdown) :
    ending (.error f : Except Failure α) = [.cleaningUp, .failed] := by
  cases f with
  | breakdown => exact absurd rfl h
  | request | alreadyDone | index | storage | report | render | worker => rfl

@[simp] theorem brokeDown_map (f : α → β) (result : Except Failure α) :
    brokeDown (result.map f) = brokeDown result := by
  cases result with
  | ok => rfl
  | error e => cases e <;> rfl

@[simp] theorem ending_map (f : α → β) (result : Except Failure α) :
    ending (result.map f) = ending result := by
  rw [ending, brokeDown_map, ending]
  cases result <;> rfl

theorem brokeDown_iff {result : Except Failure α} :
    brokeDown result = true ↔ result = .error .breakdown := by
  unfold brokeDown
  split
  · exact iff_of_true rfl rfl
  · rename_i h
    exact iff_of_false (by simp) h

@[simp] theorem Workspace.tree_announce (w : Workspace) (p : Phase) (result : Except Failure α) :
    (w.announce p result).tree = w.tree := by
  unfold Workspace.announce
  split_ifs <;> rfl

theorem Workspace.phases_of_journal {w w' : Workspace} {phases : List Phase}
    (h : w'.journal = w.journal ++ phases.map Event.phase) : w'.phases = w.phases ++ phases := by
  have hall : (phases.map Event.phase).filterMap Event.phase? = phases := by
    rw [List.filterMap_map]
    exact List.filterMap_some ..
  rw [phases_eq, h, List.filterMap_append, hall, phases_eq]

/-- **The end of a run** is announced before and after its scratch directory is removed. -/
theorem journal_announce (w : Workspace) (result : Except Failure α) (tree : FileTree Content)
    (map : α → β) :
    (({ w.announce .cleaningUp result with tree := tree } : Workspace).announce
      (if (result.map map).isOk then .finished else .failed) (result.map map)).journal =
        w.journal ++ (ending result).map Event.phase := by
  unfold Workspace.announce
  rw [brokeDown_map, ending]
  by_cases h : brokeDown result = true
  · simp [h]
  · cases result <;> simp [h, Workspace.note, Except.map, Except.isOk, Except.toBool]

end Ending

/-! ## What the driver announces -/

/-- The driver has announced each number of ended queries up to the present one. -/
structure Announced (work : List (NamedQuery × Nat)) (b : Board) : Prop where
  /-- Each number once, in ascending order. -/
  phases : b.journal.filterMap Event.phase? = Phase.counts b.completed work.length
  /-- Those that are counted ended. -/
  bounded : b.completed ≤ b.workers.countP (fun w => w.stage.isJoined)

namespace Announced

variable {crew : Crew} {work : List (NamedQuery × Nat)} {b b' : Board}

theorem start (work : List (NamedQuery × Nat)) (store : Store) :
    Announced work (Board.start work store) where
  phases := rfl
  bounded := Nat.zero_le _

theorem settle (h : Announced work b) : Announced work b.settle := by
  unfold Board.settle
  split_ifs
  · exact ⟨h.phases, h.bounded⟩
  · exact h

/-- A worker that gets on, with nothing announced. -/
theorem replace (h : Announced work b) {front back : List Worker} {q : NamedQuery} {limit : Nat}
    {s t : Stage} (found : b.workers = front ++ ⟨q, limit, s⟩ :: back) (hs : s.isJoined = false)
    (hworkers : b'.workers = front ++ ⟨q, limit, t⟩ :: back)
    (hcompleted : b'.completed = b.completed)
    (hjournal : b'.journal.filterMap Event.phase? = b.journal.filterMap Event.phase?) :
    Announced work b' where
  phases := by rw [hjournal, hcompleted, h.phases]
  bounded := by
    have hbounded := h.bounded
    rw [found, List.countP_append, List.countP_cons_of_neg (by simp [hs])] at hbounded
    rw [hcompleted, hworkers, List.countP_append, List.countP_cons]
    omega

/-- **One move** announces the next number or nothing. -/
theorem step (h : Announced work b) (hsteady : Steady crew work b) (hstep : crew.Step b b') :
    Announced work b' := by
  cases hstep with
  | acquire found free => exact h.replace found rfl rfl rfl rfl
  | @retrieve _ _ q limit found =>
    refine h.replace found rfl rfl rfl ?_
    have hnone := phase?_retrieve crew.index crew.policy q limit
    show (b.journal ++ _).filterMap Event.phase? = _
    rw [List.filterMap_append, List.filterMap_eq_nil_iff.2 hnone, List.append_nil]
  | send found room => exact h.replace found rfl rfl rfl rfl
  | receive head accepted => exact ⟨h.phases, h.bounded⟩
  | refuse head refused => exact ⟨h.phases, h.bounded⟩
  | close empty idle => exact settle ⟨h.phases, h.bounded⟩
  | join found =>
    have htotal : b.total = work.length := by
      rw [Board.total, ← hsteady.roster, List.length_map]
    refine ⟨?_, ?_⟩
    · show (b.journal ++ _).filterMap Event.phase? = Phase.counts (b.completed + 1) work.length
      rw [List.filterMap_append, h.phases, htotal, Phase.counts_succ]
      rfl
    · have hbounded := h.bounded
      rw [found, List.countP_append, List.countP_cons_of_neg (by simp [Stage.isJoined])] at hbounded
      show b.completed + 1 ≤ List.countP _ (_ ++ _ :: _)
      rw [List.countP_append, List.countP_cons_of_pos (by simp [Stage.isJoined])]
      omega
  | fail found failure => exact h.replace found rfl rfl rfl rfl
  | drain all => exact settle ⟨h.phases, h.bounded⟩
  | tick => exact h

end Announced

/-- **Any order of moves** announces each number of ended queries once, in ascending order. -/
theorem Crew.Reachable.announced {crew : Crew} {work : List (NamedQuery × Nat)} {first : Store}
    {b : Board} (h : crew.Reachable (Board.start work first) b) : Announced work b := by
  induction h with
  | start => exact .start work first
  | step hreach hmove ih => exact ih.step hreach.steady (step_of_move hmove).2

/-- **Nothing breaks down with its workers**: the driver learns of it, and ends with a failure. -/
theorem Crew.Reachable.verdict_ne_breakdown {crew : Crew} {work : List (NamedQuery × Nat)}
    {first : Store} {b : Board} (h : crew.Reachable (Board.start work first) b) :
    b.verdict ≠ some (.error .breakdown) := by
  have hsettle : ∀ {b : Board}, b.verdict ≠ some (.error .breakdown) →
      b.settle.verdict ≠ some (.error .breakdown) := by
    intro b hb
    unfold Board.settle
    split_ifs
    · simp
    · exact hb
  induction h with
  | start => exact nofun
  | step hreach hmove ih =>
    cases (step_of_move hmove).2 with
    | acquire | retrieve | send | receive | join | tick => exact ih
    | refuse => simp
    | close | drain => exact hsettle ih
    | @fail _ _ _ _ how f found failure =>
      cases how <;> cases failure <;> simp

/-! ## The parts of a run -/

namespace Run

variable {r : Run} {env : Environment} {e : Estimate} {w w' : Workspace}

theorem length_work (r : Run) (e : Estimate) : (r.work e).length = r.queries.length := by
  rw [work, List.length_map]

/-- **Executing the queries** changes no file and announces the numbers of ended queries, all of
them if all goes well. -/
theorem executeQueries_course {store : Store} {result : Except Failure Store}
    (h : r.executeQueries env e store w = (w', result)) :
    w'.tree = w.tree ∧ ∃ k ≤ r.queries.length,
      w'.phases = w.phases ++ Phase.counts k r.queries.length ∧
        (result.isOk = true → k = r.queries.length) := by
  have hreach := Crew.drive_reachable r.crew env.schedule (Board.start (r.work e) store)
  obtain ⟨hphases, hbounded⟩ := hreach.announced
  have hlength := hreach.steady.roster
  set b := r.crew.drive env.schedule (Board.start (r.work e) store) with hb
  have hcount : b.workers.countP (fun w => w.stage.isJoined) ≤ r.queries.length := by
    refine List.countP_le_length.trans ?_
    rw [← length_work r e, ← hlength, List.length_map]
  have hw' : w' = w.noteAll b.journal ∧ (result.isOk = true → b.verdict = some (.ok ())) := by
    unfold executeQueries at h
    simp only [← hb] at h
    split at h
    · rename_i hverdict
      obtain ⟨rfl, -⟩ := Prod.mk.inj h
      exact ⟨rfl, fun _ => hverdict⟩
    · obtain ⟨rfl, rfl⟩ := Prod.mk.inj h
      exact ⟨rfl, fun hok => nomatch hok⟩
    · obtain ⟨rfl, rfl⟩ := Prod.mk.inj h
      exact ⟨rfl, fun hok => nomatch hok⟩
  obtain ⟨rfl, hverdict⟩ := hw'
  refine ⟨rfl, b.completed, hbounded.trans hcount, ?_, fun hok => ?_⟩
  · rw [Workspace.phases_noteAll, hphases, length_work]
  · rw [(hreach.delivered (hverdict hok)).completed, length_work]

/-- Executing the queries does not break down. -/
theorem executeQueries_ne_breakdown {store : Store} {f : Failure}
    (h : r.executeQueries env e store w = (w', .error f)) : f ≠ .breakdown := by
  have hverdict := (Crew.drive_reachable r.crew env.schedule
    (Board.start (r.work e) store)).verdict_ne_breakdown
  unfold executeQueries at h
  dsimp only at h
  split at h
  · cases h
  · rename_i f' hf
    cases h
    rintro rfl
    exact hverdict hf
  · cases h
    simp

/-- How far the work with a store gets that is open in the tree `t`, after the phases `sofar`. -/
inductive Scoring (r : Run) (env : Environment) (e : Estimate) (t : FileTree Content)
    (sofar : List Phase) :
    Writer × Workspace × Except Failure (Nat × List SortedRow × Artifact) → Prop where
  /-- It ends before the report, with the tree as it was. -/
  | early {w' : Workspace} {done : List Phase} {f : Failure}
      (tree : w'.tree = t)
      (partly : done <+: Phase.gathering r.queries.length)
      (phases : w'.phases = sofar ++ done)
      (returns : f ≠ .breakdown) :
      Scoring r env e t sofar (r.writer, w', .error f)
  /-- The rows are there when the report is written. -/
  | report {first second : Store} {v before after : Workspace} {files : Nat}
      {rows : List SortedRow} {writer : Writer} {result : Except Failure Artifact}
      (inserted : (Store.empty r.options.backend).insertQueries
        (r.queries.map NamedQuery.record) = (first, .ok ()))
      (retrieved : (r.executeQueries env e first v).2 = .ok second)
      (summed : addUp second = .ok (files, rows))
      (tree : before.tree = t)
      (phases : before.phases = sofar ++ Phase.course r.queries.length)
      (written : r.writer.write r.queries rows before = (writer, after, result)) :
      Scoring r env e t sofar
        (writer, after, result.map fun artifact => (files, rows, artifact))

/-- Working with an empty store gets so far. -/
theorem scoring_scoreAndReport (r : Run) (env : Environment) (e : Estimate) (w : Workspace) :
    r.Scoring env e w.tree w.phases
      (r.scoreAndReport env e (Store.empty r.options.backend) w) := by
  unfold scoreAndReport
  rcases hinsert : (Store.empty r.options.backend).insertQueries
    (r.queries.map NamedQuery.record) with ⟨first, _ | _⟩
  · -- the queries are not registered
    refine .early rfl ?_ (w.phases_note_phase .loadingQueries) (by simp)
    exact List.cons_prefix_cons.2 ⟨rfl, List.nil_prefix⟩
  simp only
  rcases hexecute : r.executeQueries env e first (w.note (.phase .loadingQueries)) with
    ⟨w₁, f | second⟩
  · -- they are not retrieved
    obtain ⟨htree, k, hk, hphases, -⟩ := executeQueries_course hexecute
    refine .early htree (Phase.loading_counts_le hk) ?_ (executeQueries_ne_breakdown hexecute)
    rw [hphases, Workspace.phases_note_phase, List.append_assoc, List.singleton_append]
  obtain ⟨htree, k, -, hphases, hall⟩ := executeQueries_course hexecute
  obtain rfl := hall rfl
  have hgathered : (w₁.note (.phase .aggregating)).phases =
      w.phases ++ Phase.gathering r.queries.length := by
    rw [Workspace.phases_note_phase, hphases, Workspace.phases_note_phase, Phase.gathering]
    simp
  simp only
  rcases hsum : addUp second with f | ⟨files, rows⟩
  · -- there are no rows
    exact .early htree List.prefix_rfl hgathered (by simp)
  simp only
  rcases hwrite : r.writer.write r.queries rows
    ((w₁.note (.phase .aggregating)).note (.phase .writingReport)) with ⟨writer, after, result⟩
  have hcourse : ((w₁.note (.phase .aggregating)).note (.phase .writingReport)).phases =
      w.phases ++ Phase.course r.queries.length := by
    rw [Workspace.phases_note_phase, hgathered, List.append_assoc, Phase.course]
  have hsame : ((w₁.note (.phase .aggregating)).note (.phase .writingReport)).tree = w.tree := htree
  have hretrieved : (r.executeQueries env e first (w.note (.phase .loadingQueries))).2 =
      .ok second := congrArg Prod.snd hexecute
  cases result with
  | error f => exact .report hinsert hretrieved hsum hsame hcourse hwrite
  | ok artifact => exact .report hinsert hretrieved hsum hsame hcourse hwrite

/-- Opening a store and working with it gets so far. -/
theorem scoring_workInStore (r : Run) (env : Environment) (e : Estimate) (scratch : Place)
    (w : Workspace) :
    r.Scoring env e
      (openStore w.tree scratch r.options.backend .database env.databaseFault).1 w.phases
      (r.workInStore env e scratch w) := by
  unfold workInStore
  rcases hopen : openStore w.tree scratch r.options.backend .database env.databaseFault with
    ⟨tree, f | store⟩
  · exact .early rfl List.nil_prefix (List.append_nil w.phases).symm (by simp)
  · obtain rfl := openStore_eq_ok (congrArg Prod.snd hopen)
    exact r.scoring_scoreAndReport env e { w with tree := tree }

/-! ## The whole run -/

/-- How far a run gets that was not executed before. -/
inductive Course (r : Run) (env : Environment) (w : Workspace) :
    Workspace → Except Failure Summary → Prop where
  /-- Its deadline is no instant, so it does not even count. -/
  | timeless {w' : Workspace}
      (endless : ¬ env.clock.Reaches r.options.estimatorBudget)
      (tree : w'.tree = w.tree)
      (phases : w'.phases = w.phases ++ [.estimating]) :
      Course r env w w' (.error .breakdown)
  /-- There is no scratch directory. -/
  | unhoused {w' : Workspace} {f : StoreError}
      (timed : env.clock.Reaches r.options.estimatorBudget)
      (refused : createScratch w.tree r.options.scratchRoot = .error f)
      (tree : w'.tree = w.tree)
      (phases : w'.phases = w.phases ++ [.estimating, .preparingStorage, .failed]) :
      Course r env w w' (.error (.storage f))
  /-- It ends before the report, with nothing more in the tree than a store before its scratch
  directory is removed. -/
  | early {w' : Workspace} {t : FileTree Content} {scratch : Place} {done : List Phase}
      {f : Failure}
      (timed : env.clock.Reaches r.options.estimatorBudget)
      (created : createScratch w.tree r.options.scratchRoot = .ok (t, scratch))
      (partly : done <+: Phase.gathering r.queries.length)
      (returns : f ≠ .breakdown)
      (tree : w'.tree = removeScratch
        (openStore t scratch r.options.backend .database env.databaseFault).1 scratch)
      (phases : w'.phases =
        w.phases ++ ([.estimating, .preparingStorage] ++ done ++ [.cleaningUp, .failed])) :
      Course r env w w' (.error f)
  /-- The rows are there when the report is written, and then the scratch directory is removed. -/
  | report {w' : Workspace} {t : FileTree Content} {scratch : Place} {first second : Store}
      {v before after : Workspace} {files : Nat} {rows : List SortedRow} {writer : Writer}
      {result : Except Failure Artifact}
      (timed : env.clock.Reaches r.options.estimatorBudget)
      (created : createScratch w.tree r.options.scratchRoot = .ok (t, scratch))
      (inserted : (Store.empty r.options.backend).insertQueries
        (r.queries.map NamedQuery.record) = (first, .ok ()))
      (retrieved : (r.executeQueries env (r.estimate env) first v).2 = .ok second)
      (summed : addUp second = .ok (files, rows))
      (opened : before.tree =
        (openStore t scratch r.options.backend .database env.databaseFault).1)
      (written : r.writer.write r.queries rows before = (writer, after, result))
      (tree : w'.tree = removeScratch after.tree scratch)
      (journal : w'.journal = after.journal ++ (ending result).map Event.phase)
      (phases : w'.phases = w.phases ++
        ([.estimating, .preparingStorage] ++ Phase.course r.queries.length ++ ending result)) :
      Course r env w w'
        (result.map fun artifact => ⟨(r.estimate env).outcome, files, rows, artifact⟩)

/-- The workspace in which a run looks for a scratch directory. -/
def begun (r : Run) (env : Environment) (w : Workspace) : Workspace :=
  ((w.note (.phase .estimating)).noteAll ((r.counted env).map Event.counted)).note
    (.phase .preparingStorage)

@[simp] theorem tree_begun (r : Run) (env : Environment) (w : Workspace) :
    (r.begun env w).tree = w.tree := rfl

theorem phases_begun (r : Run) (env : Environment) (w : Workspace) :
    (r.begun env w).phases = w.phases ++ [.estimating, .preparingStorage] := by
  have hnone : ((r.counted env).map Event.counted).filterMap Event.phase? = [] := by
    refine List.filterMap_eq_nil_iff.2 fun e he => ?_
    obtain ⟨id, -, rfl⟩ := List.mem_map.1 he
    rfl
  rw [begun, Workspace.phases_note_phase, Workspace.phases_noteAll, hnone, List.append_nil,
    Workspace.phases_note_phase, List.append_assoc, List.singleton_append]

/-- A run that does not know its deadline breaks down. -/
theorem execute_of_not_reaches (hfresh : r.executed = false)
    (h : ¬ env.clock.Reaches r.options.estimatorBudget) :
    r.execute env w =
      ({ r with executed := true }, w.note (.phase .estimating), .error .breakdown) := by
  simp only [execute, carryOut, hfresh, Clock.deadline?, if_neg h]
  rfl

/-- A run that knows its deadline works in a scratch directory and says how that ended. -/
theorem execute_eq (hfresh : r.executed = false)
    (htimed : env.clock.Reaches r.options.estimatorBudget) {writer : Writer}
    {result : Except Failure (Nat × List SortedRow × Artifact)}
    (h : r.workInScratch env (r.estimate env) (r.begun env w) = (writer, w', result)) :
    r.execute env w =
      ({ r with writer := writer, executed := true },
        w'.announce (if (result.map fun x => Summary.mk (r.estimate env).outcome x.1 x.2.1
          x.2.2).isOk then .finished else .failed)
          (result.map fun x => Summary.mk (r.estimate env).outcome x.1 x.2.1 x.2.2),
        result.map fun x => ⟨(r.estimate env).outcome, x.1, x.2.1, x.2.2⟩) := by
  unfold begun at h
  simp only [execute, carryOut, hfresh, Clock.deadline?, if_pos htimed]
  rw [h]
  cases result <;> rfl

/-- **A run that was not executed before takes one of four courses.** -/
theorem course_of_execute (hfresh : r.executed = false) (env : Environment) (w : Workspace) :
    r.Course env w (r.execute env w).2.1 (r.execute env w).2.2 := by
  by_cases htimed : env.clock.Reaches r.options.estimatorBudget
  swap
  · rw [execute_of_not_reaches hfresh htimed]
    exact .timeless htimed rfl (w.phases_note_phase .estimating)
  have hbegun := phases_begun r env w
  rcases hcreate : createScratch w.tree r.options.scratchRoot with f | ⟨t, scratch⟩
  · have hwork : r.workInScratch env (r.estimate env) (r.begun env w) =
        (r.writer, r.begun env w, .error (.storage f)) := by
      simp only [workInScratch, tree_begun, hcreate]
    rw [execute_eq hfresh htimed hwork]
    refine .unhoused htimed hcreate rfl ?_
    show ((r.begun env w).note (.phase .failed)).phases = _
    rw [Workspace.phases_note_phase, hbegun, List.append_assoc]
    rfl
  rcases hstore : r.workInStore env (r.estimate env) scratch { r.begun env w with tree := t } with
    ⟨writer, w₁, result⟩
  have hscoring := r.scoring_workInStore env (r.estimate env) scratch
    { r.begun env w with tree := t }
  rw [hstore] at hscoring
  have hwork : r.workInScratch env (r.estimate env) (r.begun env w) =
      (writer, { w₁.announce .cleaningUp result with tree := removeScratch w₁.tree scratch },
        result) := by
    simp only [workInScratch, tree_begun, hcreate, hstore, Workspace.tree_announce]
  rw [execute_eq hfresh htimed hwork]
  have hend := journal_announce w₁ result (removeScratch w₁.tree scratch)
    fun x => Summary.mk (r.estimate env).outcome x.1 x.2.1 x.2.2
  cases hscoring with
  | @early _ done f tree partly phases returns =>
    refine .early htimed hcreate partly returns ?_ ?_
    · rw [Workspace.tree_announce]
      exact congrArg (removeScratch · scratch) tree
    · have hphases : w₁.phases = (r.begun env w).phases ++ done := phases
      rw [Workspace.phases_of_journal hend, hphases, hbegun, ending_error returns]
      simp
  | @report _ _ _ before _ _ rows _ result inserted retrieved summed opened phases written =>
    have hafter : w₁.phases = before.phases := by
      have hsame := r.writer.phases_write r.queries rows before
      rwa [written] at hsame
    have hbefore : before.phases = (r.begun env w).phases ++ Phase.course r.queries.length :=
      phases
    rw [ending_map] at hend
    have hphases := Workspace.phases_of_journal hend
    rw [hafter, hbefore, hbegun, List.append_assoc, List.append_assoc,
      ← List.append_assoc [Phase.estimating, Phase.preparingStorage]] at hphases
    cases result with
    | error f =>
      exact .report htimed hcreate inserted retrieved summed opened written
        (Workspace.tree_announce ..) hend hphases
    | ok artifact =>
      exact .report htimed hcreate inserted retrieved summed opened written rfl hend hphases

/-- **A run that succeeds** took the last course: it gathered its rows, wrote the report in a
workspace `before`, and left in the end what that came to without the scratch directory. -/
theorem exists_report_of_execute {s : Summary} (h : (r.execute env w).2.2 = .ok s) :
    ∃ t scratch first second v before after writer,
      createScratch w.tree r.options.scratchRoot = .ok (t, scratch) ∧
      (Store.empty r.options.backend).insertQueries (r.queries.map NamedQuery.record) =
        (first, .ok ()) ∧
      (r.executeQueries env (r.estimate env) first v).2 = .ok second ∧
      addUp second = .ok (s.filesScored, s.rows) ∧
      r.writer.write r.queries s.rows before = (writer, after, .ok s.artifact) ∧
      (r.execute env w).2.1.tree = removeScratch after.tree scratch ∧
      (r.execute env w).2.1.journal =
        after.journal ++ [.phase .cleaningUp, .phase .finished] := by
  have hfresh : r.executed = false := by
    by_contra hexecuted
    unfold execute at h
    rw [if_pos (by simpa using hexecuted)] at h
    cases h
  have hcourse := course_of_execute hfresh env w
  rw [h] at hcourse
  generalize hs : (Except.ok s : Except Failure Summary) = result at hcourse
  generalize (r.execute env w).2.1 = w' at hcourse ⊢
  cases hcourse with
  | timeless => cases hs
  | unhoused => cases hs
  | early => cases hs
  | @report t scratch first second v before after files rows writer result timed created inserted
      retrieved summed opened written tree journal phases =>
    cases result with
    | error f => cases hs
    | ok artifact =>
      cases hs
      exact ⟨t, scratch, first, second, v, before, after, writer, created, inserted, retrieved,
        summed, written, tree, journal⟩

end Run

end Tagging
