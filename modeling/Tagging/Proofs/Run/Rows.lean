import Tagging.Index
import Tagging.Proofs.Retrieval
import Tagging.Proofs.Run.Course

/-!
# The rows of a run

What a run that succeeds says about the files, told from the index, the queries and the policy
alone.

* `Run.Scored` — the score that a file gets under a query, whatever the order of work;
* `Run.exists_stores_of_execute` — a run that succeeds went through all of its parts;
* `Run.mem_scores_of_executeQueries` — **what the store holds** when the queries are executed;
* `Run.exists_table_of_execute` — what the rows are read from;
* `rows_of_execute` — **the rows of a run** are the table of these scores.
-/

namespace Tagging

namespace Run

/-! ## The score of a file -/

/-- How many hits of a query are looked at. -/
def limit (r : Run) (e : Estimate) (q : NamedQuery) : Nat :=
  retrievalLimit q r.options.hardHitCeiling (e.hint q.id)

/-- The hits of a query that are looked at, if the index answers with hits. -/
def LooksAt (r : Run) (e : Estimate) (q : NamedQuery) (looked : List Address) : Prop :=
  ∃ hits, r.index.search q (r.limit e q) = .answer hits ∧ looked = hits.take (r.limit e q)

/-- The file of the key gets the weight under the query of the key: that of the position, counted
from one, of the file's first hit. -/
def Scored (r : Run) (e : Estimate) (key : ScoreKey) (w : Double) : Prop :=
  ∃ q ∈ r.queries, q.id = key.2 ∧ ∃ looked i, r.LooksAt e q looked ∧
    FirstHitOf r.index looked i key.1 ∧
      w = r.options.policy.weight (min (i + 1) maxRank) q.priority

/-! ## The parts of a run -/

theorem addUp_eq_ok {store : Store} {files : Nat} {rows : List SortedRow}
    (h : addUp store = .ok (files, rows)) :
    store.aggregate.2 = .ok files ∧ store.aggregate.1.rows = .ok rows := by
  unfold addUp at h
  cases ha : store.aggregate with
  | mk store' result =>
    rw [ha] at h
    cases result with
    | error e => exact absurd h (by simp)
    | ok n =>
      simp only at h
      cases hr : store'.rows with
      | error e =>
        rw [hr] at h
        exact absurd h (by simp)
      | ok rows' =>
        rw [hr] at h
        obtain ⟨rfl, rfl⟩ := Prod.mk.inj (Except.ok.inj h)
        exact ⟨rfl, rfl⟩

/-- Executing the queries is driving the workers to a good end. -/
theorem executeQueries_eq_ok {r : Run} {env : Environment} {e : Estimate} {store store' : Store}
    {w : Workspace} (h : (r.executeQueries env e store w).2 = .ok store') :
    ∃ b, r.crew.Reachable (Board.start (r.work e) store) b ∧ b.verdict = some (.ok ()) ∧
      b.store = store' := by
  unfold executeQueries at h
  refine ⟨_, Crew.drive_reachable r.crew env.schedule (Board.start (r.work e) store), ?_⟩
  cases hv : (r.crew.drive env.schedule (Board.start (r.work e) store)).verdict with
  | none =>
    simp only [hv] at h
    exact absurd h (by simp)
  | some result =>
    simp only [hv] at h
    cases result with
    | error f => exact absurd h (by simp)
    | ok u => exact ⟨rfl, Except.ok.inj h⟩

/-- **A run that succeeds went through all of its parts**, beginning with an empty store. -/
theorem exists_stores_of_execute {r : Run} {env : Environment} {w : Workspace} {s : Summary}
    (h : (r.execute env w).2.2 = .ok s) :
    ∃ first second w',
      (Store.empty r.options.backend).insertQueries (r.queries.map NamedQuery.record) =
        (first, .ok ()) ∧
      (r.executeQueries env (r.estimate env) first w').2 = .ok second ∧
      addUp second = .ok (s.filesScored, s.rows) := by
  obtain ⟨-, -, first, second, v, -, -, -, -, hinsert, hexecute, hsum, -⟩ :=
    exists_report_of_execute h
  exact ⟨first, second, v, hinsert, hexecute, hsum⟩

/-! ## What the store holds -/

/-- A batch that the index replied to a query of the work holds the scores of that query. -/
theorem mem_scores_of_reply {r : Run} {e : Estimate} {q : NamedQuery} {batch : ScoreBatch}
    (h : r.crew.reply q (r.limit e q) = .answer batch) (key : ScoreKey) (x : Double) :
    (key, x) ∈ batch.scores.map ScoreRow.entry ↔ q.id = key.2 ∧
      ∃ looked i, r.LooksAt e q looked ∧ FirstHitOf r.index looked i key.1 ∧
        x = r.options.policy.weight (min (i + 1) maxRank) q.priority := by
  obtain ⟨hits, hsearch, hrows⟩ := mem_scores_of_retrieve h
  rw [List.mem_map]
  constructor
  · rintro ⟨row, hrow, heq⟩
    obtain ⟨rfl, rfl⟩ := Prod.mk.inj heq
    obtain ⟨hid, i, hfirst, hweight⟩ := (hrows row).1 hrow
    exact ⟨hid.symm, _, i, ⟨hits, hsearch, rfl⟩, hfirst, hweight⟩
  · rintro ⟨hid, looked, i, ⟨hits', hsearch', rfl⟩, hfirst, hweight⟩
    have hhits : hits = hits' := Reply.answer.inj (hsearch.symm.trans hsearch')
    subst hhits
    exact ⟨⟨key.1, key.2, x⟩, (hrows _).2 ⟨hid.symm, i, hfirst, hweight⟩, rfl⟩

/-- **What the store holds when the queries are executed**: what it held before, and the score of
each file under each query. -/
theorem mem_scores_of_executeQueries {r : Run} {env : Environment} {e : Estimate}
    {first second : Store} {w : Workspace} (hasc : Ascending keyLt first.scores)
    (h : (r.executeQueries env e first w).2 = .ok second) (key : ScoreKey) (x : Double) :
    (key, x) ∈ second.scores ↔ (key, x) ∈ first.scores ∨ r.Scored e key x := by
  obtain ⟨b, hreach, hok, rfl⟩ := executeQueries_eq_ok h
  have hdelivered := hreach.delivered hok
  obtain ⟨batches, hreplies, hperm⟩ := hdelivered.batches
  have hscores : (key, x) ∈ b.store.scores ↔ (key, x) ∈ first.scores ∨
      (key, x) ∈ (b.applied.flatMap ScoreBatch.scores).map ScoreRow.entry := by
    have hall := @Store.mem_scores_performAll (b.applied.map .applyBatch) first hasc (key, x)
    rwa [hdelivered.stored, flatMap_writtenScores_acceptance] at hall
  rw [hscores, List.map_flatMap, List.mem_flatMap]
  refine or_congr_right ⟨?_, ?_⟩
  · rintro ⟨batch, hbatch, hmem⟩
    obtain ⟨p, hp, hreply⟩ :=
      exists_mem_of_forall₂ hreplies.flip batch (hperm.mem_iff.1 hbatch)
    obtain ⟨q, hq, rfl⟩ := List.mem_map.1 hp
    exact ⟨q, hq, (mem_scores_of_reply hreply key x).1 hmem⟩
  · rintro ⟨q, hq, hscored⟩
    have hwork : (q, r.limit e q) ∈ r.work e := List.mem_map_of_mem hq
    obtain ⟨batch, hbatch, hreply⟩ := exists_mem_of_forall₂ hreplies _ hwork
    exact ⟨batch, hperm.mem_iff.2 hbatch, (mem_scores_of_reply hreply key x).2 hscored⟩

/-- The store keeps its order of keys and its backend while the queries are executed. -/
theorem ascending_of_executeQueries {r : Run} {env : Environment} {e : Estimate}
    {first second : Store} {w : Workspace} (hasc : Ascending keyLt first.scores)
    (h : (r.executeQueries env e first w).2 = .ok second) :
    Ascending keyLt second.scores ∧ second.backend = first.backend := by
  obtain ⟨b, hreach, hok, rfl⟩ := executeQueries_eq_ok h
  have hstored := (hreach.delivered hok).stored
  have hasc' := Store.ascending_performAll (b.applied.map .applyBatch) hasc
  have hbackend := Store.backend_performAll (b.applied.map .applyBatch) hasc
  rw [hstored] at hasc' hbackend
  exact ⟨hasc', hbackend⟩

end Run

/-! ## The rows -/

namespace Run

/-- **The table of a run that succeeds.**  Its store is empty before the queries are executed;
afterwards it holds the scores of all files under all queries, of which the rows are the table, and
each row shows what the store shows of its file. -/
theorem exists_table_of_execute {r : Run} {env : Environment} {w : Workspace} {s : Summary}
    (h : (r.execute env w).2.2 = .ok s) :
    ∃ first second v, first.scores = [] ∧ first.displays = [] ∧
      (r.executeQueries env (r.estimate env) first v).2 = .ok second ∧
      Tabulates r.options.backend.sum (r.Scored (r.estimate env)) s.rows ∧
      (∀ row ∈ s.rows, Shows (displayOf second.displays row.fileId) row) ∧
      s.filesScored = s.rows.length := by
  obtain ⟨first, second, v, hinsert, hexecute, hsum⟩ := exists_stores_of_execute h
  have hwrote := (Store.empty r.options.backend).wrote_insertQueries
    (r.queries.map NamedQuery.record)
  rw [hinsert] at hwrote
  have hscores : first.scores = [] := by
    rw [hwrote.scores]
    cases r.options.backend <;> rfl
  have hdisplays : first.displays = [] := by
    rw [hwrote.displays]
    cases r.options.backend <;> rfl
  have hasc : Ascending keyLt first.scores := by
    rw [hscores]
    exact Ascending.nil
  obtain ⟨hasc', hbackend⟩ := ascending_of_executeQueries hasc hexecute
  have hscored : (fun key x => (key, x) ∈ second.scores) = r.Scored (r.estimate env) := by
    funext key x
    refine propext ((mem_scores_of_executeQueries hasc hexecute key x).trans (or_iff_right ?_))
    rw [hscores]
    exact List.not_mem_nil
  obtain ⟨hcount, hrows⟩ := addUp_eq_ok hsum
  obtain ⟨rows, hcount', hrows', htab, hshows⟩ := Store.tabulates_aggregate hasc'
  obtain rfl : rows = s.rows := Except.ok.inj (hrows'.symm.trans hrows)
  have hsums : second.backend = r.options.backend := by
    rw [hbackend, hwrote.backend]
    cases r.options.backend <;> rfl
  rw [hscored, hsums] at htab
  exact ⟨first, second, v, hscores, hdisplays, hexecute, htab, hshows,
    Except.ok.inj (hcount.symm.trans hcount')⟩

end Run

/-- **The rows of a run.**  However the counts came out, in whatever order the workers got on, and
whichever backend the run uses: if it succeeds, its rows are the table of the scores of all files
under all queries, summed as the backend sums.  So there is one row for each file with a hit among
those that are looked at, its weights are those of the first hits, each by ascending query, and the
rows stand in strict order; and the run tells how many there are. -/
theorem rows_of_execute (r : Run) (env : Environment) (w : Workspace) {s : Summary}
    (h : (r.execute env w).2.2 = .ok s) :
    Tabulates r.options.backend.sum (r.Scored (r.estimate env)) s.rows ∧
    (∀ f, f ∈ s.rows.map SortedRow.fileId ↔ ∃ q ∈ r.queries, ∃ looked i,
      r.LooksAt (r.estimate env) q looked ∧ HitOf r.index looked i f) ∧
    s.filesScored = s.rows.length := by
  obtain ⟨-, -, -, -, -, -, htab, -, hcount⟩ := Run.exists_table_of_execute h
  refine ⟨htab, fun f => ?_, hcount⟩
  rw [htab.files]
  constructor
  · rintro ⟨id, x, q, hq, -, looked, i, hlooked, hfirst, -⟩
    exact ⟨q, hq, looked, i, hlooked, hfirst.1⟩
  · rintro ⟨q, hq, looked, i, hlooked, hhit⟩
    obtain ⟨j, hfirst⟩ := exists_firstHitOf.2 ⟨i, hhit⟩
    exact ⟨q.id, _, q, hq, rfl, looked, j, hlooked, hfirst, rfl⟩

/-- Two queries over two documents of one file; counting the second query took too long. -/
theorem rows_of_execute_one_file :
    let script : Script := ⟨[(0, Script.plainDocument "x"), (1, Script.plainDocument "x")],
      [(1, [0, 1, 0]), (2, [1])], [], [], [], [], [], false⟩
    let queries : List NamedQuery := [⟨1, "one", "a", -1, -1⟩, ⟨2, "two", "b", -1, -1⟩]
    let writer : Writer := ⟨.snapshots ⟨"tags.xlsx"⟩, script.index, none, false⟩
    let r : Run := ⟨queries, script.index,
      ⟨1, 1000, 1, 10, .inverseRank, .memory, some ⟨"scratch"⟩, 1⟩, writer, false⟩
    let env : Environment :=
      ⟨.started, fun _ _ _ => (⟨[(1, 2)], .incomplete [2] []⟩, [1, 2]), Board.inOrder, none⟩
    let w : Workspace :=
      ⟨⟨[(["work"], .directory), (["work", "scratch"], .directory)], ["work"]⟩, [], .sound⟩
    ∃ s, (r.execute env w).2.2 = .ok s ∧
      Tabulates r.options.backend.sum (r.Scored (r.estimate env)) s.rows ∧
      (∀ f, f ∈ s.rows.map SortedRow.fileId ↔ ∃ q ∈ r.queries, ∃ looked i,
        r.LooksAt (r.estimate env) q looked ∧ HitOf r.index looked i f) ∧
      s.filesScored = s.rows.length := by
  intro script queries writer r env w
  have hok : (r.execute env w).2.2.isOk = true := by decide +kernel
  cases hs : (r.execute env w).2.2 with
  | error f =>
    rw [hs] at hok
    exact absurd hok (by simp [Except.isOk, Except.toBool])
  | ok s => exact ⟨s, rfl, rows_of_execute r env w hs⟩

end Tagging
