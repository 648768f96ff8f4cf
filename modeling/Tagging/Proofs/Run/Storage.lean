import Mathlib.Data.List.Nodup
import Mathlib.Data.List.Perm.Subperm
import Tagging.Proofs.Config.QuerySets
import Tagging.Proofs.Report.Failures
import Tagging.Proofs.Run.Rows
import Tagging.Proofs.Store.Reordering

/-!
# The store of a run refuses nothing

The queries of a run have different ids, each of them brings one batch, and a batch scores each of
its files once, above zero.  So the store of a run accepts whatever the run asks of it.

* `BatchesOf`, `Store.Ready`, `Store.Ready.takesAll` — **a store in which the queries are
  registered** takes sound batches of different ones of them, in any order;
* `Crew.Prepared`, `Crew.Prepared.takesAll` — on every board the store can take what is in the
  channel;
* `Crew.Prepared.verdict_ne_storage` — so **no order of moves** ends with a refusal;
* `Run.storeCalls`, `Run.accepts_storeCalls` — all that a run asks of its store;
* `StoreError.OfOpening`, `Run.ofOpening_execute` — what is left of failures in the storage;
* `store_of_run_refuses_nothing` — every run, whatever its index replies.
-/

namespace Tagging

/-! ## Batches that go together -/

/-- The batches are sound and under different ones of the queries `ids`, and a backend can keep the
addresses that they show. -/
structure BatchesOf (backend : Backend) (ids : List QueryId) (batches : List ScoreBatch) :
    Prop where
  /-- They are sound. -/
  sound : ∀ batch ∈ batches, batch.Sound
  /-- There is at most one for each query, and none for another one. -/
  queries : (batches.map ScoreBatch.queryId).Subperm ids
  /-- A database can keep the addresses. -/
  addresses : backend = .sqlite →
    ∀ batch ∈ batches, ∀ d ∈ batch.displays, d.address ≤ Tables.maxAddress

/-- Sound batches of different queries score no file twice under the same query. -/
theorem BatchesOf.nodup_keys {backend : Backend} {ids : List QueryId} {batches : List ScoreBatch}
    (h : BatchesOf backend ids batches) (hids : ids.Nodup) :
    ((batches.flatMap ScoreBatch.scores).map ScoreRow.key).Nodup := by
  obtain ⟨ids', hperm, hsub⟩ := h.queries
  have hdistinct : (batches.map ScoreBatch.queryId).Nodup :=
    hperm.nodup_iff.1 (hids.sublist hsub)
  rw [List.map_flatMap, List.nodup_flatMap]
  constructor
  · intro batch hbatch
    refine List.Nodup.of_map Prod.fst ?_
    rw [List.map_map]
    exact (h.sound batch hbatch).once
  · rw [List.Nodup, List.pairwise_map] at hdistinct
    refine hdistinct.imp_of_mem fun {batch batch'} hbatch hbatch' hne key hkey hkey' => hne ?_
    obtain ⟨row, hrow, rfl⟩ := List.mem_map.1 hkey
    obtain ⟨row', hrow', heq⟩ := List.mem_map.1 hkey'
    rw [← (h.sound batch hbatch).own row hrow, ← (h.sound batch' hbatch').own row' hrow']
    exact (congrArg Prod.snd heq).symm

namespace Store

/-- The queries are registered, and nothing else is written. -/
structure Ready (s : Store) (ids : List QueryId) : Prop where
  /-- The totals are not computed. -/
  isOpen : s.totals = none
  /-- There are no scores. -/
  scores : s.scores = []
  /-- The queries are registered. -/
  registered : ∀ id ∈ ids, s.hasQuery id = true

/-- Queries of different ids can be registered in an empty store. -/
theorem exists_ready (backend : Backend) {records : List QueryRecord}
    (hids : (records.map QueryRecord.id).Nodup) :
    ∃ s, (Store.empty backend).insertQueries records = (s, .ok ()) ∧ s.backend = backend ∧
      s.Ready (records.map QueryRecord.id) := by
  have hknown : ∀ id ∈ records.map QueryRecord.id, records.any (fun q => q.id = id) = true := by
    intro id hid
    obtain ⟨r, hr, rfl⟩ := List.mem_map.1 hid
    exact List.any_eq_true.2 ⟨r, hr, decide_eq_true rfl⟩
  cases backend with
  | memory =>
    have hok : (Memory.empty.insertQueries records).2 = .ok () :=
      Memory.insertQueries_eq_ok_iff.2 ⟨rfl, fun _ _ => rfl⟩
    obtain ⟨-, -, heq⟩ := accepted_of_cases hok (Memory.empty.insertQueries_cases records)
    refine ⟨_, congrArg (Prod.map memory id) heq, rfl, rfl, rfl, fun id hid => ?_⟩
    exact (Memory.hasQuery_insertQueries records [] id).trans (hknown id hid)
  | sqlite =>
    have hok : (Relational.empty.insertQueries records).2 = .ok () :=
      Relational.insertQueries_eq_ok_iff.2 ⟨rfl, fun _ _ => rfl, hids⟩
    obtain ⟨-, -, -, heq⟩ :=
      accepted_of_cases hok (Relational.empty.insertQueries_cases records)
    exact ⟨_, congrArg (Prod.map relational id) heq, rfl, rfl, rfl, hknown⟩

variable {s : Store} {ids : List QueryId} {batches : List ScoreBatch}

theorem Ready.ascending (h : s.Ready ids) : Ascending keyLt s.scores := by
  rw [h.scores]
  exact Ascending.nil

/-- **Sound batches of different registered queries** can all be taken, one after the other. -/
theorem Ready.takesAll (h : s.Ready ids) (hids : ids.Nodup)
    (hbatches : BatchesOf s.backend ids batches) : s.TakesAll batches where
  isOpen := h.isOpen
  admissible := by
    refine ⟨fun row hrow => ?_, fun row hrow => ?_, hbatches.nodup_keys hids⟩
    · obtain ⟨batch, hbatch, hmem⟩ := List.mem_flatMap.1 hrow
      rw [(hbatches.sound batch hbatch).own row hmem]
      exact h.registered _ (hbatches.queries.subset (List.mem_map_of_mem hbatch))
    · rw [h.scores]
      rfl
  fits := by
    intro batch hbatch
    cases hb : s.backend with
    | memory => trivial
    | sqlite =>
      exact ⟨(hbatches.sound batch hbatch).positive, hbatches.addresses hb batch hbatch⟩

end Store

/-! ## Boards -/

namespace Crew

variable {crew : Crew} {work : List (NamedQuery × Nat)} {first : Store} {b b' : Board}

/-- The store is ready for what the crew is to write. -/
structure Prepared (crew : Crew) (work : List (NamedQuery × Nat)) (first : Store) : Prop where
  /-- The queries of the work have different ids. -/
  distinct : (work.map (fun p => p.1.id)).Nodup
  /-- They are registered, and nothing else is written. -/
  ready : first.Ready (work.map (fun p => p.1.id))
  /-- A database can keep the addresses that are shown. -/
  addresses : first.backend = .sqlite → ∀ p ∈ work, ∀ batch, crew.reply p.1 p.2 = .answer batch →
    ∀ d ∈ batch.displays, d.address ≤ Tables.maxAddress

theorem reply_of_handed? {w : Worker} {batch : ScoreBatch} (h : crew.handed? w = some batch) :
    crew.reply w.query w.limit = .answer batch := by
  unfold handed? at h
  split at h
  · rename_i hreply
    rw [hreply, Option.some.inj h]
  · rename_i hreply
    rw [hreply, Option.some.inj h]
  · exact absurd h (by simp)

/-- The batches that workers handed over are under the queries of these workers, in order. -/
theorem sublist_queryId_handed? (crew : Crew) (workers : List Worker) :
    ((workers.filterMap crew.handed?).map ScoreBatch.queryId).Sublist
      (workers.map (fun w => w.query.id)) := by
  induction workers with
  | nil => exact List.Sublist.slnil
  | cons w rest ih =>
    cases hw : crew.handed? w with
    | none =>
      rw [List.filterMap_cons_none hw]
      exact ih.cons _
    | some batch =>
      rw [List.filterMap_cons_some hw, List.map_cons, List.map_cons,
        (sound_of_retrieve (reply_of_handed? hw)).2.1]
      exact ih.cons_cons _

/-- What the workers handed over on a board goes together. -/
theorem Prepared.batchesOf (h : crew.Prepared work first) (hsteady : Steady crew work b) :
    BatchesOf first.backend (work.map (fun p => p.1.id))
      (b.workers.filterMap crew.handed?) where
  sound := by
    intro batch hbatch
    obtain ⟨w, -, hw⟩ := List.mem_filterMap.1 hbatch
    exact (sound_of_retrieve (reply_of_handed? hw)).1
  queries := by
    rw [← hsteady.roster, List.map_map]
    exact (sublist_queryId_handed? crew b.workers).subperm
  addresses := by
    intro hbackend batch hbatch
    obtain ⟨w, hw, hhanded⟩ := List.mem_filterMap.1 hbatch
    have hwork : (w.query, w.limit) ∈ work := by
      rw [← hsteady.roster]
      exact List.mem_map_of_mem hw
    exact h.addresses hbackend _ hwork batch (reply_of_handed? hhanded)

/-- **The store can take what is in the channel.** -/
theorem Prepared.takesAll (h : crew.Prepared work first) (hsteady : Steady crew work b)
    (hacc : Accounted crew first b) : b.store.TakesAll b.channel := by
  have hall : first.TakesAll (b.applied ++ b.channel) :=
    (h.ready.takesAll h.distinct (h.batchesOf hsteady)).perm hacc.handed.symm
  have hrest := hall.after h.ready.ascending
  rwa [hacc.stored] at hrest

/-- **No move** makes a store refuse a batch that it can take. -/
theorem verdict_ne_storage_of_step (hstep : crew.Step b b') (hopen : b.verdict = none)
    (hasc : Ascending keyLt b.store.scores) (htakes : b.store.TakesAll b.channel)
    (e : StoreError) : b'.verdict ≠ some (.error (.storage e)) := by
  have hsettle : ∀ c : Board, c.verdict = none → c.settle.verdict ≠ some (.error (.storage e)) := by
    intro c hc
    rw [Accounted.verdict_settle hc]
    split <;> simp
  cases hstep with
  | acquire | retrieve | send | receive | join | tick =>
    exact fun hverdict => absurd (hopen.symm.trans hverdict) (by simp)
  | @refuse batch rest store e' head refused =>
    -- the store takes the first batch of the channel, so this cannot happen
    rw [head] at htakes
    have hok := (Store.applyBatch_eq_ok_iff hasc).2 ((Store.takesAll_cons hasc).1 htakes).1
    rw [refused] at hok
    exact absurd hok (by simp)
  | fail found failure =>
    rename_i how f
    cases how <;> cases failure <;> simp
  | close => exact hsettle _ hopen
  | drain => exact hsettle _ hopen

/-- **No order of moves** ends with a refusal of the store. -/
theorem Prepared.verdict_ne_storage (h : crew.Prepared work first)
    (hreach : crew.Reachable (Board.start work first) b) (e : StoreError) :
    b.verdict ≠ some (.error (.storage e)) := by
  induction hreach with
  | start => exact fun hnone => nomatch hnone
  | @step b b' m hreach hmove ih =>
    obtain ⟨hopen, hstep⟩ := step_of_move hmove
    rcases hreach.accounted with hacc | ⟨f, hf⟩
    · have hasc : Ascending keyLt b.store.scores := by
        have hasc := Store.ascending_performAll (b.applied.map .applyBatch) h.ready.ascending
        rwa [hacc.stored] at hasc
      exact verdict_ne_storage_of_step hstep hopen hasc (h.takesAll hreach.steady hacc) e
    · exact absurd (hopen.symm.trans hf) (by simp)

end Crew

/-! ## What a run asks of its store -/

/-- The call succeeds. -/
def StoreReply.Accepts : StoreReply → Prop
  | .written result => result = .ok ()
  | .counted result => ∃ count, result = .ok count
  | .listed result => ∃ rows, result = .ok rows

namespace Run

variable {r : Run}

/-- All that the run asks of its store if the batches come in this order. -/
def storeCalls (r : Run) (batches : List ScoreBatch) : List StoreCall :=
  .insertQueries (r.queries.map NamedQuery.record) ::
    (batches.map .applyBatch ++ [.aggregate, .rows])

theorem map_id_map_record (r : Run) :
    (r.queries.map NamedQuery.record).map QueryRecord.id = r.queries.map NamedQuery.id := by
  rw [List.map_map]
  rfl

/-- **All of it is accepted**, if the batches are sound and under different queries of the run. -/
theorem accepts_storeCalls (hids : (r.queries.map NamedQuery.id).Nodup)
    {batches : List ScoreBatch}
    (h : BatchesOf r.options.backend (r.queries.map NamedQuery.id) batches) :
    ∀ x ∈ ((Store.empty r.options.backend).performAll (r.storeCalls batches)).2, x.2.Accepts := by
  rw [← r.map_id_map_record] at hids h
  obtain ⟨first, hinsert, hbackend, hready⟩ := Store.exists_ready r.options.backend hids
  rw [← hbackend] at h
  have hbatches := (Store.performAll_eq_acceptance_iff hready.ascending hready.isOpen).2
    (hready.takesAll hids h)
  have hasc := Store.ascending_performAll (batches.map .applyBatch) hready.ascending
  obtain ⟨rows, hcount, hrows, -⟩ := Store.tabulates_aggregate hasc
  rw [storeCalls, Store.performAll, Store.perform, hinsert]
  refine List.forall_mem_cons.2 ⟨rfl, ?_⟩
  rw [Prod.map_fst, id, Store.performAll_append, hbatches]
  refine List.forall_mem_append.2 ⟨fun x hx => ?_, ?_⟩
  · obtain ⟨batch, -, rfl⟩ := List.mem_map.1 hx
    rfl
  · exact List.forall_mem_cons.2 ⟨⟨_, hcount⟩, List.forall_mem_singleton.2 ⟨rows, hrows⟩⟩

end Run

/-! ## Executing a run -/

/-- The store could not be had in the first place. -/
def StoreError.OfOpening : StoreError → Prop
  | .directoryFault _ | .databaseFault _ => True
  | _ => False

namespace Run

variable {r : Run} {env : Environment} {e : Estimate} {w : Workspace}

/-- Every address that is looked at fits into a database, if the run uses one. -/
def AddressesFit (r : Run) : Prop :=
  r.options.backend = .sqlite → ∀ q ∈ r.queries, ∀ e looked, r.LooksAt e q looked →
    ∀ address ∈ looked, address ≤ Tables.maxAddress

/-- A store in which the queries of a run are registered is ready for what its crew is to write. -/
theorem prepared (hids : (r.queries.map NamedQuery.id).Nodup) (hfit : r.AddressesFit)
    {first : Store} (hbackend : first.backend = r.options.backend)
    (hready : first.Ready (r.queries.map NamedQuery.id)) (e : Estimate) :
    r.crew.Prepared (r.work e) first := by
  have hwork : (r.work e).map (fun p => p.1.id) = r.queries.map NamedQuery.id := by
    rw [work, List.map_map]
    rfl
  refine ⟨by rwa [hwork], by rwa [hwork], fun hsqlite p hp batch hreply d hd => ?_⟩
  obtain ⟨q, hq, rfl⟩ := List.mem_map.1 hp
  obtain ⟨-, -, hits, hsearch, haddress⟩ := sound_of_retrieve hreply
  exact hfit (hbackend.symm.trans hsqlite) q hq e _ ⟨hits, hsearch, rfl⟩ _ (haddress d hd)

theorem exists_addUp (store : Store) : ∃ sums, addUp store = .ok sums := by
  cases store <;> exact ⟨_, rfl⟩

/-- No order of moves of the workers ends with a refusal of the store. -/
def NeverRefused (r : Run) (e : Estimate) (first : Store) : Prop :=
  ∀ b, r.crew.Reachable (Board.start (r.work e) first) b →
    ∀ f, b.verdict ≠ some (.error (.storage f))

theorem executeQueries_ne_storage {store : Store} (h : r.NeverRefused e store) (f : StoreError) :
    (r.executeQueries env e store w).2 ≠ .error (.storage f) := by
  intro hfail
  have hreach := Crew.drive_reachable r.crew env.schedule (Board.start (r.work e) store)
  unfold executeQueries at hfail
  simp only at hfail
  split at hfail
  · cases hfail
  · rename_i hverdict
    cases hfail
    exact h _ hreach f hverdict
  · cases hfail

theorem scoreAndReport_ne_storage {store first : Store}
    (hinsert : store.insertQueries (r.queries.map NamedQuery.record) = (first, .ok ()))
    (h : r.NeverRefused e first) (f : StoreError) :
    (r.scoreAndReport env e store w).2.2 ≠ .error (.storage f) := by
  intro hfail
  unfold scoreAndReport at hfail
  simp only [hinsert] at hfail
  split at hfail
  · rename_i hexecute
    cases hfail
    exact executeQueries_ne_storage h f (congrArg Prod.snd hexecute)
  · rename_i second _
    obtain ⟨sums, hsums⟩ := exists_addUp second
    simp only [hsums] at hfail
    split at hfail
    · rename_i hwrite
      cases hfail
      -- a failure of the report is none of the storage
      exact Writer.ofReport_write (congrArg (fun x => x.2.2) hwrite)
    · cases hfail

theorem ofOpening_openStore {α : Type} {t : FileTree α} {scratch : Place} {backend : Backend}
    {database : α} {fault : Option String} {f : StoreError}
    (h : (openStore t scratch backend database fault).2 = .error f) : f.OfOpening := by
  cases backend with
  | memory => cases h
  | sqlite =>
    cases fault with
    | none => cases h
    | some message =>
      cases h
      trivial

theorem ofOpening_createScratch {α : Type} {t : FileTree α} {root : Option Path} {f : StoreError}
    (h : createScratch t root = .error f) : f.OfOpening := by
  unfold createScratch at h
  simp only at h
  split at h
  · cases h
    trivial
  · split_ifs at h
    cases h
    trivial

section Opening

variable {first : Store} {f : StoreError}

theorem ofOpening_workInStore {scratch : Place}
    (hinsert : (Store.empty r.options.backend).insertQueries (r.queries.map NamedQuery.record) =
      (first, .ok ())) (hnever : r.NeverRefused e first)
    (h : (r.workInStore env e scratch w).2.2 = .error (.storage f)) : f.OfOpening := by
  unfold workInStore at h
  split at h
  · rename_i hopen
    cases h
    exact ofOpening_openStore (congrArg Prod.snd hopen)
  · rename_i hopen
    rw [openStore_eq_ok (congrArg Prod.snd hopen)] at h
    exact absurd h (scoreAndReport_ne_storage hinsert hnever f)

/-- A run whose store refuses no batch fails in its storage only if it gets none. -/
theorem ofOpening_execute
    (hinsert : (Store.empty r.options.backend).insertQueries (r.queries.map NamedQuery.record) =
      (first, .ok ())) (hnever : ∀ e, r.NeverRefused e first)
    (h : (r.execute env w).2.2 = .error (.storage f)) : f.OfOpening := by
  unfold execute at h
  split_ifs at h with hexecuted
  · cases h
  simp only [carryOut] at h
  split at h
  · cases h
  split at h
  · rename_i hwork
    cases h
    have hscratch := congrArg (fun x => x.2.2) hwork
    unfold workInScratch at hscratch
    split at hscratch
    · rename_i hcreate
      cases hscratch
      exact ofOpening_createScratch hcreate
    · exact ofOpening_workInStore hinsert (hnever _) hscratch
  · cases h

end Opening

end Run

/-- **The store of a run refuses nothing.**  Take any queries that make a run, any index, policy and
backend.  Whatever documents each query finds (and if the index tells something else each time), and
in whatever order batches of some or all of the queries come: registering the queries, writing each
batch, adding up and reading the rows all succeed, with a database as long as the addresses fit.  So
no order of moves of the workers ends with a refusal, and a run fails in its storage only if it gets
no scratch directory or no database. -/
theorem store_of_run_refuses_nothing {queries : List NamedQuery} {index : SearchIndex}
    {options : RunOptions} {writer : Writer} {r : Run}
    (hnew : Run.new queries index options writer = .ok r) :
    (∀ (found : NamedQuery → List (Address × Document)) (order : List NamedQuery),
      order.Subperm queries →
      (options.backend = .sqlite → ∀ q ∈ order, ∀ p ∈ found q, p.1 ≤ Tables.maxAddress) →
      ∀ x ∈ ((Store.empty options.backend).performAll (r.storeCalls (order.map fun q =>
        scoreBatch options.policy q (sightings (found q))))).2, x.2.Accepts) ∧
    (r.AddressesFit →
      (∃ first, (Store.empty options.backend).insertQueries (queries.map NamedQuery.record) =
        (first, .ok ()) ∧ ∀ e, r.NeverRefused e first) ∧
      ∀ env w f, (r.execute env w).2.2 = .error (.storage f) → f.OfOpening) := by
  obtain ⟨rfl, hids⟩ := Run.new_eq_ok hnew
  refine ⟨fun found order horder hfit => ?_, fun hfit => ?_⟩
  · refine Run.accepts_storeCalls hids ⟨?_, ?_, fun hsqlite batch hbatch d hd => ?_⟩
    · intro batch hbatch
      obtain ⟨q, -, rfl⟩ := List.mem_map.1 hbatch
      exact sound_scoreBatch options.policy q _
    · obtain ⟨order', hperm, hsub⟩ := horder
      rw [List.map_map]
      exact ⟨order'.map NamedQuery.id, hperm.map _, hsub.map _⟩
    · obtain ⟨q, hq, rfl⟩ := List.mem_map.1 hbatch
      obtain ⟨p, hp, haddress⟩ := List.mem_map.1 (address_mem_of_mem_displays hd)
      rw [← haddress]
      exact hfit hsqlite q hq p hp
  · obtain ⟨first, hinsert, hbackend, hready⟩ := Store.exists_ready options.backend
      (by rwa [List.map_map] : ((queries.map NamedQuery.record).map QueryRecord.id).Nodup)
    rw [List.map_map] at hready
    have hnever : ∀ e, Run.NeverRefused ⟨queries, index, options, writer, false⟩ e first :=
      fun e b hreach => (Run.prepared hids hfit hbackend hready e).verdict_ne_storage hreach
    exact ⟨⟨first, hinsert, hnever⟩, fun env w f => Run.ofOpening_execute hinsert hnever⟩

/-- Two queries that find the same two documents, one of them twice.  The ids of their files differ
only behind the last character that is kept, and the batches come in the other order. -/
theorem store_of_run_refuses_nothing_long_ids :
    let long := fun c =>
      Script.plainDocument (String.ofList (List.replicate maxFileIdLength 'x' ++ [c]))
    let script : Script :=
      ⟨[(0, long 'a'), (1, long 'b')], [(1, [0, 1, 0]), (2, [0, 1, 0])], [], [], [], [], [], true⟩
    let queries : List NamedQuery := [⟨1, "one", "a", -1, -1⟩, ⟨2, "two", "b", 1, 5000⟩]
    let options : RunOptions := ⟨1, 1000, 1, 10, .inversePriority, .sqlite, some ⟨"scratch"⟩, 1⟩
    let writer : Writer := ⟨.snapshots ⟨"tags.xlsx"⟩, script.index, none, false⟩
    let r : Run := ⟨queries, script.index, options, writer, false⟩
    let found := [(0, long 'a'), (1, long 'b'), (0, long 'a')]
    Run.new queries script.index options writer = .ok r ∧ r.AddressesFit ∧
      (∀ x ∈ ((Store.empty .sqlite).performAll (r.storeCalls (queries.reverse.map fun q =>
        scoreBatch options.policy q (sightings found)))).2, x.2.Accepts) ∧
      ∀ env w f, (r.execute env w).2.2 = .error (.storage f) → f.OfOpening := by
  intro long script queries options writer r found
  have hnew : Run.new queries script.index options writer = .ok r := rfl
  have hfit : r.AddressesFit := by
    rintro - q hq e looked ⟨hits, hsearch, rfl⟩ address haddress
    have hhits : hits = [0, 1, 0] := by
      rcases List.mem_pair.1 hq with rfl | rfl <;> exact (Reply.answer.inj hsearch).symm
    have hmem : address ∈ [0, 1, 0] := hhits ▸ List.mem_of_mem_take haddress
    have hall : ∀ address ∈ [0, 1, 0], address ≤ Tables.maxAddress := by decide
    exact hall address hmem
  have hfound : ∀ p ∈ found, p.1 ≤ Tables.maxAddress := by
    refine List.forall_mem_map.1 (?_ : ∀ address ∈ found.map Prod.fst, address ≤ Tables.maxAddress)
    decide
  obtain ⟨haccepts, hrun⟩ := store_of_run_refuses_nothing hnew
  exact ⟨hnew, hfit, haccepts (fun _ => found) queries.reverse (List.reverse_perm _).subperm
    fun _ _ _ => hfound, (hrun hfit).2⟩

end Tagging
