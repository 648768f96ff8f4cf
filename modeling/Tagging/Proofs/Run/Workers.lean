import Tagging.Index
import Tagging.Proofs.Run.Accounting

/-!
# Every order of moves delivers or fails

What can be said of the boards that any order of moves comes to.

* `Delivered`, `Accounted.delivered` — **success**: when the driver ends well, the store has
  accepted the batch of each query exactly once;
* `Worker.Lost`, `Accounted.not_lost`, `eq_of_reachable_of_verdict` — **failure**: a worker that
  failed or broke down, and a batch that the store refuses, keep the driver from ending well;
* `exists_move`, `receive_isSome` — **progress**: until the driver ends there is a move other than
  time's, and a full channel can be drained;
* `drive_reachable`, `drive_verdict` — driven in any order, a crew comes to an end;
* `crew_delivers_or_fails` — all of it.
-/

namespace Tagging

/-! ## Success -/

/-- The store has accepted the batch of each query exactly once, and the driver said so. -/
structure Delivered (crew : Crew) (work : List (NamedQuery × Nat)) (first : Store) (b : Board) :
    Prop where
  /-- There is one batch for each query, the one that the index replied, and they are accepted, in
  some order. -/
  batches : ∃ batches,
    List.Forall₂ (fun p batch => crew.reply p.1 p.2 = .answer batch) work batches ∧
      b.applied.Perm batches
  /-- The store holds what it accepted, and nothing was asked of it besides. -/
  stored : first.performAll (b.applied.map .applyBatch) = (b.store, acceptance b.applied)
  /-- No batch is left in the channel. -/
  emptied : b.channel = []
  /-- All queries are counted. -/
  completed : b.completed = work.length
  /-- That is announced. -/
  announced : lastProgress b.journal = some (work.length, work.length)

/-- Workers that ended well handed over what the index replied, one batch each. -/
theorem forall₂_handed? {crew : Crew} {workers : List Worker}
    (hall : ∀ w ∈ workers, w.stage = .joined)
    (hwell : ∀ w ∈ workers, ∃ batch, crew.reply w.query w.limit = .answer batch) :
    List.Forall₂ (fun p batch => crew.reply p.1 p.2 = .answer batch)
      (workers.map (fun w => (w.query, w.limit))) (workers.filterMap crew.handed?) := by
  induction workers with
  | nil => exact .nil
  | cons w rest ih =>
    obtain ⟨hw, hrest⟩ := List.forall_mem_cons.1 hall
    obtain ⟨⟨batch, hreply⟩, hwells⟩ := List.forall_mem_cons.1 hwell
    have hhanded : crew.handed? w = some batch := by simp only [Crew.handed?, hw, hreply]
    rw [List.map_cons, List.filterMap_cons_some hhanded]
    exact .cons hreply (ih hrest hwells)

theorem Stage.eq_joined {s : Stage} (h : s.isJoined = true) : s = .joined := by
  cases s with
  | joined => rfl
  | waiting | asking | sending batch | ended how => exact absurd h (by simp [isJoined])

namespace Accounted

variable {crew : Crew} {work : List (NamedQuery × Nat)} {first : Store} {b : Board}

/-- When the driver ends well it knows that all workers ended and that no batch will come. -/
theorem flags (h : Accounted crew first b) (hok : b.verdict = some (.ok ())) :
    b.allJoined = true ∧ b.allReceived = true := by
  have hverdict := h.verdict
  rw [hok] at hverdict
  split_ifs at hverdict with hflags
  exact Bool.and_eq_true_iff.1 hflags

/-- **Success**: everything is delivered, once, when the driver ends well. -/
theorem delivered (h : Accounted crew first b) (hsteady : Steady crew work b)
    (hok : b.verdict = some (.ok ())) : Delivered crew work first b := by
  obtain ⟨hj, hr⟩ := h.flags hok
  have hjoined : ∀ w ∈ b.workers, w.stage = .joined :=
    fun w hw => Stage.eq_joined (h.allJoined hj w hw)
  obtain ⟨hempty, -⟩ := h.allReceived hr
  have hlength : b.workers.length = work.length := by
    rw [← hsteady.roster, List.length_map]
  have hcompleted : b.completed = work.length := by
    rw [h.completed, List.countP_eq_length.2 (h.allJoined hj), hlength]
  have hhanded := h.handed
  rw [hempty, List.append_nil] at hhanded
  have hreplies := forall₂_handed? hjoined (fun w hw => h.well w hw (hjoined w hw))
  rw [hsteady.roster] at hreplies
  refine ⟨⟨_, hreplies, hhanded⟩, h.stored, hempty, hcompleted, ?_⟩
  rw [h.announced, hcompleted, Board.total, hlength]

end Accounted

/-! ## Failure -/

/-- The worker failed or broke down, and the driver does not know yet. -/
def Worker.Lost (w : Worker) : Prop :=
  ∃ how f, w.stage = .ended how ∧ how.failure? = some f

/-- A lost worker got no batch from the index. -/
theorem Crew.Faithful.no_batch {crew : Crew} {w : Worker} (h : crew.Faithful w) (hlost : w.Lost)
    (batch : ScoreBatch) : crew.reply w.query w.limit ≠ .answer batch := by
  obtain ⟨q, limit, s⟩ := w
  obtain ⟨how, f, rfl, hf⟩ := hlost
  intro hanswer
  cases how with
  | delivered => exact absurd hf (by simp [WorkEnd.failure?])
  | failed message =>
    have hreply : crew.reply q limit = .failure message := h
    exact absurd (hreply.symm.trans hanswer) (by simp)
  | brokeDown =>
    have hreply : crew.reply q limit = .breakdown := h
    exact absurd (hreply.symm.trans hanswer) (by simp)

namespace Crew

variable {crew : Crew} {work : List (NamedQuery × Nat)} {first : Store} {a b c : Board}

theorem Reachable.trans (hab : crew.Reachable a b) (hbc : crew.Reachable b c) :
    crew.Reachable a c := by
  induction hbc with
  | start => exact hab
  | step _ hmove ih => exact .step ih hmove

/-- Nothing happens any more once the driver has ended. -/
theorem eq_of_reachable_of_verdict (hverdict : a.verdict.isSome = true)
    (h : crew.Reachable a b) : b = a := by
  induction h with
  | start => rfl
  | step _ hmove ih =>
    have hopen := (step_of_move hmove).1
    rw [ih] at hopen
    exact absurd hverdict (by simp [hopen])

/-- When the driver ends well everything is delivered. -/
theorem Reachable.delivered (h : crew.Reachable (Board.start work first) b)
    (hok : b.verdict = some (.ok ())) : Delivered crew work first b := by
  rcases h.accounted with hacc | ⟨f, hf⟩
  · exact hacc.delivered h.steady hok
  · exact absurd (hok.symm.trans hf) (by simp)

/-- **Failure**: after a worker is lost the driver never ends well. -/
theorem Reachable.verdict_ne_ok_of_lost (h : crew.Reachable (Board.start work first) a)
    (hlost : ∃ w ∈ a.workers, w.Lost) (hab : crew.Reachable a b) :
    b.verdict ≠ some (.ok ()) := by
  obtain ⟨w, hw, hlost⟩ := hlost
  intro hok
  obtain ⟨batches, hreplies, -⟩ := ((h.trans hab).delivered hok).batches
  have hmem : (w.query, w.limit) ∈ work := by
    rw [← h.steady.roster]
    exact List.mem_map_of_mem hw
  obtain ⟨batch, -, hreply⟩ := exists_mem_of_forall₂ hreplies _ hmem
  exact (h.steady.faithful w hw).no_batch hlost batch hreply

/-- **Failure**: a batch that the store refuses is how the driver ends. -/
theorem verdict_of_refused {batch : ScoreBatch} {rest : List ScoreBatch} {store : Store}
    {e : StoreError} (head : a.channel = batch :: rest)
    (refused : a.store.applyBatch batch = (store, .error e))
    (hmove : crew.move a .receive = some b) (hbc : crew.Reachable b c) :
    c.verdict = some (.error (.storage e)) := by
  have hverdict : b.verdict = some (.error (.storage e)) := by
    unfold move at hmove
    split_ifs at hmove
    simp only [receive, head, refused, Option.some.injEq] at hmove
    rw [← hmove]
  rw [eq_of_reachable_of_verdict (by simp [hverdict]) hbc, hverdict]

/-! ## Permits -/

theorem workerPermits_pos (queries maxWorkers : Nat) : 0 < workerPermits queries maxWorkers :=
  lt_of_lt_of_le Nat.one_pos (le_max_right _ _)

/-- At most as many workers are active as there are queries and as are allowed; at least one is
always allowed. -/
theorem active_le (hsteady : Steady crew work b) {maxWorkers : Nat}
    (hpermits : crew.permits = workerPermits work.length maxWorkers) :
    b.active ≤ min work.length (max maxWorkers 1) := by
  have hactive := hsteady.active
  have hcount : b.active ≤ b.workers.length := List.countP_le_length
  have hlength : b.workers.length = work.length := by
    rw [← hsteady.roster, List.length_map]
  rw [hpermits, workerPermits] at hactive
  omega

/-! ## Progress -/

theorem exists_stage? {w : Worker} (hw : w ∈ b.workers) :
    ∃ i q limit, b.workers[i]? = some ⟨q, limit, w.stage⟩ ∧ b.stage? i = some w.stage := by
  obtain ⟨i, hi⟩ := List.mem_iff_getElem?.1 hw
  exact ⟨i, w.query, w.limit, hi, by rw [Board.stage?, hi, Option.map_some]⟩

/-- A batch in the channel can be taken as long as the driver has not ended. -/
theorem receive_isSome (crew : Crew) (hopen : b.verdict = none) (hne : b.channel ≠ []) :
    (crew.move b .receive).isSome = true := by
  obtain ⟨batch, rest, head⟩ := List.exists_cons_of_ne_nil hne
  unfold move
  rw [if_neg (by simp [hopen])]
  simp only [receive, head]
  cases b.store.applyBatch batch with
  | mk store result => cases result <;> rfl

/-- With an empty channel, a worker that may still send can get on, or another one can. -/
theorem exists_move_of_maySend (hpermits : 0 < crew.permits) (hopen : b.verdict = none)
    (hempty : b.channel = []) {w : Worker} (hw : w ∈ b.workers)
    (hsend : w.stage.maySend = true) :
    ∃ m, m ≠ .tick ∧ (crew.move b m).isSome = true := by
  by_cases hactive : ∃ v ∈ b.workers, v.stage.holdsPermit = true
  · -- whoever holds a permit can use it
    obtain ⟨v, hv, hholds⟩ := hactive
    obtain ⟨i, q, limit, hi, hstage⟩ := exists_stage? hv
    cases hs : v.stage with
    | asking =>
      rw [hs] at hi
      exact ⟨.retrieve i, by simp, by simp [move, hopen, Crew.retrieve, hi]⟩
    | sending batch =>
      rw [hs] at hstage
      exact ⟨.send i, by simp, by simp [move, hopen, Crew.send, hstage, hempty, hpermits]⟩
    | waiting | ended how | joined =>
      rw [hs] at hholds
      exact absurd hholds (by simp [Stage.holdsPermit])
  · -- nobody holds one, so the worker waits and one is free
    have hzero : b.active = 0 :=
      List.countP_eq_zero.2 fun v hv hholds => hactive ⟨v, hv, hholds⟩
    have hwaiting : w.stage = .waiting := by
      cases hs : w.stage with
      | waiting => rfl
      | asking | sending batch => exact absurd ⟨w, hw, by rw [hs]; rfl⟩ hactive
      | ended how | joined =>
        rw [hs] at hsend
        exact absurd hsend (by simp [Stage.maySend])
    obtain ⟨i, q, limit, -, hstage⟩ := exists_stage? hw
    rw [hwaiting] at hstage
    exact ⟨.acquire i, by simp, by simp [move, hopen, Crew.acquire, hstage, hzero, hpermits]⟩

/-- **Progress**: until the driver ends there is a move other than time's. -/
theorem exists_move (hpermits : 0 < crew.permits) (hacc : Accounted crew first b)
    (hopen : b.verdict = none) : ∃ m, m ≠ .tick ∧ (crew.move b m).isSome = true := by
  by_cases hempty : b.channel = []
  swap
  · exact ⟨.receive, by simp, receive_isSome crew hopen hempty⟩
  by_cases hsend : ∃ w ∈ b.workers, w.stage.maySend = true
  · obtain ⟨w, hw, hsend⟩ := hsend
    exact exists_move_of_maySend hpermits hopen hempty hw hsend
  have hidle : ∀ w ∈ b.workers, w.stage.maySend = false := fun w hw => by
    simpa using fun h => hsend ⟨w, hw, h⟩
  cases hr : b.allReceived with
  | false =>
    have hall : (b.workers.all fun w => !w.stage.maySend) = true := by
      simpa [List.all_eq_true] using hidle
    exact ⟨.close, by simp, by simp [move, hopen, close, hr, hempty, hall]⟩
  | true =>
    by_cases hjoined : ∀ w ∈ b.workers, w.stage.isJoined = true
    · have hj : b.allJoined = false := by
        by_contra hne
        have hverdict := hacc.verdict
        rw [hopen, hr, Bool.eq_true_of_not_eq_false hne] at hverdict
        exact absurd hverdict (by simp)
      have hall : (b.workers.all fun w => w.stage.isJoined) = true := List.all_eq_true.2 hjoined
      exact ⟨.drain, by simp, by simp [move, hopen, drain, hj, hall]⟩
    · -- a worker that can neither send nor is joined has ended
      push Not at hjoined
      obtain ⟨w, hw, hnot⟩ := hjoined
      obtain ⟨i, q, limit, -, hstage⟩ := exists_stage? hw
      cases hs : w.stage with
      | ended how =>
        rw [hs] at hstage
        refine ⟨.join i, by simp, ?_⟩
        cases how <;> simp [move, hopen, join, hstage]
      | waiting | asking | sending batch =>
        exact absurd (hidle w hw) (by rw [hs]; simp [Stage.maySend])
      | joined => exact absurd (by rw [hs]; rfl) hnot

/-! ## Driving -/

/-- A move other than time's that can happen is one of those that are tried. -/
theorem mem_everyMove {m : Move} (hmove : crew.move a m = some b) (hm : m ≠ .tick) :
    m ∈ everyMove a.total := by
  have hlt : ∀ i s, a.stage? i = some s → i < a.total := by
    intro i s hs
    obtain ⟨q, limit, hw⟩ := exists_worker hs
    exact (List.getElem?_eq_some_iff.1 hw).1
  have hworker : ∀ i, i < a.total → ∀ m ∈ [Move.join i, .send i, .retrieve i, .acquire i],
      m ∈ everyMove a.total := by
    intro i hi m hm
    refine List.mem_cons_of_mem _ (List.mem_cons_of_mem _ (List.mem_cons_of_mem _ ?_))
    exact List.mem_flatMap.2 ⟨i, List.mem_range.2 hi, hm⟩
  unfold move at hmove
  split_ifs at hmove
  cases m with
  | tick => exact absurd rfl hm
  | receive | close | drain => simp [everyMove]
  | acquire i =>
    simp only [Crew.acquire] at hmove
    cases hs : a.stage? i with
    | none => simp [hs] at hmove
    | some s => exact hworker i (hlt i s hs) _ (by simp)
  | retrieve i =>
    simp only [Crew.retrieve] at hmove
    cases hw : a.workers[i]? with
    | none => simp [hw] at hmove
    | some w => exact hworker i (List.getElem?_eq_some_iff.1 hw).1 _ (by simp)
  | send i =>
    simp only [Crew.send] at hmove
    cases hs : a.stage? i with
    | none => simp [hs] at hmove
    | some s => exact hworker i (hlt i s hs) _ (by simp)
  | join i =>
    simp only [Crew.join] at hmove
    cases hs : a.stage? i with
    | none => simp [hs] at hmove
    | some s => exact hworker i (hlt i s hs) _ (by simp)

theorem exists_move_of_next? {wanted : Move} (h : crew.next? wanted a = some b) :
    ∃ m, crew.move a m = some b := by
  obtain ⟨m, -, hmove⟩ := List.exists_of_findSome?_eq_some h
  exact ⟨m, hmove⟩

/-- If no move is found, none but time's can happen. -/
theorem move_eq_none_of_next? {wanted : Move} (h : crew.next? wanted a = none) {m : Move}
    (hm : m ≠ .tick) : crew.move a m = none := by
  cases hmove : crew.move a m with
  | none => rfl
  | some b =>
    have hmem : m ∈ (wanted :: everyMove a.total).filter (fun m => m ≠ .tick) :=
      List.mem_filter.2 ⟨List.mem_cons_of_mem _ (mem_everyMove hmove hm), decide_eq_true hm⟩
    exact absurd (hmove.symm.trans (List.findSome?_eq_none_iff.1 h m hmem)) (by simp)

/-- Driving makes moves only. -/
theorem drive_reachable (crew : Crew) (schedule : Board → Move) (b : Board) :
    crew.Reachable b (crew.drive schedule b) := by
  induction b using Crew.drive.induct crew schedule with
  | case1 b b' hnext ih =>
    obtain ⟨m, hmove⟩ := exists_move_of_next? hnext
    rw [drive, hnext]
    exact (Reachable.step .start hmove).trans ih
  | case2 b hnext =>
    rw [drive, hnext]
    exact .start

/-- Driving goes on until no move but time's can happen. -/
theorem move_drive (crew : Crew) (schedule : Board → Move) (b : Board) {m : Move}
    (hm : m ≠ .tick) : crew.move (crew.drive schedule b) m = none := by
  induction b using Crew.drive.induct crew schedule with
  | case1 b b' hnext ih =>
    rw [drive, hnext]
    exact ih
  | case2 b hnext =>
    rw [drive, hnext]
    exact move_eq_none_of_next? hnext hm

/-- **Driven in any order, a crew comes to an end.** -/
theorem drive_verdict (hpermits : 0 < crew.permits)
    (h : crew.Reachable (Board.start work first) b) (schedule : Board → Move) :
    (crew.drive schedule b).verdict.isSome = true := by
  cases hopen : (crew.drive schedule b).verdict with
  | some result => rfl
  | none =>
    rcases (h.trans (drive_reachable crew schedule b)).accounted with hacc | ⟨f, hf⟩
    · obtain ⟨m, hm, hmove⟩ := exists_move hpermits hacc hopen
      rw [move_drive crew schedule b hm] at hmove
      exact absurd hmove (by simp)
    · exact absurd (hopen.symm.trans hf) (by simp)

end Crew

/-- **Every order of moves delivers or fails.**  On every board that some order of moves comes to:
if the driver ended well, everything is delivered; if a worker failed or broke down, the driver
never ends well after that; if the store refuses the batch that the driver takes, that is how it
ends; no more workers are active than are allowed, and no more batches in the channel; and until the
driver ends, some move is possible besides time's, among them taking a batch from a channel that
holds one, each such move leaves less to do, and in whatever order a schedule wants them, they lead
to an end. -/
theorem crew_delivers_or_fails (index : SearchIndex) (policy : Policy)
    (work : List (NamedQuery × Nat)) (first : Store) (maxWorkers : Nat) {b : Board}
    (h : Crew.Reachable ⟨index, policy, workerPermits work.length maxWorkers⟩
      (Board.start work first) b) :
    let crew : Crew := ⟨index, policy, workerPermits work.length maxWorkers⟩
    (b.verdict = some (.ok ()) → Delivered crew work first b) ∧
    ((∃ w ∈ b.workers, w.Lost) → ∀ c, crew.Reachable b c → c.verdict ≠ some (.ok ())) ∧
    (∀ batch rest store e, b.channel = batch :: rest →
      b.store.applyBatch batch = (store, .error e) →
        ∀ b', crew.move b .receive = some b' → ∀ c, crew.Reachable b' c →
          c.verdict = some (.error (.storage e))) ∧
    b.active ≤ min work.length (max maxWorkers 1) ∧
    (0 < maxWorkers → b.active ≤ min work.length maxWorkers) ∧
    b.channel.length ≤ crew.permits ∧
    (b.verdict = none →
      (∃ m, m ≠ .tick ∧ (crew.move b m).isSome = true) ∧
      (b.channel ≠ [] → (crew.move b .receive).isSome = true) ∧
      (∀ m b', m ≠ .tick → crew.move b m = some b' → b'.effort < b.effort) ∧
      ∀ schedule, crew.Reachable b (crew.drive schedule b) ∧
        (crew.drive schedule b).verdict.isSome = true) := by
  intro crew
  have hpermits : 0 < crew.permits := Crew.workerPermits_pos work.length maxWorkers
  have hactive : b.active ≤ min work.length (max maxWorkers 1) := Crew.active_le h.steady rfl
  refine ⟨h.delivered, fun hlost c hbc => h.verdict_ne_ok_of_lost hlost hbc,
    fun batch rest store e head refused b' hmove c hbc =>
      Crew.verdict_of_refused head refused hmove hbc,
    hactive, fun hpos => by rwa [max_eq_left hpos] at hactive, h.steady.room,
    fun hopen => ⟨?_, ?_, ?_, ?_⟩⟩
  · rcases h.accounted with hacc | ⟨f, hf⟩
    · exact Crew.exists_move hpermits hacc hopen
    · exact absurd (hopen.symm.trans hf) (by simp)
  · exact Crew.receive_isSome crew hopen
  · exact fun m b' hm hmove => Crew.effort_move hmove hm
  · exact fun schedule =>
      ⟨Crew.drive_reachable crew schedule b, Crew.drive_verdict hpermits h schedule⟩

/-- Two queries that find two documents of one file, retrieved one after the other. -/
theorem crew_delivers_two_queries :
    let script : Script := ⟨[(0, Script.plainDocument "x"), (1, Script.plainDocument "x")],
      [(1, [0, 1]), (2, [1])], [], [], [], [], [], false⟩
    let work : List (NamedQuery × Nat) :=
      [(⟨1, "one", "a", -1, -1⟩, 10), (⟨2, "two", "b", -1, -1⟩, 10)]
    let crew : Crew := ⟨script.index, .inverseRank, workerPermits work.length 1⟩
    let first := ((Store.empty .memory).insertQueries (work.map (fun p => p.1.record))).1
    ∃ b, crew.Reachable (Board.start work first) b ∧ b.verdict = some (.ok ()) ∧
      Delivered crew work first b := by
  intro script work crew first
  have hreach := Crew.drive_reachable crew Board.inOrder (Board.start work first)
  have hok : (crew.drive Board.inOrder (Board.start work first)).verdict = some (.ok ()) := by
    decide +kernel
  exact ⟨_, hreach, hok,
    (crew_delivers_or_fails script.index .inverseRank work first 1 hreach).1 hok⟩

end Tagging
