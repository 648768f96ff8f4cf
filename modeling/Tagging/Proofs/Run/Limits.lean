import Tagging.Proofs.Corpus.Search
import Tagging.Proofs.Run.Workers

/-!
# Workers under other limits

Replacing the limits of the workers on a board, by the ids of their queries, commutes with every
move, as long as the limits make no difference to the hits.  So both boards take the same moves to
the same end.

* `Board.withLimits` — a board under other limits;
* `retrieve_withLimits` — what the index is asked, and the same answer;
* `Crew.move_withLimits` — **one move**;
* `Crew.drive_withLimits` — **all moves**, in an order that is given;
* `IgnoresLimits`, `inOrder_ignoresLimits` — orders that do not depend on limits.
-/

namespace Tagging

/-! ## Other limits -/

variable (limits : QueryId → Nat)

/-- An event when the hits are asked for under another limit. -/
def Event.withLimits : Event → Event
  | .searched id _ => .searched id (limits id)
  | e => e

/-- A worker with another limit. -/
def Worker.withLimits (w : Worker) : Worker := { w with limit := limits w.query.id }

/-- A board with other limits. -/
def Board.withLimits (b : Board) : Board :=
  { b with
    workers := b.workers.map (Worker.withLimits limits)
    journal := b.journal.map (Event.withLimits limits) }

/-- What a schedule wants does not depend on limits. -/
def IgnoresLimits (schedule : Board → Move) : Prop :=
  ∀ limits b, schedule (b.withLimits limits) = schedule b

namespace Board

variable (b : Board) (i : Nat)

theorem start_withLimits (work : List (NamedQuery × Nat)) (store : Store) :
    (start work store).withLimits limits =
      start (work.map fun p => (p.1, limits p.1.id)) store := by
  simp only [withLimits, start, List.map_map, List.length_map]
  rfl

@[simp] theorem channel_withLimits : (b.withLimits limits).channel = b.channel := rfl

@[simp] theorem store_withLimits : (b.withLimits limits).store = b.store := rfl

@[simp] theorem allJoined_withLimits : (b.withLimits limits).allJoined = b.allJoined := rfl

@[simp] theorem allReceived_withLimits : (b.withLimits limits).allReceived = b.allReceived := rfl

@[simp] theorem verdict_withLimits : (b.withLimits limits).verdict = b.verdict := rfl

@[simp] theorem total_withLimits : (b.withLimits limits).total = b.total :=
  List.length_map ..

@[simp] theorem getElem?_workers_withLimits :
    (b.withLimits limits).workers[i]? = b.workers[i]?.map (Worker.withLimits limits) :=
  List.getElem?_map

@[simp] theorem stage?_withLimits : (b.withLimits limits).stage? i = b.stage? i := by
  rw [stage?, getElem?_workers_withLimits, Option.map_map]
  rfl

@[simp] theorem active_withLimits : (b.withLimits limits).active = b.active :=
  List.countP_map

/-- What is asked of the stages of all workers. -/
@[simp] theorem all_workers_withLimits (p : Stage → Bool) :
    (b.withLimits limits).workers.all (fun w => p w.stage) = b.workers.all fun w => p w.stage :=
  List.all_map

@[simp] theorem setStage_withLimits (s : Stage) :
    (b.withLimits limits).setStage i s = (b.setStage i s).withLimits limits := by
  rw [setStage, getElem?_workers_withLimits, setStage]
  cases b.workers[i]? with
  | none => rfl
  | some w =>
    simp only [Option.map_some, withLimits, List.map_set]
    rfl

@[simp] theorem settle_withLimits :
    (b.withLimits limits).settle = b.settle.withLimits limits := by
  rw [settle, allJoined_withLimits, allReceived_withLimits, settle]
  split_ifs <;> rfl

end Board

/-- Writing one worker after the other does not depend on limits. -/
theorem inOrder_ignoresLimits : IgnoresLimits Board.inOrder := by
  intro limits b
  have hfirst : (b.withLimits limits).firstUnjoined? =
      b.firstUnjoined?.map fun p => (p.1.withLimits limits, p.2) := by
    simp only [Board.firstUnjoined?, Board.withLimits, List.zipIdx_map, List.find?_map]
    rfl
  rw [Board.inOrder, hfirst, Board.inOrder]
  cases b.firstUnjoined? with
  | none => rfl
  | some p => rfl

/-! ## Asking the index -/

section Retrieve

variable {index : SearchIndex} {q : NamedQuery} {limit : Nat}

/-- Reading documents asks for no hits. -/
theorem map_withLimits_readAll (index : SearchIndex) (addresses : List Address) :
    (readAll index addresses).1.map (Event.withLimits limits) = (readAll index addresses).1 := by
  induction addresses with
  | nil => rfl
  | cons address rest ih =>
    rw [readAll]
    cases index.document address with
    | failure message => rfl
    | breakdown => rfl
    | answer d =>
      rcases hrest : readAll index rest with ⟨events, result⟩
      rw [hrest] at ih
      cases result <;> exact congrArg _ ih

variable {limits} in
/-- **Under a limit that makes no difference** the index is asked for other hits and answers the
same. -/
theorem retrieve_withLimits (policy : Policy) (h : index.SameHits q limit (limits q.id)) :
    retrieve index policy q (limits q.id) =
      ((retrieve index policy q limit).1.map (Event.withLimits limits),
        (retrieve index policy q limit).2) := by
  rw [retrieve, ← h.search, retrieve]
  cases hsearch : index.search q limit with
  | failure message => rfl
  | breakdown => rfl
  | answer hits =>
    have hevents := map_withLimits_readAll limits index (hits.take limit)
    simp only [← h.looked hits hsearch]
    rcases hread : readAll index (hits.take limit) with ⟨events, _ | _⟩ <;>
      simp only [hread] at hevents <;>
      simp only [List.map_cons, hevents, Event.withLimits]

end Retrieve

/-! ## Moves -/

namespace Crew

variable {limits} {crew : Crew} {b : Board} {work : List (NamedQuery × Nat)} {first : Store}
  (i : Nat)

theorem acquire_withLimits :
    crew.acquire (b.withLimits limits) i = (crew.acquire b i).map (Board.withLimits limits) := by
  simp only [acquire, Board.stage?_withLimits, Board.active_withLimits, Board.setStage_withLimits]
  split
  · split_ifs <;> rfl
  · rfl

theorem retrieve_move_withLimits
    (h : ∀ w ∈ b.workers, crew.index.SameHits w.query w.limit (limits w.query.id)) :
    crew.retrieve (b.withLimits limits) i = (crew.retrieve b i).map (Board.withLimits limits) := by
  rw [Crew.retrieve, Board.getElem?_workers_withLimits, Crew.retrieve]
  cases hw : b.workers[i]? with
  | none => rfl
  | some w =>
    obtain ⟨q, limit, stage⟩ := w
    cases stage with
    | asking =>
      have hsame := retrieve_withLimits crew.policy (h _ (List.mem_of_getElem? hw))
      simp only [Option.map_some, Worker.withLimits, hsame, Board.setStage_withLimits]
      simp only [Board.withLimits, List.map_append]
    | waiting | sending batch | ended how | joined => rfl

theorem send_withLimits :
    crew.send (b.withLimits limits) i = (crew.send b i).map (Board.withLimits limits) := by
  simp only [send, Board.stage?_withLimits, Board.setStage_withLimits]
  split
  · rw [Board.channel_withLimits]
    split_ifs <;> rfl
  · rfl

theorem receive_withLimits :
    receive (b.withLimits limits) = (receive b).map (Board.withLimits limits) := by
  rw [receive, Board.channel_withLimits, Board.store_withLimits, receive]
  cases b.channel with
  | nil => rfl
  | cons batch rest =>
    rcases happly : b.store.applyBatch batch with ⟨store, _ | _⟩ <;> simp only [happly] <;> rfl

theorem close_withLimits :
    close (b.withLimits limits) = (close b).map (Board.withLimits limits) := by
  have hset : ({ b.withLimits limits with allReceived := true } : Board) =
      ({ b with allReceived := true } : Board).withLimits limits := rfl
  rw [close, hset, Board.channel_withLimits, Board.allReceived_withLimits,
    b.all_workers_withLimits limits fun s => !s.maySend, close]
  split_ifs
  · rfl
  · rw [Board.settle_withLimits]
    rfl
  · rfl

theorem join_withLimits :
    join (b.withLimits limits) i = (join b i).map (Board.withLimits limits) := by
  rw [join, Board.stage?_withLimits, join, Board.setStage_withLimits, Board.total_withLimits]
  rcases b.stage? i with _ | _ | _ | _ | how | _
  case some.ended =>
    cases how with
    | delivered =>
      simp only [Option.map_some, Board.withLimits, List.map_append]
      rfl
    | failed message | brokeDown => rfl
  all_goals rfl

theorem drain_withLimits :
    drain (b.withLimits limits) = (drain b).map (Board.withLimits limits) := by
  have hset : ({ b.withLimits limits with allJoined := true } : Board) =
      ({ b with allJoined := true } : Board).withLimits limits := rfl
  rw [drain, hset, Board.allJoined_withLimits, b.all_workers_withLimits limits Stage.isJoined,
    drain]
  split_ifs
  · rfl
  · rw [Board.settle_withLimits]
    rfl
  · rfl

/-- **One move** does under other limits what it does, if they make no difference to any worker. -/
theorem move_withLimits
    (h : ∀ w ∈ b.workers, crew.index.SameHits w.query w.limit (limits w.query.id)) (m : Move) :
    crew.move (b.withLimits limits) m = (crew.move b m).map (Board.withLimits limits) := by
  unfold move
  rw [Board.verdict_withLimits]
  split_ifs
  · rfl
  cases m with
  | acquire i => exact acquire_withLimits i
  | retrieve i => exact retrieve_move_withLimits i h
  | send i => exact send_withLimits i
  | receive => exact receive_withLimits
  | close => exact close_withLimits
  | join i => exact join_withLimits i
  | drain => exact drain_withLimits
  | tick => rfl

/-- The limits of the workers are those of the work, so they make no difference if those do not. -/
theorem Reachable.sameHits (h : crew.Reachable (Board.start work first) b)
    (hsame : ∀ p ∈ work, crew.index.SameHits p.1 p.2 (limits p.1.id)) :
    ∀ w ∈ b.workers, crew.index.SameHits w.query w.limit (limits w.query.id) := by
  intro w hw
  refine hsame (w.query, w.limit) ?_
  rw [← h.steady.roster]
  exact List.mem_map.2 ⟨w, hw, rfl⟩

theorem next?_withLimits
    (h : ∀ w ∈ b.workers, crew.index.SameHits w.query w.limit (limits w.query.id))
    (wanted : Move) : crew.next? wanted (b.withLimits limits) =
      (crew.next? wanted b).map (Board.withLimits limits) := by
  rw [next?, Board.total_withLimits, next?, List.map_findSome?]
  exact congrArg (List.findSome? · _) (funext fun m => move_withLimits h m)

/-- **All moves** lead to the same end under other limits, in the order that a schedule wants that
sees the other limits. -/
theorem drive_withLimits (schedule : Board → Move)
    (h : crew.Reachable (Board.start work first) b)
    (hsame : ∀ p ∈ work, crew.index.SameHits p.1 p.2 (limits p.1.id)) :
    crew.drive schedule (b.withLimits limits) =
      (crew.drive (fun c => schedule (c.withLimits limits)) b).withLimits limits := by
  induction b using Crew.drive.induct crew fun c => schedule (c.withLimits limits) with
  | case1 b b' hnext ih =>
    obtain ⟨m, hmove⟩ := exists_move_of_next? hnext
    have hboth := next?_withLimits (h.sameHits hsame) (schedule (b.withLimits limits))
    rw [hnext] at hboth
    rw [drive, hboth, drive, hnext]
    exact ih (.step h hmove)
  | case2 b hnext =>
    have hboth := next?_withLimits (h.sameHits hsame) (schedule (b.withLimits limits))
    rw [hnext] at hboth
    rw [drive, hboth, drive, hnext]
    rfl

end Crew

end Tagging
