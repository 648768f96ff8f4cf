import Tagging.Failure
import Tagging.Retrieval
import Tagging.Store.Scratch

/-!
# Workers

One worker for each query retrieves its hits; a bounded number of workers is active, and each hands
its batch over through a bounded channel to the driver, which alone writes to the store.  A batch
and the end of its worker reach the driver on two ways, so the driver goes on until both have run
dry.

* `Stage`, `Worker` — a worker on its way;
* `Board` — workers, channel, store, and what the driver knows;
* `Crew.move` — what can happen next;
* `Crew.Reachable` — every board that some order of moves comes to;
* `Crew.drive` — carrying on until nothing can happen, in an order that is given.
-/

namespace Tagging

/-! ## The board -/

/-- How a worker ends. -/
inductive WorkEnd where
  /-- Its batch is handed over. -/
  | delivered
  /-- The index reports a failure. -/
  | failed (message : String)
  /-- It breaks down. -/
  | brokeDown
  deriving Repr, DecidableEq, Inhabited

/-- How far a worker is. -/
inductive Stage where
  /-- It waits for a permit. -/
  | waiting
  /-- It has a permit and is about to ask the index. -/
  | asking
  /-- It has a permit and a batch to hand over. -/
  | sending (batch : ScoreBatch)
  /-- It ended, and the driver does not know yet. -/
  | ended (how : WorkEnd)
  /-- It ended, and the driver knows. -/
  | joined
  deriving Repr, Inhabited

namespace Stage

/-- Does a worker at this stage hold a permit? -/
def holdsPermit : Stage → Bool
  | asking | sending _ => true
  | _ => false

/-- Can a worker at this stage still hand over a batch? -/
def maySend : Stage → Bool
  | waiting | asking | sending _ => true
  | _ => false

/-- Does the driver know that the worker ended? -/
def isJoined : Stage → Bool
  | joined => true
  | _ => false

/-- How many moves a worker at this stage is away from its end, counting the reception of its
batch. -/
def effort : Stage → Nat
  | waiting => 5
  | asking => 4
  | sending _ => 3
  | ended _ => 1
  | joined => 0

end Stage

/-- A worker. -/
structure Worker where
  /-- The query it retrieves. -/
  query : NamedQuery
  /-- The most hits. -/
  limit : Nat
  /-- How far it is. -/
  stage : Stage
  deriving Repr, Inhabited

/-- Workers, channel, store, and what the driver knows. -/
structure Board where
  /-- The workers in the order of the queries. -/
  workers : List Worker
  /-- The batches on their way, first one first. -/
  channel : List ScoreBatch
  /-- The tables. -/
  store : Store
  /-- The batches that the store has accepted, in order. -/
  applied : List ScoreBatch
  /-- How many workers ended well, as far as the driver knows. -/
  completed : Nat
  /-- Does the driver know that all workers ended? -/
  allJoined : Bool
  /-- Does the driver know that no batch will come any more? -/
  allReceived : Bool
  /-- How the driver ended. -/
  verdict : Option (Except Failure Unit)
  /-- What happened, in order. -/
  journal : List Event
  deriving Inhabited

/-! ## Moves -/

/-- What can happen next. -/
inductive Move where
  /-- The `i`-th worker gets a permit. -/
  | acquire (i : Nat)
  /-- The `i`-th worker asks the index. -/
  | retrieve (i : Nat)
  /-- The `i`-th worker hands over its batch. -/
  | send (i : Nat)
  /-- The driver takes a batch and writes it. -/
  | receive
  /-- The driver learns that no batch will come any more. -/
  | close
  /-- The driver learns that the `i`-th worker ended. -/
  | join (i : Nat)
  /-- The driver learns that no worker is left. -/
  | drain
  /-- Time passes. -/
  | tick
  deriving Repr, DecidableEq, Inhabited

/-- What the workers share. -/
structure Crew where
  /-- The index. -/
  index : SearchIndex
  /-- The weights. -/
  policy : Policy
  /-- How many workers may hold a permit, and how many batches the channel holds. -/
  permits : Nat

/-- How many workers may be active at a time. -/
def workerPermits (queries maxWorkers : Nat) : Nat := max (min queries (max maxWorkers 1)) 1

namespace Board

/-- The number of queries. -/
def total (b : Board) : Nat := b.workers.length

/-- The stage of a worker. -/
def stage? (b : Board) (i : Nat) : Option Stage := b.workers[i]?.map Worker.stage

/-- The board with a worker at another stage. -/
def setStage (b : Board) (i : Nat) (s : Stage) : Board :=
  match b.workers[i]? with
  | some w => { b with workers := b.workers.set i { w with stage := s } }
  | none => b

/-- How many workers hold a permit. -/
def active (b : Board) : Nat := b.workers.countP (fun w => w.stage.holdsPermit)

/-- The board as the driver leaves it once both ways have run dry. -/
def settle (b : Board) : Board :=
  if b.allJoined && b.allReceived then { b with verdict := some (.ok ()) } else b

/-- The board on which every query has a worker that waits, and the driver has announced that it
begins. -/
def start (work : List (NamedQuery × Nat)) (store : Store) : Board where
  workers := work.map (fun (q, limit) => ⟨q, limit, .waiting⟩)
  channel := []
  store := store
  applied := []
  completed := 0
  allJoined := false
  allReceived := false
  verdict := none
  journal := [.phase (.executing 0 work.length)]

end Board

namespace Crew

/-- The `i`-th worker gets a permit, if one is free. -/
def acquire (crew : Crew) (b : Board) (i : Nat) : Option Board :=
  match b.stage? i with
  | some .waiting => if b.active < crew.permits then some (b.setStage i .asking) else none
  | _ => none

/-- The stage that follows the reply to a worker. -/
def afterReply : Reply ScoreBatch → Stage
  | .answer batch => .sending batch
  | .failure message => .ended (.failed message)
  | .breakdown => .ended .brokeDown

/-- The `i`-th worker asks the index. -/
def retrieve (crew : Crew) (b : Board) (i : Nat) : Option Board :=
  match b.workers[i]? with
  | some ⟨q, limit, .asking⟩ =>
    let (events, reply) := Tagging.retrieve crew.index crew.policy q limit
    some { b.setStage i (afterReply reply) with journal := b.journal ++ events }
  | _ => none

/-- The `i`-th worker hands over its batch, if the channel has room. -/
def send (crew : Crew) (b : Board) (i : Nat) : Option Board :=
  match b.stage? i with
  | some (.sending batch) =>
    if b.channel.length < crew.permits then
      some { b.setStage i (.ended .delivered) with channel := b.channel ++ [batch] }
    else none
  | _ => none

/-- The driver takes a batch and writes it; a refusal ends everything. -/
def receive (b : Board) : Option Board :=
  match b.channel with
  | [] => none
  | batch :: rest =>
    match b.store.applyBatch batch with
    | (store, .ok ()) =>
      some { b with channel := rest, store := store, applied := b.applied ++ [batch] }
    | (store, .error e) =>
      some { b with channel := rest, store := store, verdict := some (.error (.storage e)) }

/-- The driver learns that no batch will come: the channel is empty, and nobody can fill it. -/
def close (b : Board) : Option Board :=
  if b.allReceived then none
  else if b.channel.isEmpty && b.workers.all (fun w => !w.stage.maySend) then
    some { b with allReceived := true }.settle
  else none

/-- The driver learns that the `i`-th worker ended; unless it ended well, everything ends. -/
def join (b : Board) (i : Nat) : Option Board :=
  match b.stage? i with
  | some (.ended how) =>
    let b' := b.setStage i .joined
    match how with
    | .delivered =>
      some { b' with
        completed := b.completed + 1
        journal := b.journal ++ [.phase (.executing (b.completed + 1) b.total)] }
    | .failed message => some { b' with verdict := some (.error (.index message)) }
    | .brokeDown => some { b' with verdict := some (.error .worker) }
  | _ => none

/-- The driver learns that no worker is left. -/
def drain (b : Board) : Option Board :=
  if b.allJoined then none
  else if b.workers.all (fun w => w.stage.isJoined) then some { b with allJoined := true }.settle
  else none

/-- What a move makes of a board, nothing if it cannot happen there; once the driver has ended
nothing happens. -/
def move (crew : Crew) (b : Board) (m : Move) : Option Board :=
  if b.verdict.isSome then none
  else match m with
    | .acquire i => crew.acquire b i
    | .retrieve i => crew.retrieve b i
    | .send i => crew.send b i
    | .receive => receive b
    | .close => close b
    | .join i => join b i
    | .drain => drain b
    | .tick => some b

end Crew

/-- The boards that some order of moves comes to. -/
inductive Crew.Reachable (crew : Crew) (first : Board) : Board → Prop
  /-- The beginning. -/
  | start : Crew.Reachable crew first first
  /-- One move further. -/
  | step {b b' : Board} {m : Move} :
      Crew.Reachable crew first b → crew.move b m = some b' → Crew.Reachable crew first b'

/-! ## Every move but time's is progress -/

namespace Board

/-- An upper bound on the moves to come. -/
def effort (b : Board) : Nat :=
  (b.workers.map (fun w => w.stage.effort)).foldr (· + ·) 0 + b.channel.length +
    (if b.allJoined then 0 else 1) + (if b.allReceived then 0 else 1)

@[simp] theorem effort_settle (b : Board) : b.settle.effort = b.effort := by
  unfold settle; split <;> rfl

/-- The sum over a list in which one element is replaced. -/
theorem sum_map_set {α : Type} (f : α → Nat) (xs : List α) (i : Nat) (x y : α)
    (h : xs[i]? = some x) :
    ((xs.set i y).map f).foldr (· + ·) 0 + f x = (xs.map f).foldr (· + ·) 0 + f y := by
  induction xs generalizing i with
  | nil => simp at h
  | cons a rest ih =>
    cases i with
    | zero =>
      simp only [List.getElem?_cons_zero, Option.some.injEq] at h
      subst h
      simp only [List.set_cons_zero, List.map_cons, List.foldr_cons]
      omega
    | succ n =>
      simp only [List.getElem?_cons_succ] at h
      simp only [List.set_cons_succ, List.map_cons, List.foldr_cons]
      have := ih n h
      omega

/-- A worker at another stage changes what is left to do by the difference of the stages. -/
theorem effort_setStage {b : Board} {i : Nat} {s : Stage} (h : b.stage? i = some s) (t : Stage) :
    (b.setStage i t).effort + s.effort = b.effort + t.effort := by
  unfold stage? at h
  cases hw : b.workers[i]? with
  | none => simp [hw] at h
  | some w =>
    have hs : w.stage = s := by simpa [hw] using h
    have := sum_map_set (fun w => w.stage.effort) b.workers i w { w with stage := t } hw
    simp only [setStage, hw, effort, hs] at this ⊢
    omega

theorem channel_setStage (b : Board) (i : Nat) (t : Stage) :
    (b.setStage i t).channel = b.channel := by
  unfold setStage; split <;> rfl

theorem effort_channel (b : Board) (batch : ScoreBatch) :
    Board.effort { b with channel := b.channel ++ [batch] } = b.effort + 1 := by
  simp only [effort, List.length_append, List.length_cons, List.length_nil]
  omega

end Board

namespace Crew

theorem effort_acquire {crew : Crew} {b b' : Board} {i : Nat} (h : crew.acquire b i = some b') :
    b'.effort < b.effort := by
  unfold acquire at h
  split at h
  · rename_i hs
    have := Board.effort_setStage hs .asking
    simp only [Stage.effort] at this
    split at h
    · cases h; omega
    · cases h
  · cases h

theorem effort_afterReply (r : Reply ScoreBatch) : (afterReply r).effort < 4 := by
  cases r <;> simp [afterReply, Stage.effort]

theorem effort_retrieve {crew : Crew} {b b' : Board} {i : Nat} (h : crew.retrieve b i = some b') :
    b'.effort < b.effort := by
  unfold retrieve at h
  split at h
  · rename_i q limit hw
    cases h
    have := Board.effort_setStage (show b.stage? i = some .asking by simp [Board.stage?, hw])
      (afterReply (Tagging.retrieve crew.index crew.policy q limit).2)
    have hr := effort_afterReply (Tagging.retrieve crew.index crew.policy q limit).2
    have h4 : Stage.asking.effort = 4 := rfl
    show (b.setStage i (afterReply (Tagging.retrieve crew.index crew.policy q limit).2)).effort
      < b.effort
    omega
  · cases h

theorem effort_send {crew : Crew} {b b' : Board} {i : Nat} (h : crew.send b i = some b') :
    b'.effort < b.effort := by
  unfold send at h
  split at h
  · rename_i batch hs
    have := Board.effort_setStage hs (.ended .delivered)
    simp only [Stage.effort] at this
    split at h
    · cases h
      rw [← Board.channel_setStage b i (.ended .delivered), Board.effort_channel]
      omega
    · cases h
  · cases h

theorem effort_receive {b b' : Board} (h : receive b = some b') : b'.effort < b.effort := by
  unfold receive at h
  split at h
  · cases h
  · rename_i batch rest hc
    split at h <;> cases h <;> simp only [Board.effort, hc, List.length_cons] <;> omega

theorem effort_close {b b' : Board} (h : close b = some b') : b'.effort < b.effort := by
  unfold close at h
  split at h
  · cases h
  · rename_i ha
    split at h
    · cases h
      rw [Board.effort_settle]
      simp only [Board.effort, ha, if_true]
      simp
    · cases h

theorem effort_join {b b' : Board} {i : Nat} (h : join b i = some b') : b'.effort < b.effort := by
  unfold join at h
  split at h
  · rename_i how hs
    have := Board.effort_setStage hs .joined
    simp only [Stage.effort] at this
    have hlt : (b.setStage i .joined).effort < b.effort := by omega
    split at h <;> cases h <;> exact hlt
  · cases h

theorem effort_drain {b b' : Board} (h : drain b = some b') : b'.effort < b.effort := by
  unfold drain at h
  split at h
  · cases h
  · rename_i ha
    split at h
    · cases h
      rw [Board.effort_settle]
      simp only [Board.effort, ha, if_true]
      simp
    · cases h

/-- Every move but time's leaves less to do. -/
theorem effort_move {crew : Crew} {b b' : Board} {m : Move} (h : crew.move b m = some b')
    (hm : m ≠ .tick) : b'.effort < b.effort := by
  unfold move at h
  split at h
  · cases h
  · cases m with
    | acquire i => exact effort_acquire h
    | retrieve i => exact effort_retrieve h
    | send i => exact effort_send h
    | receive => exact effort_receive h
    | close => exact effort_close h
    | join i => exact effort_join h
    | drain => exact effort_drain h
    | tick => exact absurd rfl hm

/-! ## Carrying on -/

/-- Every move that can happen on some board with so many workers, but time's. -/
def everyMove (workers : Nat) : List Move :=
  .receive :: .close :: .drain ::
    (List.range workers).flatMap (fun i => [.join i, .send i, .retrieve i, .acquire i])

/-- The move that is wanted, or another one that is possible instead. -/
def next? (crew : Crew) (wanted : Move) (b : Board) : Option Board :=
  ((wanted :: everyMove b.total).filter (fun m => m ≠ .tick)).findSome? (crew.move b)

theorem effort_next? {crew : Crew} {wanted : Move} {b b' : Board}
    (h : crew.next? wanted b = some b') : b'.effort < b.effort := by
  obtain ⟨m, hm, hb⟩ := List.exists_of_findSome?_eq_some h
  exact effort_move hb (by simpa using (List.mem_filter.1 hm).2)

/-- Carries on until nothing can happen, in the order that a schedule wants. -/
def drive (crew : Crew) (schedule : Board → Move) (b : Board) : Board :=
  match _h : crew.next? (schedule b) b with
  | some b' => drive crew schedule b'
  | none => b
termination_by b.effort
decreasing_by exact effort_next? _h

end Crew

/-! ## One worker after the other -/

namespace Board

/-- The first worker whose end the driver does not know, with its position. -/
def firstUnjoined? (b : Board) : Option (Worker × Nat) :=
  b.workers.zipIdx.find? (fun (w, _) => !w.stage.isJoined)

/-- Writes a batch as soon as it is there, and lets each worker come to its end before the next one
begins. -/
def inOrder (b : Board) : Move :=
  if !b.channel.isEmpty then .receive
  else match b.firstUnjoined? with
    | none => if b.allReceived then .drain else .close
    | some (w, i) =>
      match w.stage with
      | .waiting => .acquire i
      | .asking => .retrieve i
      | .sending _ => .send i
      | _ => .join i

end Board

end Tagging
