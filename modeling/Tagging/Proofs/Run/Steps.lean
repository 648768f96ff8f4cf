import Mathlib.Tactic.SplitIfs
import Tagging.Run.Workers

/-!
# Single moves of a crew

What one move does to a board, and what the workers hand over and the driver announces on the way.

* `Crew.Step`, `Crew.step_of_move` — **one move**, with the moved worker between those before and
  behind it;
* `Crew.reply`, `Crew.handed?`, `Crew.Faithful` — what the index replies to a worker, what the
  worker has handed over, and stages that fit the reply;
* `lastProgress` — the numbers of ended and of all queries that were announced last;
* `Event.phase?`, `Workspace.phases_eq` — the phases that events announce, none of them while the
  index is asked (`phase?_retrieve`).
-/

namespace Tagging

/-! ## One move -/

/-- The failure that ends everything when the driver learns of such an end. -/
def WorkEnd.failure? : WorkEnd → Option Failure
  | .delivered => none
  | .failed message => some (.index message)
  | .brokeDown => some .worker

namespace Crew

/-- What the index replies to a worker. -/
def reply (crew : Crew) (q : NamedQuery) (limit : Nat) : Reply ScoreBatch :=
  (Tagging.retrieve crew.index crew.policy q limit).2

/-- What one move makes of a board. -/
inductive Step (crew : Crew) (b : Board) : Board → Prop where
  /-- A worker gets a free permit. -/
  | acquire {front back : List Worker} {q : NamedQuery} {limit : Nat}
      (found : b.workers = front ++ ⟨q, limit, .waiting⟩ :: back)
      (free : b.active < crew.permits) :
      Step crew b { b with workers := front ++ ⟨q, limit, .asking⟩ :: back }
  /-- A worker asks the index. -/
  | retrieve {front back : List Worker} {q : NamedQuery} {limit : Nat}
      (found : b.workers = front ++ ⟨q, limit, .asking⟩ :: back) :
      Step crew b { b with
        workers := front ++ ⟨q, limit, afterReply (crew.reply q limit)⟩ :: back
        journal := b.journal ++ (Tagging.retrieve crew.index crew.policy q limit).1 }
  /-- A worker hands over its batch. -/
  | send {front back : List Worker} {q : NamedQuery} {limit : Nat} {batch : ScoreBatch}
      (found : b.workers = front ++ ⟨q, limit, .sending batch⟩ :: back)
      (room : b.channel.length < crew.permits) :
      Step crew b { b with
        workers := front ++ ⟨q, limit, .ended .delivered⟩ :: back
        channel := b.channel ++ [batch] }
  /-- The store accepts a batch. -/
  | receive {batch : ScoreBatch} {rest : List ScoreBatch} {store : Store}
      (head : b.channel = batch :: rest) (accepted : b.store.applyBatch batch = (store, .ok ())) :
      Step crew b { b with channel := rest, store := store, applied := b.applied ++ [batch] }
  /-- The store refuses a batch. -/
  | refuse {batch : ScoreBatch} {rest : List ScoreBatch} {store : Store} {e : StoreError}
      (head : b.channel = batch :: rest) (refused : b.store.applyBatch batch = (store, .error e)) :
      Step crew b { b with
        channel := rest, store := store, verdict := some (.error (.storage e)) }
  /-- No batch will come any more. -/
  | close (empty : b.channel = []) (idle : ∀ w ∈ b.workers, w.stage.maySend = false) :
      Step crew b { b with allReceived := true }.settle
  /-- A worker ended well. -/
  | join {front back : List Worker} {q : NamedQuery} {limit : Nat}
      (found : b.workers = front ++ ⟨q, limit, .ended .delivered⟩ :: back) :
      Step crew b { b with
        workers := front ++ ⟨q, limit, .joined⟩ :: back
        completed := b.completed + 1
        journal := b.journal ++ [.phase (.executing (b.completed + 1) b.total)] }
  /-- A worker ended otherwise. -/
  | fail {front back : List Worker} {q : NamedQuery} {limit : Nat} {how : WorkEnd} {f : Failure}
      (found : b.workers = front ++ ⟨q, limit, .ended how⟩ :: back)
      (failure : how.failure? = some f) :
      Step crew b { b with
        workers := front ++ ⟨q, limit, .joined⟩ :: back, verdict := some (.error f) }
  /-- All workers ended. -/
  | drain (all : ∀ w ∈ b.workers, w.stage.isJoined = true) :
      Step crew b { b with allJoined := true }.settle
  /-- Time passes. -/
  | tick : Step crew b b

theorem exists_worker {b : Board} {i : Nat} {s : Stage} (h : b.stage? i = some s) :
    ∃ q limit, b.workers[i]? = some ⟨q, limit, s⟩ := by
  unfold Board.stage? at h
  obtain ⟨⟨q, limit, s'⟩, hw, rfl⟩ := Option.map_eq_some_iff.1 h
  exact ⟨q, limit, hw⟩

/-- A worker at a position stands between those before and behind it, also when its stage
changes. -/
theorem exists_split {b : Board} {i : Nat} {q : NamedQuery} {limit : Nat} {s : Stage}
    (h : b.workers[i]? = some ⟨q, limit, s⟩) :
    ∃ front back, b.workers = front ++ ⟨q, limit, s⟩ :: back ∧
      ∀ t, b.setStage i t = { b with workers := front ++ ⟨q, limit, t⟩ :: back } := by
  obtain ⟨hi, hget⟩ := List.getElem?_eq_some_iff.1 h
  refine ⟨b.workers.take i, b.workers.drop (i + 1), ?_, ?_⟩
  · rw [← hget, List.getElem_cons_drop, List.take_append_drop]
  · intro t
    simp only [Board.setStage, h, List.set_eq_take_append_cons_drop, if_pos hi]

/-- What holds of all workers still holds when one of them gets on, if it holds of that one. -/
theorem forall_mem_replace {P : Worker → Prop} {front back : List Worker} {v w : Worker}
    (h : ∀ u ∈ front ++ v :: back, P u) (hw : P w) : ∀ u ∈ front ++ w :: back, P u := by
  intro u hu
  rcases List.mem_append.1 hu with hu | hu
  · exact h u (List.mem_append_left _ hu)
  · rcases List.mem_cons.1 hu with rfl | hu
    · exact hw
    · exact h u (List.mem_append_right _ (List.mem_cons_of_mem _ hu))

/-- **What a move can do**; it happens only while the driver has not ended. -/
theorem step_of_move {crew : Crew} {b b' : Board} {m : Move} (h : crew.move b m = some b') :
    b.verdict = none ∧ crew.Step b b' := by
  unfold move at h
  split_ifs at h with hv
  refine ⟨by simpa using hv, ?_⟩
  cases m with
  | acquire i =>
    simp only [Crew.acquire] at h
    split at h
    · rename_i hs
      obtain ⟨q, limit, hw⟩ := exists_worker hs
      obtain ⟨front, back, hfound, hset⟩ := exists_split hw
      split_ifs at h with hfree
      cases h
      rw [hset]
      exact .acquire hfound hfree
    · cases h
  | retrieve i =>
    simp only [Crew.retrieve] at h
    split at h
    · rename_i q limit hw
      obtain ⟨front, back, hfound, hset⟩ := exists_split hw
      cases h
      rw [hset]
      exact .retrieve hfound
    · cases h
  | send i =>
    simp only [Crew.send] at h
    split at h
    · rename_i batch hs
      obtain ⟨q, limit, hw⟩ := exists_worker hs
      obtain ⟨front, back, hfound, hset⟩ := exists_split hw
      split_ifs at h with hroom
      cases h
      rw [hset]
      exact .send hfound hroom
    · cases h
  | receive =>
    simp only [Crew.receive] at h
    split at h
    · cases h
    · rename_i batch rest hhead
      split at h
      · rename_i store happly
        cases h
        exact .receive hhead happly
      · rename_i store e happly
        cases h
        exact .refuse hhead happly
  | close =>
    simp only [Crew.close] at h
    split_ifs at h with hfresh hidle
    cases h
    rw [Bool.and_eq_true, List.isEmpty_iff, List.all_eq_true] at hidle
    exact .close hidle.1 (fun w hw => by simpa using hidle.2 w hw)
  | join i =>
    simp only [Crew.join] at h
    split at h
    · rename_i how hs
      obtain ⟨q, limit, hw⟩ := exists_worker hs
      obtain ⟨front, back, hfound, hset⟩ := exists_split hw
      rw [hset] at h
      split at h
      · cases h
        exact .join hfound
      · cases h
        exact .fail hfound rfl
      · cases h
        exact .fail hfound rfl
    · cases h
  | drain =>
    simp only [Crew.drain] at h
    split_ifs at h with hfresh hall
    cases h
    exact .drain (List.all_eq_true.1 hall)
  | tick =>
    cases h
    exact .tick

/-! ## What is handed over -/

/-- The batch that a worker has handed over. -/
def handed? (crew : Crew) (w : Worker) : Option ScoreBatch :=
  match w.stage, crew.reply w.query w.limit with
  | .ended .delivered, .answer batch | .joined, .answer batch => some batch
  | _, _ => none

/-- Is the stage of a worker what came of the reply? -/
def Faithful (crew : Crew) (w : Worker) : Prop :=
  match w.stage with
  | .sending batch => crew.reply w.query w.limit = .answer batch
  | .ended .delivered => ∃ batch, crew.reply w.query w.limit = .answer batch
  | .ended (.failed message) => crew.reply w.query w.limit = .failure message
  | .ended .brokeDown => crew.reply w.query w.limit = .breakdown
  | _ => True

theorem faithful_afterReply (crew : Crew) (q : NamedQuery) (limit : Nat) :
    crew.Faithful ⟨q, limit, afterReply (crew.reply q limit)⟩ := by
  unfold Faithful afterReply
  cases crew.reply q limit <;> rfl

theorem handed?_afterReply (crew : Crew) (q : NamedQuery) (limit : Nat) :
    crew.handed? ⟨q, limit, afterReply (crew.reply q limit)⟩ = none := by
  unfold handed? afterReply
  cases crew.reply q limit <;> rfl

/-- A worker that ended well has handed over what the index replied. -/
theorem handed?_delivered {crew : Crew} {q : NamedQuery} {limit : Nat} {batch : ScoreBatch}
    (h : crew.reply q limit = .answer batch) :
    crew.handed? ⟨q, limit, .ended .delivered⟩ = some batch := by
  simp only [handed?, h]

theorem handed?_joined (crew : Crew) (q : NamedQuery) (limit : Nat) :
    crew.handed? ⟨q, limit, .joined⟩ = crew.handed? ⟨q, limit, .ended .delivered⟩ := by
  unfold handed?
  cases crew.reply q limit <;> rfl

theorem handed?_eq_none {crew : Crew} {w : Worker} (h : w.stage.maySend = true) :
    crew.handed? w = none := by
  obtain ⟨q, limit, s⟩ := w
  cases s with
  | waiting | asking | sending batch => rfl
  | ended how | joined => exact absurd h (by simp [Stage.maySend])

end Crew

/-! ## What is announced -/

/-- The numbers of ended and of all queries that an event announces. -/
def Event.progress? : Event → Option (Nat × Nat)
  | .phase (.executing completed total) => some (completed, total)
  | _ => none

/-- The numbers that were announced last. -/
def lastProgress (journal : List Event) : Option (Nat × Nat) :=
  journal.reverse.findSome? Event.progress?

theorem lastProgress_append {journal events : List Event}
    (h : ∀ e ∈ events, e.progress? = none) :
    lastProgress (journal ++ events) = lastProgress journal := by
  have hnone : events.reverse.findSome? Event.progress? = none :=
    List.findSome?_eq_none_iff.2 fun e he => h e (List.mem_reverse.1 he)
  rw [lastProgress, List.reverse_append, List.findSome?_append, hnone, Option.none_or]
  rfl

theorem lastProgress_append_executing (journal : List Event) (completed total : Nat) :
    lastProgress (journal ++ [.phase (.executing completed total)]) = some (completed, total) := by
  rw [lastProgress, List.reverse_append]
  rfl

/-- The phase that an event announces. -/
def Event.phase? : Event → Option Phase
  | .phase p => some p
  | _ => none

namespace Workspace

variable (w : Workspace)

theorem phases_eq : w.phases = w.journal.filterMap Event.phase? := rfl

@[simp] theorem tree_note (e : Event) : (w.note e).tree = w.tree := rfl

@[simp] theorem tree_noteAll (es : List Event) : (w.noteAll es).tree = w.tree := rfl

@[simp] theorem disk_note (e : Event) : (w.note e).disk = w.disk := rfl

@[simp] theorem disk_noteAll (es : List Event) : (w.noteAll es).disk = w.disk := rfl

@[simp] theorem phases_note_phase (p : Phase) : (w.note (.phase p)).phases = w.phases ++ [p] := by
  rw [phases_eq, phases_eq, note, List.filterMap_append]
  rfl

@[simp] theorem phases_noteAll (es : List Event) :
    (w.noteAll es).phases = w.phases ++ es.filterMap Event.phase? := by
  rw [phases_eq, phases_eq, noteAll, List.filterMap_append]

theorem phases_note_of_none {e : Event} (h : e.phase? = none) : (w.note e).phases = w.phases := by
  rw [phases_eq, phases_eq, note, List.filterMap_append, List.filterMap_cons_none h,
    List.filterMap_nil, List.append_nil]

end Workspace

theorem phase?_readAll (index : SearchIndex) (addresses : List Address) :
    ∀ e ∈ (readAll index addresses).1, e.phase? = none := by
  induction addresses with
  | nil => simp [readAll]
  | cons address rest ih =>
    rw [readAll]
    cases index.document address with
    | failure message => simp [Event.phase?]
    | breakdown => simp [Event.phase?]
    | answer d =>
      cases hrest : readAll index rest with
      | mk events result =>
        rw [hrest] at ih
        cases result <;> simpa [Event.phase?] using ih

/-- Nothing is announced while the index is asked. -/
theorem phase?_retrieve (index : SearchIndex) (policy : Policy) (q : NamedQuery) (limit : Nat) :
    ∀ e ∈ (retrieve index policy q limit).1, e.phase? = none := by
  unfold retrieve
  cases index.search q limit with
  | failure message => simp [Event.phase?]
  | breakdown => simp [Event.phase?]
  | answer hits =>
    have hread := phase?_readAll index (hits.take limit)
    cases hresult : readAll index (hits.take limit) with
    | mk events result =>
      rw [hresult] at hread
      simp only [hresult]
      cases result <;> simpa [Event.phase?] using hread

/-- An event that announces no phase announces no numbers. -/
theorem Event.progress?_eq_none {e : Event} (h : e.phase? = none) : e.progress? = none := by
  cases e with
  | phase p => cases h
  | counted | searched | opened | rendered => rfl

theorem progress?_retrieve (index : SearchIndex) (policy : Policy) (q : NamedQuery) (limit : Nat) :
    ∀ e ∈ (retrieve index policy q limit).1, e.progress? = none :=
  fun e he => Event.progress?_eq_none (phase?_retrieve index policy q limit e he)

end Tagging
