import Tagging.Proofs.Run.Steps
import Tagging.Proofs.Store.History

/-!
# What the moves of a crew keep

Every board that some order of moves comes to obeys two invariants.  The first one holds whatever
happens, the second one until a failure ends everything.

* `Steady` — the workers are those of the work, each stage is what the index replied, and neither
  permits nor channel are overdrawn;
* `Accounted` — what the store has accepted and what is still in the channel are, taken together,
  the batches that the workers handed over, each one once;
* `Steady.step`, `Accounted.step` — **one move**;
* `Crew.Reachable.steady`, `Crew.Reachable.accounted` — **any order of moves**.
-/

namespace Tagging

/-! ## Invariants -/

/-- What holds on every board. -/
structure Steady (crew : Crew) (work : List (NamedQuery × Nat)) (b : Board) : Prop where
  /-- The workers are those of the work. -/
  roster : b.workers.map (fun w => (w.query, w.limit)) = work
  /-- Each is where the index left it. -/
  faithful : ∀ w ∈ b.workers, crew.Faithful w
  /-- No more permits are held than there are. -/
  active : b.active ≤ crew.permits
  /-- The channel is not overfull. -/
  room : b.channel.length ≤ crew.permits

/-- What holds on a board that no failure has ended, if the store was `first` at the beginning. -/
structure Accounted (crew : Crew) (first : Store) (b : Board) : Prop where
  /-- What is accepted or in the channel is what the workers handed over. -/
  handed : (b.applied ++ b.channel).Perm (b.workers.filterMap crew.handed?)
  /-- The store has accepted just that. -/
  stored : first.performAll (b.applied.map .applyBatch) = (b.store, acceptance b.applied)
  /-- The workers of which the driver knows that they ended are counted. -/
  completed : b.completed = b.workers.countP (fun w => w.stage.isJoined)
  /-- They all ended well. -/
  well : ∀ w ∈ b.workers, w.stage = .joined → ∃ batch, crew.reply w.query w.limit = .answer batch
  /-- Their number is announced. -/
  announced : lastProgress b.journal = some (b.completed, b.total)
  /-- The driver is right if it knows that all workers ended. -/
  allJoined : b.allJoined = true → ∀ w ∈ b.workers, w.stage.isJoined = true
  /-- The driver is right if it knows that no batch will come. -/
  allReceived : b.allReceived = true →
    b.channel = [] ∧ ∀ w ∈ b.workers, w.stage.maySend = false
  /-- The driver ends when it knows both. -/
  verdict : b.verdict = if b.allJoined && b.allReceived then some (.ok ()) else none

/-! ### The first invariant -/

/-- In the beginning all workers wait. -/
theorem stage_start {work : List (NamedQuery × Nat)} {store : Store} {w : Worker}
    (hw : w ∈ (Board.start work store).workers) : w.stage = .waiting := by
  obtain ⟨p, -, rfl⟩ := List.mem_map.1 hw
  rfl

theorem steady_start {crew : Crew} (work : List (NamedQuery × Nat)) (store : Store) :
    Steady crew work (Board.start work store) where
  roster := by simp [Board.start, Function.comp_def]
  faithful := by
    intro w hw
    rw [Crew.Faithful, stage_start hw]
    trivial
  active := by
    have hnone : (Board.start work store).active = 0 :=
      List.countP_eq_zero.2 fun w hw => by simp [stage_start hw, Stage.holdsPermit]
    omega
  room := Nat.zero_le _

namespace Steady

variable {crew : Crew} {work : List (NamedQuery × Nat)} {b b' : Board}

/-- A worker that gets to a faithful stage keeps the board steady, if it holds a permit already or
one is free. -/
theorem replace (h : Steady crew work b) {front back : List Worker} {q : NamedQuery} {limit : Nat}
    {s t : Stage} (found : b.workers = front ++ ⟨q, limit, s⟩ :: back)
    (hworkers : b'.workers = front ++ ⟨q, limit, t⟩ :: back)
    (hfaithful : crew.Faithful ⟨q, limit, t⟩)
    (hpermit : t.holdsPermit = true → s.holdsPermit = true ∨ b.active < crew.permits)
    (hroom : b'.channel.length ≤ crew.permits) : Steady crew work b' where
  roster := by
    rw [← h.roster, found, hworkers]
    simp
  faithful := by
    have hf := h.faithful
    rw [found] at hf
    rw [hworkers]
    exact Crew.forall_mem_replace hf hfaithful
  active := by
    have ha := h.active
    unfold Board.active at ha hpermit ⊢
    rw [found] at ha hpermit
    rw [hworkers]
    rw [List.countP_append, List.countP_cons] at ha hpermit ⊢
    cases hs : s.holdsPermit <;> cases ht : t.holdsPermit <;>
      simp [hs, ht] at ha hpermit ⊢ <;> omega
  room := hroom

theorem settle (h : Steady crew work b) : Steady crew work b.settle := by
  unfold Board.settle
  split_ifs
  · exact ⟨h.roster, h.faithful, h.active, h.room⟩
  · exact h

/-- **One move** keeps a board steady. -/
theorem step (h : Steady crew work b) (hstep : crew.Step b b') : Steady crew work b' := by
  have hroom := h.room
  cases hstep with
  | acquire found free => exact h.replace found rfl trivial (fun _ => Or.inr free) hroom
  | @retrieve _ _ q limit found =>
    exact h.replace found rfl (crew.faithful_afterReply q limit) (fun _ => Or.inl rfl) hroom
  | @send _ _ q limit batch found room =>
    have hreply : crew.Faithful ⟨q, limit, .sending batch⟩ := h.faithful _ (by simp [found])
    refine h.replace found rfl ⟨batch, hreply⟩
      (fun hp => absurd hp (by simp [Stage.holdsPermit])) ?_
    rw [List.length_append, List.length_singleton]
    exact room
  | receive head accepted =>
    rw [head, List.length_cons] at hroom
    exact ⟨h.roster, h.faithful, h.active, Nat.le_of_succ_le hroom⟩
  | refuse head refused =>
    rw [head, List.length_cons] at hroom
    exact ⟨h.roster, h.faithful, h.active, Nat.le_of_succ_le hroom⟩
  | close empty idle => exact settle ⟨h.roster, h.faithful, h.active, h.room⟩
  | join found =>
    exact h.replace found rfl trivial (fun hp => absurd hp (by simp [Stage.holdsPermit])) hroom
  | fail found failure =>
    exact h.replace found rfl trivial (fun hp => absurd hp (by simp [Stage.holdsPermit])) hroom
  | drain all => exact settle ⟨h.roster, h.faithful, h.active, h.room⟩
  | tick => exact h

end Steady

/-! ### The second invariant -/

theorem accounted_start {crew : Crew} (work : List (NamedQuery × Nat)) (store : Store) :
    Accounted crew store (Board.start work store) where
  handed := by
    have hnone : (Board.start work store).workers.filterMap crew.handed? = [] :=
      List.filterMap_eq_nil_iff.2 fun w hw =>
        Crew.handed?_eq_none (by rw [stage_start hw]; rfl)
    rw [hnone]
    exact List.Perm.refl []
  stored := rfl
  completed :=
    (List.countP_eq_zero.2 fun w hw => by simp [stage_start hw, Stage.isJoined]).symm
  well := fun w hw hjoined => absurd hjoined (by simp [stage_start hw])
  announced := by simp [Board.start, Board.total, lastProgress, Event.progress?]
  allJoined := fun h => absurd h (by simp [Board.start])
  allReceived := fun h => absurd h (by simp [Board.start])
  verdict := rfl

namespace Accounted

variable {crew : Crew} {work : List (NamedQuery × Nat)} {first : Store} {b b' : Board}

/-- The driver does not believe that all workers ended while one has not. -/
theorem allJoined_eq_false (h : Accounted crew first b) {w : Worker} (hw : w ∈ b.workers)
    (hs : w.stage.isJoined = false) : b.allJoined = false := by
  by_contra hne
  have hall := h.allJoined (by simpa using hne) w hw
  exact absurd (hs.symm.trans hall) (by simp)

/-- The driver does not believe that no batch will come while a worker can send one. -/
theorem allReceived_eq_false (h : Accounted crew first b) {w : Worker} (hw : w ∈ b.workers)
    (hs : w.stage.maySend = true) : b.allReceived = false := by
  by_contra hne
  have hall := (h.allReceived (by simpa using hne)).2 w hw
  exact absurd (hs.symm.trans hall) (by simp)

/-- The workers of whom the driver knows still ended well when another one gets on. -/
theorem well_replace (h : Accounted crew first b) {front back : List Worker} {q : NamedQuery}
    {limit : Nat} {s t : Stage} (found : b.workers = front ++ ⟨q, limit, s⟩ :: back)
    (ht : t = .joined → ∃ batch, crew.reply q limit = .answer batch) :
    ∀ w ∈ front ++ ⟨q, limit, t⟩ :: back, w.stage = .joined →
      ∃ batch, crew.reply w.query w.limit = .answer batch := by
  have hwell := h.well
  rw [found] at hwell
  exact Crew.forall_mem_replace hwell ht

/-- A worker that gets on without handing over a batch, and whose end is not known, changes nothing
of what is accounted for. -/
theorem replace (h : Accounted crew first b) {front back : List Worker} {q : NamedQuery}
    {limit : Nat} {s t : Stage} {events : List Event}
    (found : b.workers = front ++ ⟨q, limit, s⟩ :: back) (hs : s.maySend = true)
    (hsj : s.isJoined = false) (ht : t.isJoined = false)
    (hnone : crew.handed? ⟨q, limit, t⟩ = none) (hevents : ∀ e ∈ events, e.progress? = none) :
    Accounted crew first { b with
      workers := front ++ ⟨q, limit, t⟩ :: back, journal := b.journal ++ events } := by
  have hmem : (⟨q, limit, s⟩ : Worker) ∈ b.workers := by simp [found]
  have hj := h.allJoined_eq_false hmem hsj
  have hr := h.allReceived_eq_false hmem hs
  have hsnone : crew.handed? ⟨q, limit, s⟩ = none := Crew.handed?_eq_none hs
  refine ⟨?_, h.stored, ?_, h.well_replace found (fun hjoined => ?_), ?_, fun ha => ?_,
    fun ha => ?_, h.verdict⟩
  · have hhanded := h.handed
    rw [found, List.filterMap_append, List.filterMap_cons_none hsnone] at hhanded
    rw [List.filterMap_append, List.filterMap_cons_none hnone]
    exact hhanded
  · have hcompleted := h.completed
    rw [found, List.countP_append, List.countP_cons_of_neg (by simp [hsj])] at hcompleted
    rw [List.countP_append, List.countP_cons_of_neg (by simp [ht])]
    exact hcompleted
  · exact absurd ht (by simp [hjoined, Stage.isJoined])
  · show lastProgress (b.journal ++ events) = some (b.completed, List.length _)
    rw [lastProgress_append hevents, h.announced, Board.total, found]
    simp
  · exact absurd (hj.symm.trans ha) (by simp)
  · exact absurd (hr.symm.trans ha) (by simp)

/-- A batch that a worker hands over is in the channel. -/
theorem send (h : Accounted crew first b) {front back : List Worker} {q : NamedQuery}
    {limit : Nat} {batch : ScoreBatch}
    (found : b.workers = front ++ ⟨q, limit, .sending batch⟩ :: back)
    (hreply : crew.reply q limit = .answer batch) :
    Accounted crew first { b with
      workers := front ++ ⟨q, limit, .ended .delivered⟩ :: back
      channel := b.channel ++ [batch] } := by
  have hmem : (⟨q, limit, .sending batch⟩ : Worker) ∈ b.workers := by simp [found]
  have hj := h.allJoined_eq_false hmem rfl
  have hr := h.allReceived_eq_false hmem rfl
  refine ⟨?_, h.stored, ?_, h.well_replace found (fun hjoined => nomatch hjoined), ?_,
    fun ha => ?_, fun ha => ?_, h.verdict⟩
  · have hhanded := h.handed
    rw [found, List.filterMap_append, List.filterMap_cons_none (Crew.handed?_eq_none rfl)]
      at hhanded
    rw [List.filterMap_append, List.filterMap_cons_some (Crew.handed?_delivered hreply),
      ← List.append_assoc]
    have hlast : (b.applied ++ b.channel ++ [batch]).Perm (batch :: (b.applied ++ b.channel)) :=
      List.perm_append_singleton batch _
    exact (hlast.trans (hhanded.cons batch)).trans List.perm_middle.symm
  · have hcompleted := h.completed
    rw [found, List.countP_append, List.countP_cons_of_neg (by simp [Stage.isJoined])] at hcompleted
    rw [List.countP_append, List.countP_cons_of_neg (by simp [Stage.isJoined])]
    exact hcompleted
  · have hannounced := h.announced
    rw [Board.total, found] at hannounced
    simpa [Board.total] using hannounced
  · exact absurd (hj.symm.trans ha) (by simp)
  · exact absurd (hr.symm.trans ha) (by simp)

/-- A batch that the store accepts has left the channel. -/
theorem receive (h : Accounted crew first b) {batch : ScoreBatch} {rest : List ScoreBatch}
    {store : Store} (head : b.channel = batch :: rest)
    (accepted : b.store.applyBatch batch = (store, .ok ())) :
    Accounted crew first { b with
      channel := rest, store := store, applied := b.applied ++ [batch] } := by
  have hr : b.allReceived = false := by
    by_contra hne
    have hempty := (h.allReceived (by simpa using hne)).1
    exact absurd (head.symm.trans hempty) (by simp)
  refine ⟨?_, ?_, h.completed, h.well, h.announced, h.allJoined, fun ha => ?_, h.verdict⟩
  · have hhanded := h.handed
    rw [head] at hhanded
    rwa [List.append_assoc, List.singleton_append]
  · have hone : b.store.performAll [.applyBatch batch] =
        (store, [(.applyBatch batch, .written (.ok ()))]) := by
      simp only [Store.performAll, Store.perform, accepted, Prod.map_apply, id_eq]
    show first.performAll ((b.applied ++ [batch]).map .applyBatch) =
      (store, acceptance (b.applied ++ [batch]))
    rw [List.map_append, Store.performAll_append, h.stored, List.map_singleton, hone, acceptance,
      acceptance, List.map_append]
    rfl
  · exact absurd (hr.symm.trans ha) (by simp)

/-- A worker of which the driver learns that it ended well is counted. -/
theorem join (h : Accounted crew first b) {front back : List Worker} {q : NamedQuery}
    {limit : Nat} (found : b.workers = front ++ ⟨q, limit, .ended .delivered⟩ :: back)
    (hreply : ∃ batch, crew.reply q limit = .answer batch) :
    Accounted crew first { b with
      workers := front ++ ⟨q, limit, .joined⟩ :: back
      completed := b.completed + 1
      journal := b.journal ++ [.phase (.executing (b.completed + 1) b.total)] } := by
  have hmem : (⟨q, limit, .ended .delivered⟩ : Worker) ∈ b.workers := by simp [found]
  have hj := h.allJoined_eq_false hmem rfl
  refine ⟨?_, h.stored, ?_, h.well_replace found (fun _ => hreply), ?_, fun ha => ?_,
    fun ha => ⟨(h.allReceived ha).1, ?_⟩, h.verdict⟩
  · have hhanded := h.handed
    rw [found, List.filterMap_append, List.filterMap_cons, ← crew.handed?_joined] at hhanded
    rw [List.filterMap_append, List.filterMap_cons]
    exact hhanded
  · have hcompleted := h.completed
    rw [found, List.countP_append, List.countP_cons_of_neg (by simp [Stage.isJoined])] at hcompleted
    rw [List.countP_append, List.countP_cons_of_pos (by simp [Stage.isJoined]), ← Nat.add_assoc,
      ← hcompleted]
  · show lastProgress (b.journal ++ _) = some (b.completed + 1, List.length _)
    rw [lastProgress_append_executing, Board.total, found]
    simp
  · exact absurd (hj.symm.trans ha) (by simp)
  · have hidle := (h.allReceived ha).2
    rw [found] at hidle
    exact Crew.forall_mem_replace hidle rfl

/-- The driver ends as soon as it knows that all workers ended and that no batch will come. -/
theorem settle (h : Accounted crew first { b with verdict := b.settle.verdict }) :
    Accounted crew first b.settle := by
  have heq : b.settle = { b with verdict := b.settle.verdict } := by
    unfold Board.settle
    split_ifs <;> rfl
  rwa [heq]

theorem verdict_settle (hopen : b.verdict = none) :
    b.settle.verdict = if b.allJoined && b.allReceived then some (.ok ()) else none := by
  unfold Board.settle
  split_ifs
  · rfl
  · exact hopen

/-- **One move** leaves everything accounted for, unless a failure ends everything. -/
theorem step (h : Accounted crew first b) (hsteady : Steady crew work b) (hopen : b.verdict = none)
    (hstep : crew.Step b b') :
    Accounted crew first b' ∨ ∃ f, b'.verdict = some (.error f) := by
  cases hstep with
  | @acquire _ _ q limit found free =>
    have hnone : crew.handed? ⟨q, limit, .asking⟩ = none := Crew.handed?_eq_none rfl
    have hevents : ∀ e ∈ ([] : List Event), e.progress? = none := by simp
    have hnext := h.replace found rfl rfl rfl hnone hevents
    rw [List.append_nil] at hnext
    exact Or.inl hnext
  | @retrieve _ _ q limit found =>
    have hjoined : (Crew.afterReply (crew.reply q limit)).isJoined = false := by
      cases crew.reply q limit <;> rfl
    exact Or.inl (h.replace found rfl rfl hjoined (crew.handed?_afterReply q limit)
      (progress?_retrieve crew.index crew.policy q limit))
  | @send _ _ q limit batch found room =>
    have hreply : crew.Faithful ⟨q, limit, .sending batch⟩ :=
      hsteady.faithful _ (by simp [found])
    exact Or.inl (h.send found hreply)
  | receive head accepted => exact Or.inl (h.receive head accepted)
  | refuse head refused => exact Or.inr ⟨_, rfl⟩
  | close empty idle =>
    refine Or.inl (settle ?_)
    exact ⟨h.handed, h.stored, h.completed, h.well, h.announced, h.allJoined,
      fun _ => ⟨empty, idle⟩, verdict_settle hopen⟩
  | @join _ _ q limit found =>
    have hreply : crew.Faithful ⟨q, limit, .ended .delivered⟩ :=
      hsteady.faithful _ (by simp [found])
    exact Or.inl (h.join found hreply)
  | fail found failure => exact Or.inr ⟨_, rfl⟩
  | drain all =>
    refine Or.inl (settle ?_)
    exact ⟨h.handed, h.stored, h.completed, h.well, h.announced, fun _ => all, h.allReceived,
      verdict_settle hopen⟩
  | tick => exact Or.inl h

end Accounted

/-! ### Any order of moves -/

namespace Crew.Reachable

variable {crew : Crew} {work : List (NamedQuery × Nat)} {first : Store} {b : Board}

theorem steady (h : crew.Reachable (Board.start work first) b) : Steady crew work b := by
  induction h with
  | start => exact steady_start work first
  | step _ hmove ih => exact ih.step (step_of_move hmove).2

theorem accounted (h : crew.Reachable (Board.start work first) b) :
    Accounted crew first b ∨ ∃ f, b.verdict = some (.error f) := by
  induction h with
  | start => exact Or.inl (accounted_start work first)
  | step hreach hmove ih =>
    obtain ⟨hopen, hstep⟩ := step_of_move hmove
    rcases ih with ih | ⟨f, hf⟩
    · exact ih.step hreach.steady hopen hstep
    · exact absurd (hopen.symm.trans hf) (by simp)

end Crew.Reachable

end Tagging
