import Tagging.Proofs.Store.History

/-!
# Totals are hidden, and then frozen

Until the totals of a store are computed it gives no rows; from then on it takes no writes, and
always gives the same rows.

* `StoreReply.Rejects`, `Settled` — refusals, and the answers of a store whose totals are computed;
* `Store.totals_perform`, `Store.totals_performAll` — **one call**, and a history of calls, that
  do not compute the totals leave an open store open;
* `Store.perform_aggregate`, `Store.performAll_aggregate` — **one call**, and a history of calls,
  do not change a store whose totals are computed;
* `totals_hidden_then_frozen` — every history of a store that was empty at first.
-/

namespace Tagging

/-! ## Answers -/

/-- The call is refused as one that cannot be accepted. -/
def StoreReply.Rejects : StoreReply → Prop
  | .written (.error e) | .counted (.error e) | .listed (.error e) => e.kind = .invalidArgument
  | _ => False

/-- The answer of a store whose totals are computed: there are `count` files, these are the rows,
and nothing can be written. -/
def Settled (count : Nat) (rows : List SortedRow) : Exchange → Prop
  | (.aggregate, reply) => reply = .counted (.ok count)
  | (.rows, reply) => reply = .listed (.ok rows)
  | (.insertQueries _, reply) | (.insertScore _, reply) | (.upsertDisplay _, reply)
  | (.applyBatch _, reply) => reply.Rejects

/-! ## Writes and totals -/

namespace Memory

variable (m : Memory)

theorem totals_insertQueries (records : List QueryRecord) :
    (m.insertQueries records).1.totals = m.totals := by
  unfold insertQueries
  split
  · rfl
  · split <;> rfl

theorem totals_insertScore (row : ScoreRow) : (m.insertScore row).1.totals = m.totals := by
  unfold insertScore
  split
  · rfl
  · split <;> rfl

theorem totals_upsertDisplay (entry : DisplayEntry) :
    (m.upsertDisplay entry).1.totals = m.totals := by
  unfold upsertDisplay
  split <;> rfl

theorem totals_applyBatch (batch : ScoreBatch) : (m.applyBatch batch).1.totals = m.totals := by
  unfold applyBatch
  split
  · rfl
  · split <;> rfl

end Memory

theorem Relational.aggregated_transaction (r : Relational)
    (body : Tables → Except StoreError Tables) :
    (r.transaction body).1.aggregated = r.aggregated := by
  rcases r.transaction_cases body with ⟨e, h⟩ | ⟨-, t, -, h⟩ <;> rw [h]

namespace Store

/-! ## Open stores -/

/-- An open store gives no rows. -/
theorem rows_rejects {s : Store} (hopen : s.totals = none) :
    (StoreReply.listed s.rows).Rejects := by
  cases s with
  | memory m =>
    have hrows : m.rows = .error .notAggregated := by
      rw [Memory.rows, show m.totals = none from hopen]
    rw [rows, hrows]
    rfl
  | relational r =>
    have hrows : r.rows = .error .notAggregated := by
      rw [Relational.rows, totals_relational_eq_none_iff.1 hopen]
      rfl
    rw [rows, hrows]
    rfl

/-- **One call** that does not compute the totals leaves an open store open. -/
theorem totals_perform {s : Store} (hopen : s.totals = none) {c : StoreCall}
    (hc : c ≠ .aggregate) : (s.perform c).1.totals = none := by
  cases s with
  | memory m =>
    cases c with
    | insertQueries records => exact (m.totals_insertQueries records).trans hopen
    | insertScore row => exact (m.totals_insertScore row).trans hopen
    | upsertDisplay entry => exact (m.totals_upsertDisplay entry).trans hopen
    | applyBatch batch => exact (m.totals_applyBatch batch).trans hopen
    | aggregate => exact absurd rfl hc
    | rows => exact hopen
  | relational r =>
    -- every write is a transaction
    have hkept : ∀ r' body, r' = (r.transaction body).1 → (relational r').totals = none := by
      rintro _ body rfl
      exact totals_relational_eq_none_iff.2
        ((r.aggregated_transaction body).trans (totals_relational_eq_none_iff.1 hopen))
    cases c with
    | insertQueries records => exact hkept (r.insertQueries records).1 _ rfl
    | insertScore row => exact hkept (r.insertScore row).1 _ rfl
    | upsertDisplay entry => exact hkept (r.upsertDisplay entry).1 _ rfl
    | applyBatch batch => exact hkept (r.applyBatch batch).1 _ rfl
    | aggregate => exact absurd rfl hc
    | rows => exact hopen

/-- The totals are computed whenever that is asked. -/
theorem exists_perform_aggregate (s : Store) :
    ∃ count, (s.perform .aggregate).2 = .counted (.ok count) := by
  cases s <;> exact ⟨_, rfl⟩

/-- **A history** in which the totals are not computed leaves an open store open. -/
theorem totals_performAll {s : Store} (hopen : s.totals = none) {calls : List StoreCall}
    (hhidden : ∀ count, (.aggregate, .counted (.ok count)) ∉ (s.performAll calls).2) :
    (s.performAll calls).1.totals = none := by
  induction calls generalizing s with
  | nil => exact hopen
  | cons c rest ih =>
    have hc : c ≠ .aggregate := by
      rintro rfl
      obtain ⟨count, hcount⟩ := s.exists_perform_aggregate
      refine hhidden count ?_
      rw [← hcount]
      exact List.mem_cons_self ..
    exact ih (totals_perform hopen hc) fun count hmem => hhidden count (List.mem_cons_of_mem _ hmem)

/-! ## Stores whose totals are computed -/

/-- **One call** does not change a store whose totals are computed, and is answered accordingly. -/
theorem perform_aggregate {s : Store} {count : Nat} {rows : List SortedRow}
    (hcount : s.aggregate.2 = .ok count) (hrows : s.aggregate.1.rows = .ok rows) (c : StoreCall) :
    (s.aggregate.1.perform c).1 = s.aggregate.1 ∧
      Settled count rows (c, (s.aggregate.1.perform c).2) := by
  cases c with
  | aggregate =>
    have hagain : s.aggregate.1.aggregate = s.aggregate := by cases s <;> rfl
    constructor
    · exact congrArg Prod.fst hagain
    · exact congrArg StoreReply.counted ((congrArg Prod.snd hagain).trans hcount)
  | rows => exact ⟨rfl, congrArg StoreReply.listed hrows⟩
  | insertQueries records | insertScore row | upsertDisplay entry | applyBatch batch =>
    cases s <;> exact ⟨rfl, rfl⟩

/-- **A history** does not change a store whose totals are computed, and is answered accordingly. -/
theorem performAll_aggregate {s : Store} {count : Nat} {rows : List SortedRow}
    (hcount : s.aggregate.2 = .ok count) (hrows : s.aggregate.1.rows = .ok rows)
    (calls : List StoreCall) :
    (s.aggregate.1.performAll calls).1 = s.aggregate.1 ∧
      ∀ x ∈ (s.aggregate.1.performAll calls).2, Settled count rows x := by
  induction calls with
  | nil => exact ⟨rfl, fun x hx => absurd hx List.not_mem_nil⟩
  | cons c rest ih =>
    obtain ⟨hsame, hsettled⟩ := perform_aggregate hcount hrows c
    rw [performAll, hsame]
    exact ⟨ih.1, List.forall_mem_cons.2 ⟨hsettled, ih.2⟩⟩

end Store

/-! ## Any history -/

/-- An exchange of a history happens at the store that the calls before it leave. -/
theorem Store.exists_calls_of_exchange {s : Store} {calls : List StoreCall}
    {front back : List Exchange} {x : Exchange} (h : (s.performAll calls).2 = front ++ x :: back) :
    ∃ before after, front = (s.performAll before).2 ∧
      x.2 = ((s.performAll before).1.perform x.1).2 ∧
        back = (((s.performAll before).1.perform x.1).1.performAll after).2 := by
  induction calls generalizing s front with
  | nil => exact absurd h (by simp [performAll])
  | cons c rest ih =>
    have hcons : (c, (s.perform c).2) :: ((s.perform c).1.performAll rest).2 =
        front ++ x :: back := h
    cases front with
    | nil =>
      obtain ⟨rfl, rfl⟩ := List.cons.inj hcons
      exact ⟨[], rest, rfl, rfl, rfl⟩
    | cons y front =>
      obtain ⟨rfl, htail⟩ := List.cons.inj hcons
      obtain ⟨before, after, rfl, hreply, hback⟩ := ih htail
      exact ⟨c :: before, after, rfl, hreply, hback⟩

/-- **Totals are hidden, and then frozen.**  In every history of a store of either backend that was
empty at first: as long as the totals have not been computed, rows are refused as something that
cannot be asked for; and once they have been, whatever is called from then on, files are counted as
they were then, the rows are the same each time they are read, and every write is refused as one
that cannot be accepted, whatever it is. -/
theorem totals_hidden_then_frozen (backend : Backend) (calls : List StoreCall) :
    let log := ((Store.empty backend).performAll calls).2
    (∀ front reply back, log = front ++ (.rows, reply) :: back →
      (∀ count, (.aggregate, .counted (.ok count)) ∉ front) → reply.Rejects) ∧
    ∀ front count back, log = front ++ (.aggregate, .counted (.ok count)) :: back →
      ∃ rows : List SortedRow, rows.length = count ∧ ∀ x ∈ back, Settled count rows x := by
  intro log
  have hempty : (Store.empty backend).totals = none := by cases backend <;> rfl
  refine ⟨fun front reply back hlog hhidden => ?_, fun front count back hlog => ?_⟩
  · obtain ⟨before, after, rfl, hreply, -⟩ := Store.exists_calls_of_exchange hlog
    rw [show reply = _ from hreply]
    exact Store.rows_rejects (Store.totals_performAll hempty hhidden)
  · obtain ⟨before, after, -, hreply, rfl⟩ := Store.exists_calls_of_exchange hlog
    have hasc := Store.ascending_performAll before (Store.ascending_empty backend)
    have hcount : ((Store.empty backend).performAll before).1.aggregate.2 = .ok count :=
      (StoreReply.counted.inj hreply).symm
    obtain ⟨rows, hlength, hrows, -⟩ := Store.tabulates_aggregate hasc
    exact ⟨rows, Except.ok.inj (hlength.symm.trans hcount),
      (Store.performAll_aggregate hcount hrows after).2⟩

/-- A database with one score, which is asked for rows before and after its totals are computed, and
then to take an address that no column holds and a batch of nothing. -/
theorem totals_hidden_then_frozen_one_score :
    let calls : List StoreCall := [.insertQueries [⟨1, "one", 10, 0⟩], .insertScore ⟨"a", 1, 0.5⟩,
      .rows, .aggregate, .upsertDisplay ⟨"a", "A", "a.txt", 2 ^ 63⟩, .applyBatch ⟨7, [], []⟩,
      .aggregate, .rows]
    let log := ((Store.empty .sqlite).performAll calls).2
    (∃ reply, log = log.take 2 ++ (.rows, reply) :: log.drop 3 ∧ reply.Rejects) ∧
      log = log.take 3 ++ (.aggregate, .counted (.ok 1)) :: log.drop 4 ∧
        ∃ rows : List SortedRow, rows.length = 1 ∧ ∀ x ∈ log.drop 4, Settled 1 rows x := by
  intro calls log
  obtain ⟨hhidden, hfrozen⟩ := totals_hidden_then_frozen .sqlite calls
  have hbefore : ∀ count, (.aggregate, .counted (.ok count)) ∉ log.take 2 := by
    intro count hmem
    have hwrites : log.take 2 = [(.insertQueries [⟨1, "one", 10, 0⟩], .written (.ok ())),
        (.insertScore ⟨"a", 1, 0.5⟩, .written (.ok ()))] := rfl
    rw [hwrites] at hmem
    exact absurd hmem (by simp)
  exact ⟨⟨_, rfl, hhidden (log.take 2) _ (log.drop 3) rfl hbefore⟩, rfl,
    hfrozen (log.take 3) 1 (log.drop 4) rfl⟩

end Tagging
