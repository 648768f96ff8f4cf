import Tagging.Index
import Tagging.Proofs.Estimate.Timeline
import Tagging.Proofs.Run.Journals
import Tagging.Proofs.Run.Limits
import Tagging.Proofs.Run.Rows
import Tagging.Proofs.Run.Storage

/-!
# Counting changes no result

The counts that are known before a run retrieves its hits only narrow the limits.  Over an index
that ranks what it counts, as a corpus does, that makes no difference: whichever counts are known,
the store gets the same batches, and the run comes to the same.

* `Estimate.Exact`, `Counting.Reachable.exact`, `exact_estimate` — known counts are right;
* `Run.limits`, `Run.drive_withLimits` — the limits of an estimate, and driving with those of
  another one;
* `Environment.recount`, `Run.executesAlike_recount` — an environment that counts otherwise;
* `hints_change_no_result` — **no hint changes a result** over a corpus.
-/

namespace Tagging

/-! ## Known counts are right -/

/-- Every count that is known is the one that the index gives; some may be unknown. -/
def Estimate.Exact (e : Estimate) (index : SearchIndex) (queries : List NamedQuery) : Prop :=
  ∀ q ∈ queries, ∀ n, e.hint q.id = some n → index.count q = .answer n

section Exact

variable {index : SearchIndex} {queries unfinished : List NamedQuery} {e : Estimate}

theorem Estimate.Accounts.exact (h : e.Accounts index queries unfinished) :
    e.Exact index queries :=
  fun q hq n hn => ((h.counted q hq n).1 hn).2

/-- **Counting in any order** tells right counts, whenever the deadline comes. -/
theorem Counting.Reachable.exact {c : Counting} {threads : Nat}
    (hids : (queries.map NamedQuery.id).Nodup) (h : Reachable index queries threads c) :
    c.estimate.Exact index queries :=
  (h.accounts hids).exact

theorem exact_estimate (hids : (queries.map NamedQuery.id).Nodup) {clock : Clock}
    {threads budget : Nat} (h : Tagging.estimate clock index queries threads budget = some e) :
    e.Exact index queries := by
  obtain ⟨-, rfl⟩ := estimate_eq_some_iff.1 h
  exact (accounts_estimateWithin index threads budget hids).exact

end Exact

/-! ## The limits of an estimate -/

namespace Run

variable {r : Run} {e e' : Estimate}

/-- The limits on the hits of the queries, by their ids. -/
def limits (r : Run) (e : Estimate) (id : QueryId) : Nat :=
  ((r.queries.find? fun q => q.id = id).map (r.limit e)).getD 0

theorem limits_id (hids : (r.queries.map NamedQuery.id).Nodup) (e : Estimate) {q : NamedQuery}
    (hq : q ∈ r.queries) : r.limits e q.id = r.limit e q := by
  have hfind : (r.queries.find? fun x => x.id = q.id) = some q := by
    cases hfound : r.queries.find? fun x => x.id = q.id with
    | none => exact absurd (List.find?_eq_none.1 hfound q hq) (by simp)
    | some x =>
      have hx : x.id = q.id := by simpa using List.find?_some hfound
      rw [List.inj_on_of_nodup_map hids (List.mem_of_find?_eq_some hfound) hq hx]
  rw [limits, hfind]
  rfl

/-- The work under one estimate is that under another one with the limits replaced. -/
theorem start_work_withLimits (hids : (r.queries.map NamedQuery.id).Nodup) (e e' : Estimate)
    (store : Store) :
    (Board.start (r.work e') store).withLimits (r.limits e) = Board.start (r.work e) store := by
  rw [Board.start_withLimits, work, work, List.map_map]
  congr 1
  refine List.map_congr_left fun q hq => ?_
  show (q, r.limits e q.id) = (q, r.limit e q)
  rw [limits_id hids e hq]

/-- **Right hints make no difference to the hits** of an index that ranks what it counts. -/
theorem sameHits_work (hids : (r.queries.map NamedQuery.id).Nodup)
    (hranks : ∀ q ∈ r.queries, r.index.Ranks q) (he : e.Exact r.index r.queries)
    (he' : e'.Exact r.index r.queries) :
    ∀ p ∈ r.work e', r.crew.index.SameHits p.1 p.2 (r.limits e p.1.id) := by
  intro p hp
  obtain ⟨q, hq, rfl⟩ := List.mem_map.1 hp
  rw [limits_id hids e hq]
  exact (hranks q hq).sameHits (he' q hq) (he q hq)

/-- **Driving under another estimate** comes to the same board, but for its limits, if the schedule
sees the limits of the first estimate. -/
theorem drive_withLimits (hids : (r.queries.map NamedQuery.id).Nodup)
    (hranks : ∀ q ∈ r.queries, r.index.Ranks q) (he : e.Exact r.index r.queries)
    (he' : e'.Exact r.index r.queries) (schedule : Board → Move) (store : Store) :
    r.crew.drive schedule (Board.start (r.work e) store) =
      (r.crew.drive (fun b => schedule (b.withLimits (r.limits e)))
        (Board.start (r.work e') store)).withLimits (r.limits e) := by
  have hsame := sameHits_work hids hranks he he'
  rw [← start_work_withLimits hids e e' store]
  exact Crew.drive_withLimits schedule .start hsame

end Run

/-! ## Counting otherwise -/

/-- An environment that counts otherwise, and in which workers get on as they would under the given
limits. -/
def Environment.recount (env : Environment)
    (counting : SearchIndex → List NamedQuery → RunOptions → Estimate × List QueryId)
    (limits : QueryId → Nat) : Environment where
  clock := env.clock
  counting := counting
  schedule := fun b => env.schedule (b.withLimits limits)
  databaseFault := env.databaseFault

/-- If the order of work does not depend on limits, it stays as it is. -/
theorem Environment.schedule_recount {env : Environment} (h : IgnoresLimits env.schedule)
    (counting : SearchIndex → List NamedQuery → RunOptions → Estimate × List QueryId)
    (limits : QueryId → Nat) : (env.recount counting limits).schedule = env.schedule :=
  funext fun b => h limits b

/-- **The queries are executed alike** whatever is known of the counts. -/
theorem Run.executesAlike_recount {r : Run} (env : Environment)
    (counting : SearchIndex → List NamedQuery → RunOptions → Estimate × List QueryId)
    {e e' : Estimate} (hids : (r.queries.map NamedQuery.id).Nodup)
    (hranks : ∀ q ∈ r.queries, r.index.Ranks q) (he : e.Exact r.index r.queries)
    (he' : e'.Exact r.index r.queries) :
    r.ExecutesAlike env (env.recount counting (r.limits e)) e e' := by
  intro store w w'
  rw [executeQueries_eq, executeQueries_eq, drive_withLimits hids hranks he he' env.schedule store]
  rfl

/-- The board on which the workers of a run end. -/
def Run.driven (r : Run) (env : Environment) (store : Store) : Board :=
  r.crew.drive env.schedule (Board.start (r.work (r.estimate env)) store)

/-- A run does the same in two environments, whatever it begins with. -/
structure Run.DoesTheSame (r : Run) (env env' : Environment) : Prop where
  /-- The store accepts the same batches in the same order. -/
  batches : ∀ store, (r.driven env' store).applied = (r.driven env store).applied
  /-- So it holds the same. -/
  store : ∀ store, (r.driven env' store).store = (r.driven env store).store
  /-- The workers come to the same end. -/
  verdict : ∀ store, (r.driven env' store).verdict = (r.driven env store).verdict
  /-- The run finds the same, or fails in the same way. -/
  result : ∀ w,
    (r.execute env' w).2.2.map Summary.found = (r.execute env w).2.2.map Summary.found
  /-- It leaves the same files. -/
  tree : ∀ w, (r.execute env' w).2.1.tree = (r.execute env w).2.1.tree

/-- **A run does the same** whatever is known of the counts. -/
theorem Run.doesTheSame_recount {r : Run} {env : Environment}
    {counting : SearchIndex → List NamedQuery → RunOptions → Estimate × List QueryId}
    (hids : (r.queries.map NamedQuery.id).Nodup) (hranks : ∀ q ∈ r.queries, r.index.Ranks q)
    (hexact : (r.estimate env).Exact r.index r.queries)
    (hexact' : (counting r.index r.queries r.options).1.Exact r.index r.queries) :
    r.DoesTheSame env (env.recount counting (r.limits (r.estimate env))) := by
  have hdriven : ∀ store, r.driven env store =
      (r.driven (env.recount counting (r.limits (r.estimate env))) store).withLimits
        (r.limits (r.estimate env)) :=
    fun store => drive_withLimits hids hranks hexact hexact' env.schedule store
  have hsame := agree_execute (executesAlike_recount env counting hids hranks hexact hexact') rfl
    rfl
  refine ⟨fun store => ?_, fun store => ?_, fun store => ?_, fun w => (hsame w).2.symm,
    fun w => (hsame w).1.symm⟩
  · rw [hdriven store]
    rfl
  · rw [hdriven store]
    rfl
  · rw [hdriven store]
    rfl

/-! ## Corpora -/

/-- **No hint changes a result** over a corpus.  Under any cap and ceiling, a search limited by the
count finds what it finds without; and a query text cannot be counted just if it cannot be searched
for, with the same failure.  So take any queries that make a run, and two estimates that know the
right counts of some of them, as every estimate does that counting can come to.  With the second one
instead of the first, and the workers getting on as they would under the limits of the first, the
store gets the same batches, and the run comes to the same rows and report, or the same failure, and
leaves the same files. -/
theorem hints_change_no_result (c : Corpus) :
    (∀ (q : NamedQuery) (ceiling n : Nat), c.count q.text = .ok n →
      c.search q.text (retrievalLimit q ceiling (some n)) =
        c.search q.text (q.hitCap ceiling)) ∧
    (∀ text limit e, c.count text = .error e ↔ c.search text limit = .error e) ∧
    ∀ {queries : List NamedQuery} {options : RunOptions} {writer : Writer} {r : Run},
      Run.new queries c.index options writer = .ok r →
      (∀ threads s, Counting.Reachable c.index queries threads s →
        s.estimate.Exact c.index queries) ∧
      (∀ clock threads budget e, Tagging.estimate clock c.index queries threads budget = some e →
        e.Exact c.index queries) ∧
      ∀ env counting, (r.estimate env).Exact c.index queries →
        (counting c.index queries options).1.Exact c.index queries →
        ∃ limits, (∀ q ∈ queries, limits q.id = r.limit (r.estimate env) q) ∧
          r.DoesTheSame env (env.recount counting limits) ∧
          (IgnoresLimits env.schedule →
            (env.recount counting limits).schedule = env.schedule) := by
  refine ⟨fun q ceiling n => Corpus.search_retrievalLimit, fun text limit e =>
    Corpus.count_eq_error_iff, fun {queries options writer r} hnew => ?_⟩
  obtain ⟨rfl, hids⟩ := Run.new_eq_ok hnew
  refine ⟨fun threads s hs => hs.exact hids, fun _ _ _ _ => exact_estimate hids,
    fun env counting hexact hexact' => ?_⟩
  refine ⟨Run.limits _ _, fun q hq => Run.limits_id hids _ hq, ?_, ?_⟩
  · exact Run.doesTheSame_recount hids (fun q _ => c.ranks_index q) hexact hexact'
  · exact fun hignores => Environment.schedule_recount hignores counting _

/-- One query has a hit and one has none; either both are counted or the deadline comes first. -/
theorem hints_change_no_result_two_texts :
    let c := Corpus.ofDocuments [Script.plainDocument "x", Script.plainDocument "y"]
    let queries : List NamedQuery := [⟨1, "one", "body x", -1, -1⟩, ⟨2, "two", "z", 5, -1⟩]
    let options : RunOptions := ⟨1, 1000, 1, 10, .inverseRank, .memory, some ⟨"scratch"⟩, 1⟩
    let writer : Writer := ⟨.snapshots ⟨"tags.xlsx"⟩, c.index, none, false⟩
    let r : Run := ⟨queries, c.index, options, writer, false⟩
    let counted : Environment :=
      ⟨.started, fun _ _ _ => (⟨[(1, 1), (2, 0)], .complete⟩, [1, 2]), Board.inOrder, none⟩
    let late : Environment :=
      ⟨.started, fun _ _ _ => (⟨[], .incomplete [1, 2] []⟩, [1]), Board.inOrder, none⟩
    Run.new queries c.index options writer = .ok r ∧
      (r.estimate counted).Exact c.index queries ∧ (r.estimate late).Exact c.index queries ∧
      (r.work (r.estimate counted)).map Prod.snd = [1, 1] ∧
      (r.work (r.estimate late)).map Prod.snd = [10, 5] ∧ r.DoesTheSame counted late := by
  intro c queries options writer r counted late
  have hnew : Run.new queries c.index options writer = .ok r := rfl
  have hcounts : c.count "body x" = .ok 1 ∧ c.count "z" = .ok 0 := by decide +kernel
  have hcounted : (r.estimate counted).Exact c.index queries := by
    intro q hq n hn
    rcases List.mem_pair.1 hq with rfl | rfl
    · obtain rfl : 1 = n := Option.some.inj hn
      exact congrArg Corpus.reply hcounts.1
    · obtain rfl : 0 = n := Option.some.inj hn
      exact congrArg Corpus.reply hcounts.2
  have hlate : (r.estimate late).Exact c.index queries := fun q _ n hn => nomatch hn
  obtain ⟨limits, -, hsame, hschedule⟩ :=
    ((hints_change_no_result c).2.2 hnew).2.2 counted late.counting hcounted hlate
  have hrecount : counted.recount late.counting limits = late :=
    congrArg (Environment.mk .started late.counting · none) (hschedule inOrder_ignoresLimits)
  rw [hrecount] at hsame
  exact ⟨hnew, hcounted, hlate, rfl, rfl, hsame⟩

end Tagging
