import Mathlib.Tactic.SplitIfs
import Tagging.Config.Validate
import Tagging.Index
import Tagging.Run.Execute

/-!
# Queries that make sense together

Queries are looked at twice: when they are read from a file, and when a run is made of them.  Both
go through the list and stop at the first fault; a file is also checked for blank names and texts.

* `NamedQuery.SoundAfter`, `NamedQuery.FirstFault` — a query behind others, and what is wrong with
  it first;
* `runQueryFault?_eq_none_iff`, `exists_of_runQueryFault?` — a run looks for **just the first fault
  of its queries**;
* `querySetFault?_eq_none_iff`, `querySetFault?_eq_runQueryFault?` — what a file is checked for
  beyond that;
* `SoundQueries`, `Run.new_eq_ok_iff` — a run is made of **sound queries, and of no others**;
* `query_checks_agree` — both accept the same queries, and name the same fault of others.
-/

namespace Tagging

open Text (isBlankText)

/-! ## A query behind others -/

/-- A query that makes sense behind queries with the ids `earlier`; its name and text may be
anything. -/
structure NamedQuery.SoundAfter (earlier : List QueryId) (q : NamedQuery) : Prop where
  /-- No earlier query has the id. -/
  fresh : q.id ∉ earlier
  /-- The cap is absent or positive. -/
  capped : q.maxHits = -1 ∨ 1 ≤ q.maxHits
  /-- The priority is absent or not negative. -/
  ranked : -1 ≤ q.priority

/-- What is wrong first with a query behind queries with the ids `earlier`: its id is looked at
before its cap, and its cap before its priority. -/
inductive NamedQuery.FirstFault (earlier : List QueryId) (q : NamedQuery) : QueryFault → Prop where
  /-- An earlier query has the id. -/
  | repeatedId (repeated : q.id ∈ earlier) : FirstFault earlier q (.repeatedId q.id)
  /-- The cap is neither absent nor positive. -/
  | badMaxHits (fresh : q.id ∉ earlier) (bad : q.maxHits ≠ -1 ∧ q.maxHits < 1) :
      FirstFault earlier q (.badMaxHits q.id)
  /-- The priority is neither absent nor zero or more. -/
  | badPriority (fresh : q.id ∉ earlier) (capped : q.maxHits = -1 ∨ 1 ≤ q.maxHits)
      (bad : q.priority < -1) : FirstFault earlier q (.badPriority q.id)

namespace NamedQuery

variable {earlier other : List QueryId} {q : NamedQuery} {f : QueryFault}

/-- A query with a fault makes no sense. -/
theorem FirstFault.not_soundAfter (h : q.FirstFault earlier f) : ¬ q.SoundAfter earlier := by
  rintro ⟨hfresh, hcapped, hranked⟩
  cases h with
  | repeatedId hrepeated => exact hfresh hrepeated
  | badMaxHits _ hbad => omega
  | badPriority _ _ hbad => omega

/-- It does not matter in which order the earlier ids come. -/
theorem FirstFault.congr (hmem : ∀ id, id ∈ earlier ↔ id ∈ other) (h : q.FirstFault earlier f) :
    q.FirstFault other f := by
  cases h with
  | repeatedId hrepeated => exact .repeatedId ((hmem _).1 hrepeated)
  | badMaxHits hfresh hbad => exact .badMaxHits (mt (hmem _).2 hfresh) hbad
  | badPriority hfresh hcapped hbad => exact .badPriority (mt (hmem _).2 hfresh) hcapped hbad

theorem soundAfter_cons_iff {id : QueryId} :
    q.SoundAfter (id :: earlier) ↔ q.id ≠ id ∧ q.SoundAfter earlier := by
  constructor
  · rintro ⟨hfresh, hcapped, hranked⟩
    obtain ⟨hne, hfresh⟩ := not_or.1 (mt List.mem_cons.2 hfresh)
    exact ⟨hne, hfresh, hcapped, hranked⟩
  · rintro ⟨hne, hfresh, hcapped, hranked⟩
    exact ⟨fun hmem => (List.mem_cons.1 hmem).elim hne hfresh, hcapped, hranked⟩

end NamedQuery

/-! ## The check of a run -/

section RunCheck

variable {seen : List QueryId} {queries : List NamedQuery} {f : QueryFault}

/-- **One query** makes sense, and the check goes on behind it, or has the fault that is found. -/
theorem runQueryFault?_cons_cases (seen : List QueryId) (q : NamedQuery) (rest : List NamedQuery) :
    q.SoundAfter seen ∧ runQueryFault? seen (q :: rest) = runQueryFault? (q.id :: seen) rest ∨
      ∃ f, q.FirstFault seen f ∧ runQueryFault? seen (q :: rest) = some f := by
  rw [runQueryFault?]
  split_ifs with hrepeated hcap hpriority
  · exact .inr ⟨_, .repeatedId hrepeated, rfl⟩
  · have hbad : q.maxHits = 0 ∨ q.maxHits < -1 := by simpa using hcap
    exact .inr ⟨_, .badMaxHits hrepeated (by omega), rfl⟩
  · have hgood : ¬ (q.maxHits = 0 ∨ q.maxHits < -1) := by simpa using hcap
    exact .inr ⟨_, .badPriority hrepeated (by omega) hpriority, rfl⟩
  · have hgood : ¬ (q.maxHits = 0 ∨ q.maxHits < -1) := by simpa using hcap
    exact .inl ⟨⟨hrepeated, by omega, by omega⟩, rfl⟩

/-- **No fault is found** if each query makes sense behind what was seen, and no id repeats. -/
theorem runQueryFault?_eq_none_iff : runQueryFault? seen queries = none ↔
    (∀ q ∈ queries, q.SoundAfter seen) ∧ (queries.map NamedQuery.id).Nodup := by
  induction queries generalizing seen with
  | nil => simp [runQueryFault?]
  | cons q rest ih =>
    rw [List.forall_mem_cons, List.map_cons, List.nodup_cons]
    rcases runQueryFault?_cons_cases seen q rest with ⟨hsound, heq⟩ | ⟨f, hfault, heq⟩
    · rw [heq, ih]
      simp only [NamedQuery.soundAfter_cons_iff, forall_and]
      constructor
      · rintro ⟨⟨hne, hrest⟩, hnodup⟩
        refine ⟨⟨hsound, hrest⟩, fun hmem => ?_, hnodup⟩
        obtain ⟨x, hx, hid⟩ := List.mem_map.1 hmem
        exact hne x hx hid
      · rintro ⟨⟨-, hrest⟩, hnew, hnodup⟩
        exact ⟨⟨fun x hx hid => hnew (hid ▸ List.mem_map_of_mem hx), hrest⟩, hnodup⟩
    · rw [heq]
      exact ⟨nofun, fun h => absurd h.1.1 hfault.not_soundAfter⟩

/-- **The fault that is found** is that of the first query with one. -/
theorem exists_of_runQueryFault? (h : runQueryFault? seen queries = some f) :
    ∃ before q after, queries = before ++ q :: after ∧ runQueryFault? seen before = none ∧
      q.FirstFault (seen ++ before.map NamedQuery.id) f := by
  induction queries generalizing seen with
  | nil => cases h
  | cons q rest ih =>
    rcases runQueryFault?_cons_cases seen q rest with ⟨hsound, heq⟩ | ⟨f', hfault, heq⟩
    · rw [heq] at h
      obtain ⟨before, x, after, rfl, hbefore, hfault⟩ := ih h
      refine ⟨q :: before, x, after, rfl, ?_, hfault.congr fun id => ?_⟩
      · rcases runQueryFault?_cons_cases seen q before with ⟨-, heq⟩ | ⟨f', hfault', -⟩
        · rw [heq, hbefore]
        · exact absurd hsound hfault'.not_soundAfter
      · simp only [List.cons_append, List.mem_cons, List.mem_append, List.map_cons]
        exact or_left_comm
    · rw [heq] at h
      cases h
      exact ⟨[], q, rest, rfl, rfl, by simpa using hfault⟩

end RunCheck

/-! ## The check of a file -/

/-- The query has a name and a text that are not blank. -/
def NamedQuery.Written (q : NamedQuery) : Prop :=
  isBlankText q.name = false ∧ isBlankText q.text = false

section FileCheck

variable {seen : List QueryId} {queries : List NamedQuery}

/-- **Where nothing is blank**, a file is checked as a run is. -/
theorem querySetFault?_eq_runQueryFault? (h : ∀ q ∈ queries, q.Written) :
    querySetFault? seen queries = runQueryFault? seen queries := by
  induction queries generalizing seen with
  | nil => rfl
  | cons q rest ih =>
    obtain ⟨⟨hname, htext⟩, hrest⟩ := List.forall_mem_cons.1 h
    -- the two conditions on the cap are the same one
    have hcap : (decide (q.maxHits ≠ -1) && decide (q.maxHits < 1)) =
        (decide (q.maxHits = 0) || decide (q.maxHits < -1)) := by
      rw [Bool.eq_iff_iff]
      simp only [Bool.and_eq_true, Bool.or_eq_true, decide_eq_true_eq]
      omega
    rw [querySetFault?, runQueryFault?, ih hrest, hname, htext, hcap]
    simp

/-- **No fault is found in a file** if nothing is blank there, and a run would find none. -/
theorem querySetFault?_eq_none_iff : querySetFault? seen queries = none ↔
    (∀ q ∈ queries, q.Written) ∧ runQueryFault? seen queries = none := by
  suffices hwritten : querySetFault? seen queries = none → ∀ q ∈ queries, q.Written by
    refine ⟨fun h => ⟨hwritten h, ?_⟩, fun h => ?_⟩
    · rw [← querySetFault?_eq_runQueryFault? (hwritten h), h]
    · rw [querySetFault?_eq_runQueryFault? h.1, h.2]
  induction queries generalizing seen with
  | nil => exact fun _ q hq => nomatch hq
  | cons q rest ih =>
    intro h
    rw [querySetFault?] at h
    split_ifs at h with hrepeated hname htext
    exact List.forall_mem_cons.2 ⟨⟨by simpa using hname, by simpa using htext⟩, ih h⟩

end FileCheck

/-! ## Both checks -/

/-- Queries that make sense together. -/
structure SoundQueries (queries : List NamedQuery) : Prop where
  /-- No id repeats. -/
  ids : (queries.map NamedQuery.id).Nodup
  /-- Each cap is absent or positive. -/
  capped : ∀ q ∈ queries, q.maxHits = -1 ∨ 1 ≤ q.maxHits
  /-- Each priority is absent or not negative. -/
  ranked : ∀ q ∈ queries, -1 ≤ q.priority

section Both

variable {queries : List NamedQuery} {index : SearchIndex} {options : RunOptions} {writer : Writer}
  {r : Run}

theorem runQueryFault?_nil_eq_none_iff :
    runQueryFault? [] queries = none ↔ SoundQueries queries := by
  rw [runQueryFault?_eq_none_iff]
  constructor
  · rintro ⟨hsound, hids⟩
    exact ⟨hids, fun q hq => (hsound q hq).capped, fun q hq => (hsound q hq).ranked⟩
  · rintro ⟨hids, hcapped, hranked⟩
    exact ⟨fun q hq => ⟨List.not_mem_nil, hcapped q hq, hranked q hq⟩, hids⟩

/-- **A file is accepted** if it has queries, which make sense and are written out. -/
theorem validateQuerySet_eq_ok_iff : validateQuerySet queries = .ok () ↔
    queries ≠ [] ∧ (∀ q ∈ queries, q.Written) ∧ SoundQueries queries := by
  rw [← runQueryFault?_nil_eq_none_iff, ← querySetFault?_eq_none_iff]
  unfold validateQuerySet
  cases queries with
  | nil => simp
  | cons q rest => cases querySetFault? [] (q :: rest) <;> simp

/-- **A run is made** of queries that make sense, of at least one and of no others. -/
theorem Run.new_eq_ok_iff : Run.new queries index options writer = .ok r ↔
    r = ⟨queries, index, options, writer, false⟩ ∧ queries ≠ [] ∧ SoundQueries queries := by
  rw [← runQueryFault?_nil_eq_none_iff]
  unfold Run.new
  cases queries with
  | nil => simp
  | cons q rest => cases runQueryFault? [] (q :: rest) <;> simp [eq_comm]

theorem Run.new_eq_ok (h : Run.new queries index options writer = .ok r) :
    r = ⟨queries, index, options, writer, false⟩ ∧ (queries.map NamedQuery.id).Nodup := by
  obtain ⟨heq, -, hsound⟩ := Run.new_eq_ok_iff.1 h
  exact ⟨heq, hsound.ids⟩

end Both

/-- **The checks agree.**  Take queries with names and texts that are not blank, in any order and
with any ids, caps and priorities.  They are accepted when they are read from a file, and a run is
made of them, if they make sense together: their ids differ, each cap is absent or positive, and
each priority is absent or not negative.  Otherwise both name the same fault with the same words;
it is that of the first query with one, where an id that an earlier query has comes before the cap,
and the cap before the priority. -/
theorem query_checks_agree {queries : List NamedQuery} (hsome : queries ≠ [])
    (hwritten : ∀ q ∈ queries, q.Written) (index : SearchIndex) (options : RunOptions)
    (writer : Writer) :
    (validateQuerySet queries = .ok () ↔ SoundQueries queries) ∧
    ((∃ r, Run.new queries index options writer = .ok r) ↔ SoundQueries queries) ∧
    (¬ SoundQueries queries → ∃ f, validateQuerySet queries = .error (.invalid (.query f)) ∧
      Run.new queries index options writer = .error (.query f) ∧
      (ConfigError.invalid (.query f)).message = (RequestFault.query f).message ∧
      ∃ before q after, queries = before ++ q :: after ∧ SoundQueries before ∧
        q.FirstFault (before.map NamedQuery.id) f) := by
  refine ⟨?_, ?_, fun hunsound => ?_⟩
  · rw [validateQuerySet_eq_ok_iff]
    exact ⟨fun h => h.2.2, fun h => ⟨hsome, hwritten, h⟩⟩
  · constructor
    · rintro ⟨r, hr⟩
      exact (Run.new_eq_ok_iff.1 hr).2.2
    · exact fun hsound => ⟨_, Run.new_eq_ok_iff.2 ⟨rfl, hsome, hsound⟩⟩
  · rw [← runQueryFault?_nil_eq_none_iff] at hunsound
    obtain ⟨f, hf⟩ := Option.ne_none_iff_exists'.1 hunsound
    have hempty : queries.isEmpty = false := by simpa using hsome
    obtain ⟨before, q, after, hsplit, hbefore, hfault⟩ := exists_of_runQueryFault? hf
    refine ⟨f, ?_, ?_, rfl, before, q, after, hsplit, runQueryFault?_nil_eq_none_iff.1 hbefore,
      hfault⟩
    · rw [validateQuerySet, hempty, querySetFault?_eq_runQueryFault? hwritten, hf]
      rfl
    · rw [Run.new, hempty, hf]
      rfl

/-- Three queries: the cap of the second and all of the third are at fault.  The cap of the second
is what both checks name. -/
theorem query_checks_agree_two_faults :
    let queries : List NamedQuery :=
      [⟨7, "one", "a", 10, 0⟩, ⟨8, "two", "b", 0, -2⟩, ⟨7, "three", "c", -5, -7⟩]
    let index := (⟨[], [], [], [], [], [], [], true⟩ : Script).index
    let options : RunOptions := ⟨1, 1000, 1, 10, .inverseRank, .memory, some ⟨"scratch"⟩, 1⟩
    let writer : Writer := ⟨.snapshots ⟨"tags.xlsx"⟩, index, none, false⟩
    (∀ q ∈ queries, q.Written) ∧ ¬ SoundQueries queries ∧
      validateQuerySet queries = .error (.invalid (.query (.badMaxHits 8))) ∧
      Run.new queries index options writer = .error (.query (.badMaxHits 8)) := by
  intro queries index options writer
  have hwritten : ∀ q ∈ queries, q.Written := by
    unfold NamedQuery.Written
    decide +kernel
  have hnew : Run.new queries index options writer = .error (.query (.badMaxHits 8)) := rfl
  have hunsound : ¬ SoundQueries queries := fun h =>
    absurd (h.capped ⟨8, "two", "b", 0, -2⟩ (by simp [queries])) (by decide)
  obtain ⟨-, -, hfault⟩ := query_checks_agree (by simp [queries]) hwritten index options writer
  obtain ⟨f, hfile, hrun, -⟩ := hfault hunsound
  rw [hnew] at hrun
  cases hrun
  exact ⟨hwritten, hunsound, hfile, hnew⟩

end Tagging
