import Mathlib.Data.Nat.Find
import Mathlib.Data.String.Basic
import Tagging.Proofs.Keyed
import Tagging.Proofs.Number
import Tagging.Retrieval

/-!
# What a query adds

What a query writes, told from the hits of the index and the documents behind them.

* `HitOf`, `FirstHitOf` — the hits of a file, whose id is shortened, and the first one of them;
* `getElem?_readAll` — the documents that are read are those behind the hits, in order;
* `FirstAt`, `mem_firstSightings` — of each file the first sighting is kept;
* `mem_fileId_firstSightings`, `mem_fileId_lastSightings` — every file with a sighting has a first
  and a last one;
* `Policy.weight_pos` — every weight is above zero;
* `ScoreBatch.Sound`, `sound_of_retrieve` — **every batch** scores each file once, under its own
  query, with a weight above zero, and shows documents behind the hits;
* `mem_scores_of_retrieve` — **the scores of a batch**: one for each file with a hit, weighted by
  the position of the first one;
* `displays_of_retrieve` — **what a batch shows**: the same files, each as a document behind a hit.
-/

namespace Tagging

/-! ## Hits of a file -/

/-- The document behind the `i`-th hit, counted from zero, belongs to the file. -/
def HitOf (index : SearchIndex) (hits : List Address) (i : Nat) (fileId : String) : Prop :=
  ∃ address d, hits[i]? = some address ∧ index.document address = .answer d ∧
    firstChars maxFileIdLength d.fileId = fileId

/-- The `i`-th hit is the first one of the file. -/
def FirstHitOf (index : SearchIndex) (hits : List Address) (i : Nat) (fileId : String) : Prop :=
  HitOf index hits i fileId ∧ ∀ j < i, ¬ HitOf index hits j fileId

/-- A file with a hit has a first one. -/
theorem exists_firstHitOf {index : SearchIndex} {hits : List Address} {fileId : String} :
    (∃ i, FirstHitOf index hits i fileId) ↔ ∃ i, HitOf index hits i fileId := by
  classical
  constructor
  · rintro ⟨i, hi, -⟩
    exact ⟨i, hi⟩
  · intro h
    exact ⟨Nat.find h, Nat.find_spec h, fun j hj => Nat.find_min h hj⟩

/-! ## Reading -/

theorem readAll_cons_eq_answer {index : SearchIndex} {address : Address} {rest : List Address}
    {documents : List (Address × Document)}
    (h : (readAll index (address :: rest)).2 = .answer documents) :
    ∃ d more, index.document address = .answer d ∧ (readAll index rest).2 = .answer more ∧
      documents = (address, d) :: more := by
  rw [readAll] at h
  cases hd : index.document address with
  | failure message =>
    rw [hd] at h
    exact absurd h (by simp)
  | breakdown =>
    rw [hd] at h
    exact absurd h (by simp)
  | answer d =>
    cases hrest : readAll index rest with
    | mk events result =>
      simp only [hd, hrest] at h
      cases result with
      | failure message => exact absurd h (by simp)
      | breakdown => exact absurd h (by simp)
      | answer more => exact ⟨d, more, rfl, rfl, (Reply.answer.inj h).symm⟩

/-- **The documents that are read** are those at the addresses, in order. -/
theorem getElem?_readAll {index : SearchIndex} {addresses : List Address}
    {documents : List (Address × Document)} (h : (readAll index addresses).2 = .answer documents)
    (i : Nat) (address : Address) (d : Document) :
    documents[i]? = some (address, d) ↔
      addresses[i]? = some address ∧ index.document address = .answer d := by
  induction addresses generalizing documents i with
  | nil =>
    have hnil : documents = [] := (Reply.answer.inj h).symm
    simp [hnil]
  | cons a rest ih =>
    obtain ⟨d', more, hd, hmore, rfl⟩ := readAll_cons_eq_answer h
    cases i with
    | zero =>
      simp only [List.getElem?_cons_zero, Option.some.injEq, Prod.mk.injEq]
      constructor
      · rintro ⟨rfl, rfl⟩
        exact ⟨rfl, hd⟩
      · rintro ⟨rfl, hd'⟩
        exact ⟨rfl, Reply.answer.inj (hd.symm.trans hd')⟩
    | succ j =>
      rw [List.getElem?_cons_succ, List.getElem?_cons_succ]
      exact ih hmore j

/-! ## First sightings -/

theorem getElem?_sightings (documents : List (Address × Document)) (i : Nat) :
    (sightings documents)[i]? =
      documents[i]?.map (fun p => Sighting.ofDocument (i + 1) p.1 p.2) := by
  rw [sightings, List.getElem?_map, List.getElem?_zipIdx, Option.map_map, Nat.zero_add]
  rfl

/-- The sighting is the first one of its file, at this position. -/
def FirstAt (ss : List Sighting) (i : Nat) (s : Sighting) : Prop :=
  ss[i]? = some s ∧ ∀ j < i, ∀ t, ss[j]? = some t → t.fileId ≠ s.fileId

/-- **Of each file the first sighting is kept.** -/
theorem mem_firstSightings {ss : List Sighting} {s : Sighting} :
    s ∈ firstSightings ss ↔ ∃ i, FirstAt ss i s := by
  induction ss with
  | nil => simp [firstSightings, FirstAt]
  | cons t rest ih =>
    rw [firstSightings, List.mem_cons, List.mem_filter, ih]
    constructor
    · rintro (rfl | ⟨⟨i, hi, hfirst⟩, hne⟩)
      · exact ⟨0, rfl, fun j hj => absurd hj (Nat.not_lt_zero j)⟩
      · refine ⟨i + 1, hi, fun j hj u hu => ?_⟩
        cases j with
        | zero =>
          obtain rfl : t = u := Option.some.inj hu
          exact Ne.symm (of_decide_eq_true hne)
        | succ j => exact hfirst j (Nat.lt_of_succ_lt_succ hj) u hu
    · rintro ⟨i, hi, hfirst⟩
      cases i with
      | zero => exact Or.inl (Option.some.inj hi).symm
      | succ i =>
        refine Or.inr ⟨⟨i, hi, fun j hj u hu => ?_⟩, decide_eq_true ?_⟩
        · exact hfirst (j + 1) (Nat.succ_lt_succ hj) u hu
        · exact (hfirst 0 (Nat.succ_pos i) t rfl).symm

/-- No file has two first sightings. -/
theorem nodup_fileId_firstSightings (ss : List Sighting) :
    ((firstSightings ss).map Sighting.fileId).Nodup := by
  induction ss with
  | nil => exact List.nodup_nil
  | cons s rest ih =>
    rw [firstSightings, List.map_cons, List.nodup_cons]
    constructor
    · intro hmem
      obtain ⟨t, ht, heq⟩ := List.mem_map.1 hmem
      exact of_decide_eq_true (List.mem_filter.1 ht).2 heq
    · exact ih.sublist (List.filter_sublist.map Sighting.fileId)

/-- A last sighting is a sighting. -/
theorem mem_of_mem_lastSightings {ss : List Sighting} {s : Sighting} (h : s ∈ lastSightings ss) :
    s ∈ ss := by
  obtain ⟨p, hp, rfl⟩ := List.mem_map.1 h
  rcases mem_or_mem_of_mem_foldl_insertBy hp with hnil | hp
  · exact absurd hnil List.not_mem_nil
  · obtain ⟨t, ht, rfl⟩ := List.mem_map.1 hp
    exact ht

/-- The files with a first sighting are those with a sighting. -/
theorem mem_fileId_firstSightings {ss : List Sighting} {f : String} :
    f ∈ (firstSightings ss).map Sighting.fileId ↔ f ∈ ss.map Sighting.fileId := by
  induction ss with
  | nil => rfl
  | cons t rest ih =>
    rw [firstSightings, List.map_cons, List.map_cons, List.mem_cons, List.mem_cons, ← ih]
    by_cases ht : f = t.fileId
    · exact iff_of_true (Or.inl ht) (Or.inl ht)
    refine or_congr_right ⟨fun hf => ?_, fun hf => ?_⟩
    · exact (List.filter_sublist.map Sighting.fileId).subset hf
    · obtain ⟨s, hs, rfl⟩ := List.mem_map.1 hf
      exact List.mem_map_of_mem (List.mem_filter.2 ⟨hs, decide_eq_true ht⟩)

theorem keyOrder_fileId : KeyOrder (fun a b : String => decide (a < b)) where
  irrefl := fun a => decide_eq_false (lt_irrefl a)
  trans := fun hab hbc => decide_eq_true (lt_trans (of_decide_eq_true hab) (of_decide_eq_true hbc))
  connex := fun hab hba =>
    le_antisymm (not_lt.1 (of_decide_eq_false hba)) (not_lt.1 (of_decide_eq_false hab))

/-- The files with a last sighting are those with a sighting. -/
theorem mem_fileId_lastSightings {ss : List Sighting} {f : String} :
    f ∈ (lastSightings ss).map Sighting.fileId ↔ f ∈ ss.map Sighting.fileId := by
  constructor
  · intro hf
    obtain ⟨s, hs, rfl⟩ := List.mem_map.1 hf
    exact List.mem_map_of_mem (mem_of_mem_lastSightings hs)
  · intro hf
    obtain ⟨s, hs, rfl⟩ := List.mem_map.1 hf
    have hpair : ∃ t, (s.fileId, t) ∈ ss.map (fun s => (s.fileId, s)) :=
      ⟨s, List.mem_map.2 ⟨s, hs, rfl⟩⟩
    obtain ⟨t, ht⟩ := (exists_mem_foldl_insertBy keyOrder_fileId Ascending.nil).2 (Or.inr hpair)
    refine List.mem_map.2 ⟨t, List.mem_map.2 ⟨_, ht, rfl⟩, ?_⟩
    rcases mem_or_mem_of_mem_foldl_insertBy ht with hnil | hmem
    · exact absurd hnil List.not_mem_nil
    · obtain ⟨u, -, heq⟩ := List.mem_map.1 hmem
      obtain ⟨hkey, rfl⟩ := Prod.mk.inj heq
      exact hkey

/-! ## Weights -/

namespace Policy

theorem minWeight_pos : Double.ofFloat minWeight > 0 := by decide +kernel

/-- **Every weight is above zero**, whatever comes of the arithmetic: the floor is, and a number
that is kept is not below it. -/
theorem weight_pos (p : Policy) (rank : Nat) (priority : Int) : p.weight rank priority > 0 := by
  rw [weight, atLeast]
  split
  · rename_i hle
    exact Number.pos_ofFloat_of_le minWeight_pos hle
  · exact minWeight_pos

end Policy

/-! ## Batches -/

/-- What holds of the scores of every batch that a query writes. -/
structure ScoreBatch.Sound (batch : ScoreBatch) : Prop where
  /-- They are all under the query of the batch. -/
  own : ∀ row ∈ batch.scores, row.queryId = batch.queryId
  /-- No file has two of them. -/
  once : (batch.scores.map ScoreRow.fileId).Nodup
  /-- They are above zero. -/
  positive : ∀ row ∈ batch.scores, row.weight > 0

/-- **What a query writes is sound**, whatever it found. -/
theorem sound_scoreBatch (policy : Policy) (q : NamedQuery) (ss : List Sighting) :
    (scoreBatch policy q ss).Sound where
  own := by
    intro row hrow
    obtain ⟨s, -, rfl⟩ := List.mem_map.1 hrow
    rfl
  once := by
    rw [scoreBatch, List.map_map]
    exact nodup_fileId_firstSightings ss
  positive := by
    intro row hrow
    obtain ⟨s, -, rfl⟩ := List.mem_map.1 hrow
    exact policy.weight_pos s.rank q.priority

/-- How a document is shown, with its texts shortened. -/
def DisplayEntry.ofDocument (address : Address) (d : Document) : DisplayEntry where
  fileId := firstChars maxFileIdLength d.fileId
  displayName := firstChars maxDisplayNameLength d.displayName
  relativePath := firstChars maxRelativePathLength d.relativePath
  address := address

/-- **What is shown is one of the documents that were found.** -/
theorem exists_document_of_mem_displays {policy : Policy} {q : NamedQuery}
    {documents : List (Address × Document)} {e : DisplayEntry}
    (h : e ∈ (scoreBatch policy q (sightings documents)).displays) :
    ∃ d, (e.address, d) ∈ documents ∧ e = .ofDocument e.address d := by
  obtain ⟨s, hs, rfl⟩ := List.mem_map.1 h
  obtain ⟨i, hi⟩ := List.mem_iff_getElem?.1 (mem_of_mem_lastSightings hs)
  rw [getElem?_sightings] at hi
  obtain ⟨p, hp, rfl⟩ := Option.map_eq_some_iff.1 hi
  exact ⟨p.2, List.mem_of_getElem? hp, rfl⟩

/-- What is shown lies at the address of a document that was found. -/
theorem address_mem_of_mem_displays {policy : Policy} {q : NamedQuery}
    {documents : List (Address × Document)} {e : DisplayEntry}
    (h : e ∈ (scoreBatch policy q (sightings documents)).displays) :
    e.address ∈ documents.map Prod.fst := by
  obtain ⟨d, hd, -⟩ := exists_document_of_mem_displays h
  exact List.mem_map_of_mem hd

/-- **A batch shows the files that it scores**, and no others. -/
theorem mem_fileId_displays {policy : Policy} {q : NamedQuery} {ss : List Sighting} {f : String} :
    f ∈ (scoreBatch policy q ss).displays.map DisplayEntry.fileId ↔
      f ∈ (scoreBatch policy q ss).scores.map ScoreRow.fileId := by
  rw [scoreBatch, List.map_map, List.map_map]
  exact mem_fileId_lastSightings.trans mem_fileId_firstSightings.symm

/-- A batch is an answer to hits whose documents can all be read. -/
theorem retrieve_eq_answer {index : SearchIndex} {policy : Policy} {q : NamedQuery} {limit : Nat}
    {batch : ScoreBatch} (h : (retrieve index policy q limit).2 = .answer batch) :
    ∃ hits documents, index.search q limit = .answer hits ∧
      (readAll index (hits.take limit)).2 = .answer documents ∧
        batch = scoreBatch policy q (sightings documents) := by
  unfold retrieve at h
  cases hsearch : index.search q limit with
  | failure message => simp [hsearch] at h
  | breakdown => simp [hsearch] at h
  | answer hits =>
    cases hread : readAll index (hits.take limit) with
    | mk events result =>
      simp only [hsearch, hread] at h
      cases result with
      | failure message => exact absurd h (by simp)
      | breakdown => exact absurd h (by simp)
      | answer documents => exact ⟨hits, documents, rfl, by rw [hread], (Reply.answer.inj h).symm⟩

/-- **Every batch** that answers a query is sound, is under that query, and shows documents behind
the hits that are looked at. -/
theorem sound_of_retrieve {index : SearchIndex} {policy : Policy} {q : NamedQuery} {limit : Nat}
    {batch : ScoreBatch} (h : (retrieve index policy q limit).2 = .answer batch) :
    batch.Sound ∧ batch.queryId = q.id ∧ ∃ hits, index.search q limit = .answer hits ∧
      ∀ d ∈ batch.displays, d.address ∈ hits.take limit := by
  obtain ⟨hits, documents, hsearch, hread, rfl⟩ := retrieve_eq_answer h
  refine ⟨sound_scoreBatch policy q _, rfl, hits, hsearch, fun d hd => ?_⟩
  obtain ⟨p, hp, haddress⟩ := List.mem_map.1 (address_mem_of_mem_displays hd)
  obtain ⟨i, hi⟩ := List.mem_iff_getElem?.1 hp
  rw [← haddress]
  exact List.mem_of_getElem? ((getElem?_readAll hread i p.1 p.2).1 hi).1

/-- **What a batch that answers a query shows**: the files that it scores, each as a document behind
one of the hits that are looked at. -/
theorem displays_of_retrieve {index : SearchIndex} {policy : Policy} {q : NamedQuery} {limit : Nat}
    {batch : ScoreBatch} (h : (retrieve index policy q limit).2 = .answer batch) :
    (∀ f, f ∈ batch.displays.map DisplayEntry.fileId ↔ f ∈ batch.scores.map ScoreRow.fileId) ∧
    ∃ hits, index.search q limit = .answer hits ∧
      ∀ e ∈ batch.displays, e.address ∈ hits.take limit ∧
        ∃ d, index.document e.address = .answer d ∧ e = .ofDocument e.address d := by
  obtain ⟨hits, documents, hsearch, hread, rfl⟩ := retrieve_eq_answer h
  refine ⟨fun f => mem_fileId_displays, hits, hsearch, fun e he => ?_⟩
  obtain ⟨d, hd, heq⟩ := exists_document_of_mem_displays he
  obtain ⟨i, hi⟩ := List.mem_iff_getElem?.1 hd
  obtain ⟨haddress, hdocument⟩ := (getElem?_readAll hread i e.address d).1 hi
  exact ⟨List.mem_of_getElem? haddress, d, hdocument, heq⟩

/-- A sighting of a file at a position is a hit of that file. -/
theorem exists_sighting_iff {index : SearchIndex} {addresses : List Address}
    {documents : List (Address × Document)} (h : (readAll index addresses).2 = .answer documents)
    (i : Nat) (fileId : String) :
    (∃ s, (sightings documents)[i]? = some s ∧ s.fileId = fileId) ↔
      HitOf index addresses i fileId := by
  rw [getElem?_sightings]
  constructor
  · rintro ⟨s, hs, rfl⟩
    obtain ⟨⟨address, d⟩, hd, rfl⟩ := Option.map_eq_some_iff.1 hs
    obtain ⟨haddress, hdocument⟩ := (getElem?_readAll h i address d).1 hd
    exact ⟨address, d, haddress, hdocument, rfl⟩
  · rintro ⟨address, d, haddress, hdocument, rfl⟩
    exact ⟨_, by rw [(getElem?_readAll h i address d).2 ⟨haddress, hdocument⟩]; rfl, rfl⟩

/-- The first hit of a file is its first sighting. -/
theorem firstHitOf_iff {index : SearchIndex} {addresses : List Address}
    {documents : List (Address × Document)} (h : (readAll index addresses).2 = .answer documents)
    {i : Nat} {fileId : String} : FirstHitOf index addresses i fileId ↔
      ∃ s, FirstAt (sightings documents) i s ∧ s.fileId = fileId := by
  rw [FirstHitOf, ← exists_sighting_iff h]
  constructor
  · rintro ⟨⟨s, hs, rfl⟩, hfirst⟩
    refine ⟨s, ⟨hs, fun j hj t ht heq => hfirst j hj ?_⟩, rfl⟩
    exact (exists_sighting_iff h j _).1 ⟨t, ht, heq⟩
  · rintro ⟨s, ⟨hs, hfirst⟩, rfl⟩
    refine ⟨⟨s, hs, rfl⟩, fun j hj hhit => ?_⟩
    obtain ⟨t, ht, heq⟩ := (exists_sighting_iff h j _).2 hhit
    exact hfirst j hj t ht heq

/-- **The scores of a batch.**  There is one for each file with a hit among those looked at, and its
weight is that of the position of the file's first hit; positions beyond the greatest rank count as
that rank. -/
theorem mem_scores_of_retrieve {index : SearchIndex} {policy : Policy} {q : NamedQuery}
    {limit : Nat} {batch : ScoreBatch} (h : (retrieve index policy q limit).2 = .answer batch) :
    ∃ hits, index.search q limit = .answer hits ∧
      ∀ row, row ∈ batch.scores ↔ row.queryId = q.id ∧
        ∃ i, FirstHitOf index (hits.take limit) i row.fileId ∧
          row.weight = policy.weight (min (i + 1) maxRank) q.priority := by
  obtain ⟨hits, documents, hsearch, hread, rfl⟩ := retrieve_eq_answer h
  refine ⟨hits, hsearch, fun row => ?_⟩
  have hrank : ∀ i s, (sightings documents)[i]? = some s → s.rank = min (i + 1) maxRank := by
    intro i s hs
    rw [getElem?_sightings] at hs
    obtain ⟨p, -, rfl⟩ := Option.map_eq_some_iff.1 hs
    rfl
  rw [scoreBatch, List.mem_map]
  simp only [firstHitOf_iff hread, mem_firstSightings]
  constructor
  · rintro ⟨s, ⟨i, hs⟩, rfl⟩
    refine ⟨rfl, i, ⟨s, hs, rfl⟩, ?_⟩
    show policy.weight s.rank q.priority = _
    rw [hrank i s hs.1]
  · obtain ⟨fileId, queryId, weight⟩ := row
    rintro ⟨rfl, i, ⟨s, hs, rfl⟩, rfl⟩
    refine ⟨s, ⟨i, hs⟩, ?_⟩
    rw [Sighting.score, hrank i s hs.1]

end Tagging
