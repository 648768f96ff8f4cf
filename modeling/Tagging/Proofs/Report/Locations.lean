import Mathlib.Data.Finset.Preimage
import Mathlib.Data.Fintype.EquivFin
import Mathlib.Data.Nat.Find
import Tagging.Proofs.Number
import Tagging.Proofs.Path
import Tagging.Report.Link

/-!
# Where snapshots lie

A snapshot lies along ordinary names below the snapshot directory, whatever path and id its file
has, and at a place that no earlier snapshot has taken: with one attempt more than there are places
taken, and a different place for each attempt, one of them is free.

* `ordinary_locationNames` — cleaned names lead to what they name;
* `snapshotNames`, `components_snapshotLocation` — **the names that a location means**;
* `snapshotLocation_of_cut`, `components_snapshotLocation_of_cut` — locations whose suffix holds
  separators;
* `components_snapshotLocation_inj`, `injective_candidates` — **each attempt** has its own place;
* `exists_first_free` — **how many places can be taken** before one is free;
* `firstFreeLocation_not_mem` — **the place that is chosen is free**.
-/

namespace Tagging

open Tagging.Path (Ordinary)

/-! ## Cleaned names -/

/-- What becomes of a character of a name. -/
def cleanChar (c : Char) : Char := if leadsElsewhere c then '_' else c

theorem toList_cleanName (name : String) : (cleanName name).toList = name.toList.map cleanChar := by
  rw [cleanName, String.toList_ofList]
  rfl

theorem cleanChar_ne_slash (c : Char) : cleanChar c ≠ '/' := by
  unfold cleanChar
  split_ifs with h
  · decide
  · rintro rfl
    exact h rfl

theorem cleanChar_eq_dot {c : Char} : cleanChar c = '.' ↔ c = '.' := by
  unfold cleanChar
  split_ifs with h
  · refine iff_of_false (by decide) ?_
    rintro rfl
    cases h
  · rfl

theorem slash_not_mem_cleanName (name : String) : '/' ∉ (cleanName name).toList := by
  rw [toList_cleanName]
  intro h
  obtain ⟨c, -, hc⟩ := List.mem_map.1 h
  exact cleanChar_ne_slash c hc

/-- Cleaning makes no dots and takes none away. -/
theorem cleanName_eq_dots {name : String} {n : Nat} :
    (cleanName name).toList = List.replicate n '.' ↔ name.toList = List.replicate n '.' := by
  simp [toList_cleanName, List.eq_replicate_iff, cleanChar_eq_dot]

theorem cleanName_append (a b : String) : cleanName (a ++ b) = cleanName a ++ cleanName b := by
  rw [← String.toList_inj]
  simp [toList_cleanName]

/-- **A cleaned name** is as ordinary as the name. -/
theorem Path.Ordinary.cleanName {s : String} (h : Ordinary s) : Ordinary (cleanName s) := by
  obtain ⟨hne, hdot⟩ := Path.isStep_iff.1 h.isStep
  refine ⟨Path.isStep_iff.2 ⟨?_, ?_⟩, ?_, slash_not_mem_cleanName s⟩
  · exact fun heq => hne (cleanName_eq_dots (n := 0).1 heq)
  · exact fun heq => hdot (cleanName_eq_dots (n := 1).1 heq)
  · exact fun heq => h.noUp (cleanName_eq_dots (n := 2).1 heq)

/-! ## The names of a location -/

theorem ordinary_safeNames {path s : String} (h : s ∈ safeNames path) : Ordinary s := by
  unfold safeNames at h
  obtain ⟨c, hc, hs⟩ := List.mem_filterMap.1 h
  cases c with
  | name s' =>
    cases hs
    exact (Path.ordinary_of_mem_components hc).cleanName
  | root => cases hs
  | here => cases hs
  | up => cases hs

/-- There is a name for every file, and **all names are ordinary**. -/
theorem ordinary_locationNames (relativePath fileId : String) :
    locationNames relativePath fileId ≠ [] ∧
      ∀ s ∈ locationNames relativePath fileId, Ordinary s := by
  unfold locationNames
  split
  case h_2 hne => exact ⟨hne, fun s hs => ordinary_safeNames hs⟩
  split
  case h_2 hne => exact ⟨hne, fun s hs => ordinary_safeNames hs⟩
  refine ⟨by simp, fun s hs => ?_⟩
  obtain rfl := List.mem_singleton.1 hs
  exact ⟨by decide, by decide, by decide⟩

/-- The names along which a snapshot lies, the last one with a tag and a suffix. -/
def snapshotNames (relativePath fileId suffix : String) (tag : Option String) : List String :=
  (locationNames relativePath fileId).dropLast ++
    [taggedName ((locationNames relativePath fileId).getLastD "") tag suffix]

section Location

variable {relativePath fileId suffix : String}

theorem snapshotNames_ne_nil (tag : Option String) :
    snapshotNames relativePath fileId suffix tag ≠ [] := by
  simp [snapshotNames]

/-- Whatever stands in front of the suffix, the name of a snapshot ends with it. -/
theorem suffix_taggedName (name : String) (tag : Option String) (suffix : String) :
    suffix.toList <:+ (taggedName name tag suffix).toList := by
  cases tag with
  | none =>
    rw [taggedName, String.toList_append]
    exact List.suffix_append _ _
  | some t =>
    rw [taggedName, String.toList_append]
    exact List.suffix_append _ _

variable (hsuffix : '/' ∉ suffix.toList)
include hsuffix

theorem ordinary_snapshotNames (tag : Option String) :
    ∀ s ∈ snapshotNames relativePath fileId suffix tag, Ordinary s := by
  obtain ⟨hne, hall⟩ := ordinary_locationNames relativePath fileId
  intro s hs
  rcases List.mem_append.1 hs with hfront | hlast
  · exact hall s (List.dropLast_subset _ hfront)
  · obtain rfl := List.mem_singleton.1 hlast
    have hname : Ordinary ((locationNames relativePath fileId).getLastD "") := by
      refine hall _ ?_
      rw [List.getLastD_eq_getLast?, List.getLast?_eq_some_getLast hne,
        Option.getD_some]
      exact List.getLast_mem hne
    generalize (locationNames relativePath fileId).getLastD "" = name at hname ⊢
    cases tag with
    | none =>
      rw [taggedName]
      exact hname.append hsuffix
    | some t =>
      rw [taggedName, String.append_assoc, String.append_assoc]
      refine hname.append ?_
      rw [String.toList_append, String.toList_append, List.mem_append, List.mem_append, not_or,
        not_or]
      exact ⟨by decide, slash_not_mem_cleanName t, hsuffix⟩

/-- **What a location means**: its names. -/
theorem components_snapshotLocation (tag : Option String) :
    (snapshotLocation relativePath fileId suffix tag).components =
      (snapshotNames relativePath fileId suffix tag).map .name :=
  Path.components_ofNames (ordinary_snapshotNames hsuffix tag)

omit hsuffix

/-- A suffix stands behind what it is put to. -/
theorem taggedName_eq (name : String) (tag : Option String) (suffix : String) :
    taggedName name tag suffix = taggedName name tag "" ++ suffix := by
  cases tag <;> simp [taggedName]

/-- **A location whose suffix holds separators** goes along its names, the last one with the first
stretch of the suffix, and then on along the other stretches. -/
theorem snapshotLocation_of_cut {first : List Char} {more : List (List Char)}
    (hcut : Path.cutSlashes suffix.toList = first :: more) (tag : Option String) :
    snapshotLocation relativePath fileId suffix tag =
      ⟨String.ofList (Path.joinSlashes
        ((snapshotNames relativePath fileId (String.ofList first) tag).map String.toList ++
          more))⟩ := by
  have hstem : '/' ∉
      (taggedName ((locationNames relativePath fileId).getLastD "") tag "").toList :=
    (ordinary_snapshotNames (by decide) tag _
      (List.mem_append_right _ (List.mem_singleton_self _))).noSlash
  have hlast := Path.cutSlashes_append_of_not_mem hstem hcut
  rw [← String.toList_append, ← taggedName_eq] at hlast
  rw [snapshotLocation, Path.ofNames, List.map_append, List.map_singleton, Path.joinSlashes_concat,
    hlast, snapshotNames, List.map_append, List.map_singleton,
    taggedName_eq _ tag (String.ofList first), String.toList_append, String.toList_ofList,
    List.append_assoc, List.singleton_append]

/-- The stretches of a suffix hold no separator. -/
theorem slash_not_mem_of_cut {first : List Char} {more : List (List Char)}
    (hcut : Path.cutSlashes suffix.toList = first :: more) :
    '/' ∉ (String.ofList first).toList ∧ ∀ part ∈ more, '/' ∉ part := by
  have hall : ∀ part ∈ first :: more, '/' ∉ part := fun part hpart =>
    Path.not_mem_of_mem_cutSlashes (by rw [hcut]; exact hpart)
  rw [String.toList_ofList]
  exact List.forall_mem_cons.1 hall

/-- **What it means.** -/
theorem components_snapshotLocation_of_cut {first : List Char} {more : List (List Char)}
    (hcut : Path.cutSlashes suffix.toList = first :: more) (tag : Option String) :
    (snapshotLocation relativePath fileId suffix tag).components =
      (snapshotNames relativePath fileId (String.ofList first) tag).map .name ++
        more.filterMap Path.componentOf := by
  obtain ⟨hfirst, hmore⟩ := slash_not_mem_of_cut hcut
  rw [snapshotLocation_of_cut hcut]
  exact Path.components_along (snapshotNames_ne_nil tag) (ordinary_snapshotNames hfirst tag) hmore

/-! ## Places that are free -/

theorem cleanName_toString (n : Nat) : cleanName (toString n) = toString n := by
  rw [← String.toList_inj, toList_cleanName]
  refine (List.map_congr_left fun c hc => ?_).trans (List.map_id _)
  have hdigit := isDigit_of_mem_toString hc
  have hplain : leadsElsewhere c = false := by
    by_contra h
    simp only [Bool.not_eq_false, leadsElsewhere, Bool.or_eq_true, decide_eq_true_eq] at h
    rcases h with ((rfl | rfl) | rfl) | rfl <;> cases hdigit
  rw [cleanChar, hplain]
  rfl

/-- Different attempts have different tags, also when they are cleaned. -/
theorem cleanName_attemptTag_injective (fileId : String) :
    Function.Injective fun attempt => cleanName (attemptTag fileId attempt) := by
  have hlater : ∀ n, cleanName (attemptTag fileId (n + 1)) =
      cleanName fileId ++ ("-" ++ toString (n + 2)) := by
    intro n
    have hdash : cleanName "-" = "-" := rfl
    rw [attemptTag, cleanName_append, cleanName_append, cleanName_toString, hdash,
      String.append_assoc]
  have hfirst : ∀ n, cleanName fileId ≠ cleanName fileId ++ ("-" ++ toString (n + 2)) := by
    intro n heq
    have hlen := congrArg String.length heq
    simp only [String.length_append] at hlen
    have hone : "-".length = 1 := rfl
    omega
  intro a b heq
  dsimp only at heq
  cases a with
  | zero =>
    cases b with
    | zero => rfl
    | succ n =>
      rw [hlater] at heq
      exact absurd heq (hfirst n)
  | succ m =>
    cases b with
    | zero =>
      rw [hlater] at heq
      exact absurd heq.symm (hfirst m)
    | succ n =>
      rw [hlater, hlater, String.append_right_inj, String.append_right_inj] at heq
      have hnumber : m + 2 = n + 2 := toString_injective heq
      omega

/-- A name has the same text with two tags only if these are the same when they are cleaned. -/
theorem taggedName_inj {name : String} {tag tag' : Option String} :
    taggedName name tag suffix = taggedName name tag' suffix ↔
      tag.map cleanName = tag'.map cleanName := by
  have hlonger : ∀ t, name ++ suffix ≠ name ++ "~" ++ cleanName t ++ suffix := by
    intro t heq
    have hlength := congrArg String.length heq
    simp only [String.length_append] at hlength
    have hone : "~".length = 1 := rfl
    omega
  cases tag with
  | none =>
    cases tag' with
    | none => exact iff_of_true rfl rfl
    | some t => exact iff_of_false (hlonger t) nofun
  | some t =>
    cases tag' with
    | none => exact iff_of_false (hlonger t).symm nofun
    | some t' =>
      rw [taggedName, taggedName, String.append_left_inj, String.append_right_inj]
      exact Option.some_inj.symm

/-- **Two locations of one row** are the same only if their tags are, when these are cleaned. -/
theorem components_snapshotLocation_inj {tag tag' : Option String} :
    (snapshotLocation relativePath fileId suffix tag).components =
        (snapshotLocation relativePath fileId suffix tag').components ↔
      tag.map cleanName = tag'.map cleanName := by
  obtain ⟨first, more, hcut⟩ :=
    List.exists_cons_of_ne_nil (Path.cutSlashes_ne_nil suffix.toList)
  have hname : Function.Injective Component.name := fun s s' h => Component.name.inj h
  rw [components_snapshotLocation_of_cut hcut, components_snapshotLocation_of_cut hcut,
    List.append_left_inj, (List.map_injective_iff.2 hname).eq_iff, snapshotNames, snapshotNames,
    List.append_right_inj, List.singleton_inj, taggedName_inj]

/-- The tags of the places that a row can have: none at first, then that of each attempt. -/
def candidateTag (fileId : String) : Nat → Option String
  | 0 => none
  | attempt + 1 => some (attemptTag fileId attempt)

/-- **All places that a row can have** are different. -/
theorem injective_candidates : Function.Injective fun n =>
    (snapshotLocation relativePath fileId suffix (candidateTag fileId n)).components := by
  intro a b heq
  have htag := components_snapshotLocation_inj.1 heq
  cases a with
  | zero =>
    cases b with
    | zero => rfl
    | succ n => cases htag
  | succ m =>
    cases b with
    | zero => cases htag
    | succ n => rw [cleanName_attemptTag_injective fileId (Option.some.inj htag)]

/-- **Each attempt** has its own place. -/
theorem injective_attempts : Function.Injective fun attempt =>
    (snapshotLocation relativePath fileId suffix (some (attemptTag fileId attempt))).components :=
  fun _ _ heq => Nat.succ.inj (injective_candidates heq)

/-- **Among different places** there is a first one that is free, and there are no more before it
than places that are taken. -/
theorem exists_first_free (taken : List (List Component)) {place : Nat → Path}
    (hinj : Function.Injective fun k => (place k).components) :
    ∃ k ≤ taken.toFinset.card, (place k).components ∉ taken ∧
      ∀ j < k, (place j).components ∈ taken := by
  have hfree : ∃ k, (place k).components ∉ taken := by
    obtain ⟨k, hk⟩ := Infinite.exists_notMem_finset (taken.toFinset.preimage _ hinj.injOn)
    rw [Finset.mem_preimage, List.mem_toFinset] at hk
    exact ⟨k, hk⟩
  have htaken : ∀ j < Nat.find hfree, (place j).components ∈ taken := fun j hj =>
    not_not.1 (Nat.find_min hfree hj)
  refine ⟨Nat.find hfree, ?_, Nat.find_spec hfree, htaken⟩
  have hsubset : (Finset.range (Nat.find hfree)).image (fun k => (place k).components) ⊆
      taken.toFinset := by
    rw [Finset.image_subset_iff]
    intro j hj
    exact List.mem_toFinset.2 (htaken j (Finset.mem_range.1 hj))
  have hcard := Finset.card_le_card hsubset
  rwa [Finset.card_image_of_injective _ hinj, Finset.card_range] at hcard

/-- The attempts of a plan end where the first place is free. -/
theorem firstFreeAttempt_eq {taken : List (List Component)} {place : Nat → Path}
    {attempt last more : Nat} (htaken : ∀ k < last, (place k).components ∈ taken)
    (hfree : (place last).components ∉ taken) (hle : attempt ≤ last)
    (hmore : last ≤ attempt + more) : firstFreeAttempt taken place attempt more = place last := by
  induction more generalizing attempt with
  | zero =>
    obtain rfl : attempt = last := by omega
    rfl
  | succ more ih =>
    rw [firstFreeAttempt]
    rcases Nat.eq_or_lt_of_le hle with rfl | hless
    · exact if_neg hfree
    · rw [if_pos (htaken attempt hless)]
      exact ih hless (by omega)

/-- **Among more attempts than places taken** one is free. -/
theorem firstFreeAttempt_not_mem {taken : List (List Component)} {place : Nat → Path}
    (hinj : Function.Injective fun attempt => (place attempt).components) :
    (firstFreeAttempt taken place 0 taken.length).components ∉ taken := by
  obtain ⟨k, hk, hfree, htaken⟩ := exists_first_free taken hinj
  have hlength : k ≤ 0 + taken.length := by
    have := List.toFinset_card_le taken
    omega
  rw [firstFreeAttempt_eq htaken hfree (Nat.zero_le k) hlength]
  exact hfree

theorem exists_firstFreeAttempt (taken : List (List Component)) (place : Nat → Path)
    (attempt more : Nat) : ∃ k, firstFreeAttempt taken place attempt more = place k := by
  induction more generalizing attempt with
  | zero => exact ⟨attempt, rfl⟩
  | succ more ih =>
    rw [firstFreeAttempt]
    split_ifs
    · exact ih _
    · exact ⟨attempt, rfl⟩

/-- A place that is chosen is a place of the file, with the tag of an attempt or without a tag. -/
theorem exists_firstFreeLocation (taken : List (List Component))
    (relativePath fileId suffix : String) :
    ∃ tag, (∀ t ∈ tag, ∃ attempt, t = attemptTag fileId attempt) ∧
      firstFreeLocation taken relativePath fileId suffix =
        snapshotLocation relativePath fileId suffix tag := by
  unfold firstFreeLocation
  dsimp only
  split_ifs
  · obtain ⟨k, hk⟩ := exists_firstFreeAttempt taken (fun attempt =>
      snapshotLocation relativePath fileId suffix (some (attemptTag fileId attempt))) 0 taken.length
    exact ⟨_, by rintro t ⟨⟩; exact ⟨k, rfl⟩, hk⟩
  · exact ⟨none, by rintro t ⟨⟩, rfl⟩

/-- **A place that is chosen is free.** -/
theorem firstFreeLocation_not_mem (taken : List (List Component)) :
    (firstFreeLocation taken relativePath fileId suffix).components ∉ taken := by
  unfold firstFreeLocation
  dsimp only
  split_ifs with hplain
  · exact firstFreeAttempt_not_mem injective_attempts
  · exact hplain

end Location

end Tagging
