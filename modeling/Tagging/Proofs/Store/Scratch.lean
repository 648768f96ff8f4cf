import Mathlib.Data.List.Nodup
import Mathlib.Data.List.Perm.Subperm
import Tagging.Proofs.FileTree
import Tagging.Proofs.Number
import Tagging.Store.Scratch

/-!
# Scratch directories come and go

The directory of a run is added where nothing stands, the store keeps its file inside, and removing
the directory leaves the tree that was there before.

* `get?_freshName` — the name of a scratch directory is **free**;
* `createScratch_eq_ok`, `get?_of_createScratch`, `get?_removeScratch` — making one, and what stands
  there before and after;
* `openStore_eq_ok` — a store that opens is empty;
* `removeScratch_openStore` — **making a directory, opening a store in it and removing the directory
  changes nothing**.
-/

namespace Tagging

variable {α : Type} {t t' : FileTree α} {place scratch : Place}

theorem scratchName_injective (place : Place) :
    Function.Injective fun n : Nat => place ++ [scratchStem ++ toString n] := by
  intro m n h
  have hlast : scratchStem ++ toString m = scratchStem ++ toString n := by simpa using h
  rw [String.append_right_inj] at hlast
  exact toString_injective hlast

/-- The name of a new scratch directory is free: the names that are tried are more than the nodes
of the tree. -/
theorem get?_freshName (t : FileTree α) (place : Place) :
    t.get? (place ++ [freshName t place]) = none := by
  unfold freshName
  split
  · rename_i n hfound
    simpa using List.find?_some hfound
  · rename_i hnone
    exfalso
    -- if no name were free, each would be that of an entry
    let tried := (List.range (t.entries.length + 1)).map
      fun n => place ++ [scratchStem ++ toString n]
    have hnodup : tried.Nodup := List.nodup_range.map (scratchName_injective place)
    have hsub : tried ⊆ t.entries.map Prod.fst := by
      intro p hp
      obtain ⟨n, hn, rfl⟩ := List.mem_map.1 hp
      have htaken := List.find?_eq_none.1 hnone n hn
      rw [Bool.not_eq_true, Option.isNone_eq_false_iff, Option.isSome_iff_exists] at htaken
      obtain ⟨e, he⟩ := htaken
      exact List.mem_map_of_mem (FileTree.mem_of_get?_eq_some he (by simp))
    have hlength := (hnodup.subperm hsub).length_le
    simp only [tried, List.length_map, List.length_range] at hlength
    omega

/-- **A new scratch directory** is an empty directory, in another one, where nothing stood. -/
theorem createScratch_eq_ok {root : Option Path}
    (h : createScratch t root = .ok (t', scratch)) :
    ∃ place, t.get? place = some .directory ∧ scratch = place ++ [freshName t place] ∧
      t.get? scratch = none ∧ t' = t.put scratch .directory := by
  unfold createScratch at h
  dsimp only at h
  split at h
  · cases h
  · split at h
    · rename_i hholds
      cases h
      exact ⟨_, FileTree.holdsDirectory_iff.1 hholds, rfl, get?_freshName t _, rfl⟩
    · cases h

section Created

variable {root : Option Path} (h : createScratch t root = .ok (t', scratch)) {p : Place}
include h

/-- A scratch directory and all below it are not the root. -/
theorem ne_nil_of_createScratch (hp : scratch <+: p) : p ≠ [] := by
  obtain ⟨place, -, rfl, -, -⟩ := createScratch_eq_ok h
  rintro rfl
  simp at hp

/-- Nothing stood at the new scratch directory or below. -/
theorem get?_of_createScratch (hwell : t.WellFormed) (hp : scratch <+: p) : t.get? p = none := by
  obtain ⟨-, -, -, hfree, -⟩ := createScratch_eq_ok h
  rw [FileTree.get?_of_ne_nil (ne_nil_of_createScratch h hp)]
  exact FileTree.lookup_eq_none fun x hx heq => hwell.nothing_below hfree x hx (heq ▸ hp)

/-- Nothing stands there when it is removed. -/
theorem get?_removeScratch (last : FileTree α) (hp : scratch <+: p) :
    (removeScratch last scratch).get? p = none := by
  rw [removeScratch, FileTree.get?_prune (ne_nil_of_createScratch h hp), if_pos hp]

end Created

/-- The tree with an open store: the scratch directory and, for a database, a file in it. -/
theorem openStore_fst (t : FileTree α) (scratch : Place) (backend : Backend) (database : α)
    (fault : Option String) :
    (openStore t scratch backend database fault).1 =
      match backend with
      | .memory => t
      | .sqlite => t.put (scratch ++ [databaseName]) (.file database) := by
  cases backend with
  | memory => rfl
  | sqlite => cases fault <;> rfl

/-- A tree stays well-formed when a scratch directory is added and a store is opened in it. -/
theorem wellFormed_openStore (hwell : t.WellFormed) {root : Option Path}
    (h : createScratch t root = .ok (t', scratch)) (backend : Backend) (database : α)
    (fault : Option String) : (openStore t' scratch backend database fault).1.WellFormed := by
  obtain ⟨place, hplace, rfl, hfree, rfl⟩ := createScratch_eq_ok h
  have hmade : (t.put (place ++ [freshName t place]) .directory).WellFormed :=
    hwell.put hplace fun _ => rfl
  rw [openStore_fst]
  cases backend with
  | memory => exact hmade
  | sqlite =>
    have hne : place ++ [freshName t place] ≠ [] := by simp
    refine hmade.put ?_ fun hdir => ?_
    · rw [FileTree.get?_put hne, if_pos rfl]
    · -- nothing stands in the new directory yet
      exfalso
      rw [FileTree.get?_put (by simp), if_neg (by simp)] at hdir
      have hmem := FileTree.mem_of_get?_eq_some hdir (by simp)
      exact hwell.nothing_below hfree _ hmem (List.prefix_append _ _)

/-- A store that opens is empty. -/
theorem openStore_eq_ok {backend : Backend} {database : α} {fault : Option String} {store : Store}
    (h : (openStore t scratch backend database fault).2 = .ok store) :
    store = Store.empty backend := by
  cases backend with
  | memory => exact (Except.ok.inj h).symm
  | sqlite =>
    cases fault with
    | some message => exact absurd h (by simp [openStore])
    | none => exact (Except.ok.inj h).symm

/-- **What a run adds before it writes its report is removed with the scratch directory.** -/
theorem removeScratch_openStore (hwell : t.WellFormed) {root : Option Path}
    (h : createScratch t root = .ok (t', scratch)) (backend : Backend) (database : α)
    (fault : Option String) :
    removeScratch (openStore t' scratch backend database fault).1 scratch = t := by
  obtain ⟨-, -, -, hfree, rfl⟩ := createScratch_eq_ok h
  have hempty : (t.put scratch .directory).prune scratch = t := by
    rw [FileTree.prune_put (List.prefix_refl scratch)]
    exact FileTree.prune_eq_self (hwell.nothing_below hfree)
  rw [removeScratch, openStore_fst]
  cases backend with
  | memory => exact hempty
  | sqlite =>
    rw [FileTree.prune_put (List.prefix_append scratch _)]
    exact hempty

end Tagging
