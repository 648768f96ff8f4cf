import Mathlib.Tactic.SplitIfs
import Tagging.Proofs.FileTree.Goals

/-!
# Taking away what was added

In the trees that a system can hold, a path names a node for removal if, and only if, it leads
there.  So what a removal takes away is told by the places of the tree, and where a path leads
afterwards by the places on its way.

* `FileTree.Legal` — trees that a system can hold, `Legal.kept` **kept by every operation**;
* `FileTree.resolve_congr` — trees that agree on the way of a path;
* `Legal.removeFile_eq`, `FileTree.removeTree_eq` — **what is removed, and where**;
* `FileTree.removeFile_of_writeFile` — writing a file and removing it;
* `FileTree.ChangesBelow` — trees that differ below one place only;
* `FileTree.Attempt`, `Attempt.undo_iff` — a directory is made and filled, and taken away again:
  **when this leaves nothing**;
* `FileTree.exists?_of_adds` — what making a directory does not bring to light.
-/

namespace Tagging

namespace FileTree

open Tagging.Path (isStep)

variable {α : Type} {t t' : FileTree α} {place next : Place} {p q : Path}

/-! ## Trees that a system can hold -/

/-- Every node stands in a directory and has a name that a node can have. -/
structure Legal (t : FileTree α) : Prop where
  /-- Every node stands in a directory. -/
  wellFormed : t.WellFormed
  /-- Every name is one that a node can have. -/
  name : ∀ {directory : Place} {name : String},
    (t.get? (directory ++ [name])).isSome = true → LegalName name

namespace Legal

/-- A tree without a node can be held. -/
theorem nil (current : Place) : (⟨[], current⟩ : FileTree α).Legal := by
  refine ⟨.nil current, fun h => ?_⟩
  rw [get?_of_ne_nil (by simp)] at h
  cases h

/-- **Every operation** keeps a tree such that it can be held. -/
theorem kept : KeptByOperations fun t : FileTree α => t.Legal where
  put {t directory name e} h hin hname hstays := by
    refine ⟨h.wellFormed.put hin hstays, fun {directory' name'} hthere => ?_⟩
    rw [get?_put (by simp)] at hthere
    split_ifs at hthere with heq
    · obtain ⟨-, heq⟩ := List.append_inj' heq rfl
      rw [List.singleton_inj.1 heq]
      exact hname
    · exact h.name hthere
  prune {t} place h := by
    refine ⟨h.wellFormed.prune place, fun hthere => ?_⟩
    rw [get?_prune (by simp)] at hthere
    split_ifs at hthere
    · cases hthere
    · exact h.name hthere

end Legal

/-! ## Trees that agree on the way -/

theorem enter_congr {part : List Char} (hplace : t'.get? place = t.get? place)
    (hnext : isStep part = true → t'.get? (stepInto place part) = t.get? (stepInto place part)) :
    t'.enter place part = t.enter place part := by
  have hholds : t'.holdsDirectory place = t.holdsDirectory place := by
    rw [holdsDirectory, holdsDirectory, hplace]
  unfold enter
  rw [hholds]
  by_cases hidle : Path.isIdle part = true
  · rw [if_pos hidle, if_pos hidle]
  rw [if_neg hidle, if_neg hidle]
  by_cases hup : part = ['.', '.']
  · rw [if_pos hup, if_pos hup]
  have hname := hnext (by simp [isStep, hidle])
  rw [stepInto, if_neg hup] at hname
  rw [if_neg hup, if_neg hup]
  dsimp only
  rw [hname]

theorem walk_congr {parts : List (List Char)}
    (h : ∀ k, t'.get? (((parts.filter isStep).take k).foldl stepInto place) =
      t.get? (((parts.filter isStep).take k).foldl stepInto place)) :
    t'.walk place parts = t.walk place parts := by
  induction parts generalizing place with
  | nil => rfl
  | cons part rest ih =>
    have henter : t'.enter place part = t.enter place part := by
      refine enter_congr (h 0) fun hstep => ?_
      have hone := h 1
      rwa [List.filter_cons_of_pos hstep] at hone
    rw [walk, walk, henter]
    split
    · rename_i reached hreached
      obtain ⟨-, rfl⟩ := enter_eq_ok hreached
      refine ih fun k => ?_
      by_cases hstep : isStep part = true
      · have hlater := h (k + 1)
        rw [List.filter_cons_of_pos hstep] at hlater
        rw [if_pos hstep]
        exact hlater
      · have hlater := h k
        rw [List.filter_cons_of_neg hstep] at hlater
        rw [if_neg hstep]
        exact hlater
    · rfl

/-- **Trees that agree on the way** of a path agree on where it leads. -/
theorem resolve_congr (hcurrent : t'.current = t.current)
    (h : ∀ place, t.OnWay p place → t'.get? place = t.get? place) :
    t'.resolve p = t.resolve p := by
  have houtset : t'.outset p = t.outset p := by
    unfold outset
    rw [hcurrent]
  unfold resolve
  rw [houtset]
  split
  · rfl
  · refine walk_congr fun k => ?_
    rw [filter_outset, outset_fst]
    exact h _ ⟨k, rfl⟩

theorem enter_isSome (h : t.WellFormed) {part : List Char} (heq : t.enter place part = .ok next) :
    (t.get? next).isSome = true := by
  unfold enter at heq
  by_cases hholds : t.holdsDirectory place = true
  · rw [hholds] at heq
    dsimp only at heq
    rw [holdsDirectory_iff] at hholds
    split_ifs at heq with hnot hidle hup hlong hthere
    · cases heq
      rw [hholds]
      rfl
    · cases heq
      rw [h.get?_dropLast hholds]
      rfl
    · cases heq
      exact hthere
  · rw [Bool.not_eq_true] at hholds
    rw [hholds] at heq
    cases heq

theorem walk_isSome (h : t.WellFormed) {parts : List (List Char)} (hne : parts ≠ [])
    (heq : t.walk place parts = .ok next) : (t.get? next).isSome = true := by
  induction parts generalizing place with
  | nil => exact absurd rfl hne
  | cons part rest ih =>
    rw [walk] at heq
    split at heq
    · rename_i reached hreached
      cases rest with
      | nil =>
        cases heq
        exact enter_isSome h hreached
      | cons => exact ih (by simp) heq
    · cases heq

/-- **Where a path leads**, there is a node. -/
theorem isSome_of_resolve (h : t.WellFormed) (hne : p.steps ≠ [])
    (heq : t.resolve p = .ok place) : (t.get? place).isSome = true := by
  unfold resolve at heq
  split at heq
  · cases heq
  · refine walk_isSome h (fun hnil => hne ?_) heq
    rw [← filter_outset t p, hnil]
    rfl

/-! ## What is removed -/

theorem read?_eq_some {content : α} : t.read? p = some content ↔
    t.resolve p = .ok (t.goal p) ∧ t.get? (t.goal p) = some (.file content) := by
  unfold read?
  split
  · rename_i place hplace
    rw [← resolve_eq_goal hplace]
    split
    · rename_i hget
      simp [hplace, hget]
    · rename_i hget
      simpa [hplace] using hget content
  · rename_i f hf
    simp [hf]

/-- Only a name leads to a file. -/
theorem isDots_of_enter (h : t.WellFormed) {part : List Char}
    (hfile : t.holdsDirectory next ≠ true) (heq : t.enter place part = .ok next) :
    isDots part = false := by
  obtain ⟨hholds, hnext⟩ := enter_eq_ok heq
  have hstep : isStep part = true := by
    by_contra hstep
    rw [if_neg hstep] at hnext
    exact hfile (hnext ▸ hholds)
  simp only [isDots, Bool.or_eq_false_iff, decide_eq_false_iff_not]
  refine ⟨(Path.isStep_iff.1 hstep).2, fun hup => hfile ?_⟩
  rw [if_pos hstep, stepInto, if_pos hup] at hnext
  rw [hnext, holdsDirectory_iff]
  exact h.get?_dropLast (holdsDirectory_iff.1 hholds)

/-- **A path that leads to a file** ends in its name. -/
theorem tip_of_read? (h : t.WellFormed) (hne : p.steps ≠ []) {content : α}
    (hread : t.read? p = some content) :
    ∃ directory part, t.tip p = .ok (.last directory part false) ∧
      t.goal p = directory ++ [String.ofList part] := by
  obtain ⟨hresolve, hfile⟩ := read?_eq_some.1 hread
  have hnot : t.holdsDirectory (t.goal p) ≠ true := by
    rw [Ne, holdsDirectory_iff, hfile]
    simp
  unfold resolve at hresolve
  split at hresolve
  · cases hresolve
  rename_i hvet
  rcases hparts : (t.outset p).2.reverse.dropWhile List.isEmpty with - | ⟨part, before⟩
  · refine absurd ?_ hne
    have hempty : ∀ part ∈ (t.outset p).2, part = [] := by
      simpa [List.dropWhile_eq_nil_iff] using hparts
    rw [← filter_outset t p, List.filter_eq_nil_iff]
    intro part hpart
    rw [hempty part hpart]
    decide
  obtain ⟨n, hall, -, hlast⟩ := eq_append_of_dropWhile hparts
  rw [hall, walk_append] at hresolve
  split at hresolve
  case h_2 => cases hresolve
  rename_i directory hwalk
  rw [walk] at hresolve
  split at hresolve
  case h_2 => cases hresolve
  rename_i reached henter
  -- what follows the name must be nothing at all: a separator would ask for a directory
  have hreached : reached = t.goal p := by
    rw [walk_eq_ok hresolve]
    simp [isStep, Path.isIdle]
  rw [hreached] at henter hresolve
  have hslash : n = 0 := by
    by_contra hn
    obtain ⟨m, rfl⟩ := Nat.exists_eq_succ_of_ne_zero hn
    rw [List.replicate_succ, walk] at hresolve
    split at hresolve
    · rename_i hagain
      exact hnot (enter_eq_ok hagain).1
    · cases hresolve
  have htip : t.tip p = .ok (.last directory part false) := by
    unfold tip
    rw [hvet]
    dsimp only
    rw [hparts]
    dsimp only
    rw [hwalk]
    dsimp only
    rw [if_pos (enter_eq_ok henter).1]
    simp [hlast, hslash]
  exact ⟨directory, part, htip, goal_of_tip htip (isDots_of_enter h hnot henter)⟩

/-- **Removing a file** takes it away if the path leads there, and changes nothing else. -/
theorem Legal.removeFile_eq (h : t.Legal) (hne : p.steps ≠ []) :
    t.removeFile p = if (t.read? p).isSome then t.prune (t.goal p) else t := by
  cases hread : t.read? p with
  | some content =>
    obtain ⟨directory, part, htip, hgoal⟩ := tip_of_read? h.wellFormed hne hread
    have hfile := (read?_eq_some.1 hread).2
    rw [hgoal] at hfile
    unfold removeFile
    rw [htip, hgoal]
    dsimp only
    rw [hfile]
    rfl
  | none =>
    have hgone : ∀ content : α, t.read? p ≠ some content := by simp [hread]
    unfold removeFile
    split
    · rename_i directory part htip
      split
      · rename_i content hfile
        have hthere : (t.get? (directory ++ [String.ofList part])).isSome = true := by
          rw [hfile]
          rfl
        obtain ⟨hdots, hshort⟩ := h.name hthere
        rw [String.toList_ofList] at hdots
        have hresolve := resolve_of_tip htip hdots (Nat.not_lt.2 hshort) hthere
          (fun hslash => nomatch hslash)
        refine absurd (read?_eq_some.2 ⟨?_, ?_⟩) (hgone content)
        · rw [hresolve, resolve_eq_goal hresolve]
        · rw [← resolve_eq_goal hresolve, hfile]
      · rfl
    · rfl

/-- **A file that is removed again** leaves the tree as if it had been removed before it was
written. -/
theorem removeFile_of_writeFile (h : t.WellFormed) {content : α}
    (hwritten : t.writeFile p content = .ok t') : t'.removeFile p = t.removeFile p := by
  unfold writeFile at hwritten
  dsimp only at hwritten
  split at hwritten
  case h_1 => cases hwritten
  case h_2 => cases hwritten
  rename_i directory part slash htip
  split_ifs at hwritten with hdots hlong hdirectory
  cases hwritten
  rw [Bool.or_eq_true, not_or, Bool.not_eq_true, Bool.not_eq_true] at hdots
  obtain ⟨-, rfl⟩ := hdots
  rw [holdsDirectory_iff] at hdirectory
  have hne : directory ++ [String.ofList part] ≠ [] := by simp
  have hgrows : t.Grows (t.put (directory ++ [String.ofList part]) (.file content)) :=
    .put hne fun hdir => absurd hdir hdirectory
  have hprune := prune_put (t := t) (e := .file content)
    (List.prefix_refl (directory ++ [String.ofList part]))
  unfold removeFile
  rw [hgrows.tip htip, htip]
  dsimp only
  rw [get?_put hne, if_pos rfl]
  dsimp only
  rw [hprune]
  split
  · rfl
  · rename_i hnofile
    cases hold : t.get? (directory ++ [String.ofList part]) with
    | none => exact prune_eq_self (h.nothing_below hold)
    | some e =>
      cases e with
      | directory => exact absurd hold hdirectory
      | file old => exact absurd hold (hnofile old)

/-- **Removing a tree** takes away the directory that the path leads to. -/
theorem removeTree_eq (t : FileTree α) (p : Path) :
    t.removeTree p = if t.isDirectory p then t.prune (t.goal p) else t := by
  unfold removeTree isDirectory
  split
  · rename_i place hplace
    rw [← resolve_eq_goal hplace]
  · rfl

/-- What stands in a tree from which something was taken away stood there before. -/
theorem get?_of_prune {e : Entry α} (h : (t.prune place).get? next = some e) :
    t.get? next = some e := by
  by_cases hroot : next = []
  · subst hroot
    exact h
  · rw [get?_prune hroot] at h
    split_ifs at h
    exact h

theorem prune_grows (t : FileTree α) (place : Place) : (t.prune place).Grows t := by
  refine ⟨rfl, get?_of_prune, fun hp => ?_⟩
  obtain ⟨e, he⟩ := Option.isSome_iff_exists.1 hp
  rw [get?_of_prune he]
  rfl

theorem removeTree_grows (t : FileTree α) (p : Path) : (t.removeTree p).Grows t := by
  rw [removeTree_eq]
  split_ifs
  · exact t.prune_grows _
  · exact .refl t

/-- Every file at another place stays. -/
theorem Legal.get?_removeFile (h : t.Legal) (hne : p.steps ≠ []) {content : α}
    (hfile : t.get? place = some (.file content)) (hother : place ≠ t.goal p) :
    (t.removeFile p).get? place = some (.file content) := by
  rw [h.removeFile_eq hne]
  cases hread : t.read? p with
  | none => exact hfile
  | some gone =>
    have hroot : place ≠ [] := by
      rintro rfl
      cases hfile
    rw [Option.isSome_some, if_pos rfl, get?_prune hroot, if_neg, hfile]
    -- a file lies below no file
    intro hbelow
    have hthere : (t.get? place).isSome = true := by
      rw [hfile]
      rfl
    have hdirectory := h.wellFormed.get?_of_above hthere hbelow (Ne.symm hother)
    rw [(read?_eq_some.1 hread).2] at hdirectory
    cases hdirectory

/-- Removing a tree leaves everything that is not below the goal of its path. -/
theorem get?_removeTree (hbeside : ¬ t.goal p <+: place) :
    (t.removeTree p).get? place = t.get? place := by
  rw [removeTree_eq]
  split_ifs
  · by_cases hroot : place = []
    · subst hroot
      rfl
    · rw [get?_prune hroot, if_neg hbeside]
  · rfl

/-! ## Changes below a place -/

/-- The second tree is the first one with nodes that are new or changed below a place. -/
structure ChangesBelow (t t' : FileTree α) (place : Place) : Prop extends Grows t t' where
  /-- Everything else is as it was. -/
  same : ∀ {p : Place}, (place <+: p → p = place) → t'.get? p = t.get? p

namespace ChangesBelow

variable {t'' : FileTree α}

theorem refl (t : FileTree α) (place : Place) : t.ChangesBelow t place := ⟨.refl t, fun _ => rfl⟩

theorem trans (h : t.ChangesBelow t' place) (h' : t'.ChangesBelow t'' place) :
    t.ChangesBelow t'' place :=
  ⟨h.toGrows.trans h'.toGrows, fun hp => (h'.same hp).trans (h.same hp)⟩

theorem put {names : List String} {e : Entry α} (hne : names ≠ [])
    (hstays : t.get? (place ++ names) = some .directory → e = .directory) :
    t.ChangesBelow (t.put (place ++ names) e) place := by
  have hplace : place ++ names ≠ [] := by simp [hne]
  refine ⟨.put hplace hstays, fun {p} hp => ?_⟩
  rw [get?_put hplace, if_neg]
  rintro rfl
  exact hne (List.append_right_eq_self.1 (hp (List.prefix_append place names)))

/-- **What lies beside the place** is read as before, if the way there leads through directories. -/
theorem read?_eq (h : t.ChangesBelow t' place) (hbeside : ¬ place <+: t.goal p)
    (hway : ∀ above, t.OnWay p above → above = t.goal p ∨ t.get? above = some .directory) :
    t'.read? p = t.read? p := by
  have hgoal : t'.get? (t.goal p) = t.get? (t.goal p) := h.same fun habove => absurd habove hbeside
  have hresolve : t'.resolve p = t.resolve p := by
    refine resolve_congr h.current fun above habove => ?_
    rcases hway above habove with rfl | hdirectory
    · exact hgoal
    · rw [hdirectory, h.directory hdirectory]
  refine Option.ext fun content => ?_
  rw [read?_eq_some, read?_eq_some, hresolve, goal_congr h.current, hgoal]

end ChangesBelow

/-- Directories that are added below a place. -/
theorem AddsDirectories.changesBelow {at' : Place → Prop} (h : t.AddsDirectories t' at')
    (hbelow : ∀ {p}, at' p → t.get? p = none → place <+: p ∧ p ≠ place) :
    t.ChangesBelow t' place := by
  refine ⟨h.grows, fun {p} hp => ?_⟩
  cases hold : t.get? p with
  | some e => exact h.kept hold
  | none =>
    rcases h.added hold with hnone | ⟨-, hat⟩
    · exact hnone
    · obtain ⟨habove, hne⟩ := hbelow hat hold
      exact absurd (hp habove) hne

/-- **Taking away a place where nothing stood** takes away all that was added there, and below. -/
theorem AddsDirectories.prune {t₁ t₂ : FileTree α} {at' : Place → Prop} (h : t.WellFormed)
    (hnone : t.get? place = none) (hadds : t.AddsDirectories t₁ at')
    (hbelow : t₁.ChangesBelow t₂ place) : t.AddsDirectories (t₂.prune place) at' := by
  have hbeside : ∀ {p : Place}, p ≠ [] → ¬ place <+: p → (t₂.prune place).get? p = t₁.get? p := by
    intro p hroot hp
    rw [get?_prune hroot, if_neg hp, hbelow.same fun habove => absurd habove hp]
  refine ⟨hbelow.current.trans hadds.current, fun {p e} hp => ?_, fun {p} hp => ?_⟩
  · by_cases hroot : p = []
    · subst hroot
      exact hp
    rw [hbeside hroot, hadds.kept hp]
    exact h.nothing_below hnone _ (mem_of_get?_eq_some hp hroot)
  · have hroot : p ≠ [] := by
      rintro rfl
      cases hp
    by_cases habove : place <+: p
    · left
      rw [get?_prune hroot, if_pos habove]
    · rw [hbeside hroot habove]
      exact hadds.added hp

/-! ## Undoing -/

theorem exists?_iff : t.exists? p = true ↔ t.resolve p = .ok (t.goal p) := by
  unfold exists?
  cases hresolve : t.resolve p with
  | ok place => simp [resolve_eq_goal hresolve, Except.isOk, Except.toBool]
  | error f => simp [Except.isOk, Except.toBool]

theorem exists?_of_isDirectory (h : t.isDirectory p = true) : t.exists? p = true :=
  exists?_iff.2 (get?_goal_of_isDirectory h).1

theorem read?_eq_none (h : t.exists? p = false) : t.read? p = none := by
  rw [Option.eq_none_iff_forall_not_mem]
  intro content hread
  rw [exists?_iff.2 (read?_eq_some.1 hread).1] at h
  cases h

/-- A path that leads nowhere in a tree leads nowhere when something is taken away. -/
theorem read?_prune_eq_none (h : t.read? p = none) (place : Place) :
    (t.prune place).read? p = none := by
  rw [Option.eq_none_iff_forall_not_mem] at h ⊢
  intro content hcontent
  obtain ⟨hresolve, hfile⟩ := read?_eq_some.1 hcontent
  exact h content (read?_eq_some.2
    ⟨(t.prune_grows place).resolve hresolve, get?_of_prune hfile⟩)

/-- No path leads to its goal when that is taken away. -/
theorem exists?_prune_goal (h : t.WellFormed) (hne : p.steps ≠ []) (hroot : t.goal p ≠ []) :
    (t.prune (t.goal p)).exists? p = false := by
  have hgoal : (t.prune (t.goal p)).goal p = t.goal p := goal_congr rfl p
  rw [Bool.eq_false_iff, Ne, exists?_iff, hgoal]
  intro hresolve
  have hsome := isSome_of_resolve (h.prune _) hne hresolve
  rw [get?_prune hroot, if_pos (List.prefix_refl _)] at hsome
  cases hsome

/-- **A file that is removed** is not found. -/
theorem Legal.read?_removeFile (h : t.Legal) (hne : p.steps ≠ []) :
    (t.removeFile p).read? p = none := by
  rw [h.removeFile_eq hne]
  cases hread : t.read? p with
  | none => exact hread
  | some content =>
    have hroot : t.goal p ≠ [] := by
      intro hnil
      have hfile := (read?_eq_some.1 hread).2
      rw [hnil] at hfile
      cases hfile
    exact read?_eq_none (exists?_prune_goal h.wellFormed hne hroot)

theorem read?_removeTree_eq_none (h : t.read? p = none) (q : Path) :
    (t.removeTree q).read? p = none := by
  rw [removeTree_eq]
  split_ifs
  · exact read?_prune_eq_none h _
  · exact h

/-- An attempt to fill a directory: it is made, or made in part; if it is there, there are changes
below it. -/
structure Attempt (t t₁ t₂ : FileTree α) (directory : Path) : Prop where
  /-- The first tree. -/
  wellFormed : t.WellFormed
  /-- Making the directory. -/
  adds : t.AddsDirectories t₁ (t.OnWay directory)
  /-- Filling it. -/
  below : t₁.ChangesBelow t₂ (t.goal directory)
  /-- It is not filled if it is not there. -/
  filled : t₁.isDirectory directory = true ∨ t₂ = t₁
  /-- The last tree. -/
  legal : t₂.Legal

/-- The path of the file goes along that of the directory up to its last step. -/
structure Beside (t : FileTree α) (file directory : Path) : Prop where
  /-- The way to the file. -/
  way : ∀ above, t.OnWay file above → above = t.goal file ∨ t.OnWay directory above
  /-- The place of the file. -/
  goal : ¬ t.goal directory <+: t.goal file

theorem Beside.goal_ne_nil {file directory : Path} (h : t.Beside file directory) :
    t.goal directory ≠ [] := fun hnil => h.goal (hnil ▸ List.nil_prefix)

namespace Attempt

variable {t₁ t₂ : FileTree α} {file directory : Path} {content : α} {e : Entry α}

section

variable (h : t.Attempt t₁ t₂ directory) (hbeside : t.Beside file directory)
include h hbeside

/-- The file is left alone. -/
theorem read?_eq : t₂.read? file = t₁.read? file := by
  rcases h.filled with hdir | heq
  · refine h.below.read?_eq ?_ fun above habove => ?_
    · rw [goal_congr h.adds.current]
      exact hbeside.goal
    · rw [goal_congr h.adds.current]
      rw [onWay_congr h.adds.current] at habove
      refine (hbeside.way above habove).imp id fun hup => get?_of_onWay hdir ?_
      rwa [onWay_congr h.adds.current]
  · rw [heq]

variable (hsteps : file.steps ≠ [])
include hsteps

/-- A file that comes to light was there before, and is lost when it is removed. -/
theorem loses_file (hold : t₁.read? file = some content) {at' : Place → Prop} :
    ¬ t.AddsDirectories ((t₂.removeFile file).removeTree directory) at' := by
  intro hrest
  have hremoved := h.legal.removeFile_eq hsteps
  rw [h.read?_eq hbeside, hold, goal_congr (h.below.current.trans h.adds.current)] at hremoved
  have hcontent := (read?_eq_some.1 hold).2
  rw [goal_congr h.adds.current] at hcontent
  have hkept := hrest.kept (h.adds.file hcontent)
  have hroot : t.goal file ≠ [] := by
    intro hnil
    rw [hnil] at hcontent
    cases hcontent
  have hgone : (t₂.removeFile file).get? (t.goal file) = none := by
    rw [hremoved, Option.isSome_some, if_pos rfl, get?_prune hroot, if_pos (List.prefix_refl _)]
  have hnode := (removeTree_grows _ directory).node (Option.isSome_iff_exists.2 ⟨_, hkept⟩)
  rw [hgone] at hnode
  cases hnode

/-- If no file comes to light, there is none to remove. -/
theorem removeFile_eq_self (hold : t₁.read? file = none) : t₂.removeFile file = t₂ := by
  rw [h.legal.removeFile_eq hsteps, h.read?_eq hbeside, hold]
  rfl

end

section

variable (h : t.Attempt t₁ t₂ directory) (hthere : t₁.exists? directory = true)
include h hthere

theorem resolve_directory : t₂.resolve directory = .ok (t.goal directory) := by
  rw [← goal_congr h.adds.current]
  exact h.below.resolve (exists?_iff.1 hthere)

/-- What stood at the place of the directory is lost with it, or stands in its way. -/
theorem loses_directory (hroot : t.goal directory ≠ [])
    (hold : t.get? (t.goal directory) = some e) {at' : Place → Prop} :
    ¬ ((t₂.removeTree directory).exists? directory = false ∧
      t.AddsDirectories (t₂.removeTree directory) at') := by
  rintro ⟨hgone, hrest⟩
  have hremoved := t₂.removeTree_eq directory
  rw [goal_congr (h.below.current.trans h.adds.current)] at hremoved
  by_cases hdir : t₂.isDirectory directory = true
  · rw [if_pos hdir] at hremoved
    have hkept := hrest.kept hold
    rw [hremoved, get?_prune hroot, if_pos (List.prefix_refl _)] at hkept
    cases hkept
  · rw [if_neg hdir] at hremoved
    rw [hremoved, exists?, h.resolve_directory hthere] at hgone
    cases hgone

/-- A directory where nothing stood is taken away. -/
theorem removeTree_eq (hsteps : directory.steps ≠ []) (hold : t.get? (t.goal directory) = none) :
    t₂.removeTree directory = t₂.prune (t.goal directory) := by
  have hresolve := h.resolve_directory hthere
  have hdir : t₂.get? (t.goal directory) = some .directory := by
    have hsome := isSome_of_resolve h.legal.wellFormed hsteps hresolve
    rw [h.below.same fun _ => rfl] at hsome
    rcases h.adds.added hold with hnone | ⟨hdir, -⟩
    · rw [hnone] at hsome
      cases hsome
    · exact h.below.directory hdir
  rw [FileTree.removeTree_eq, if_pos (isDirectory_iff.2 ⟨_, hresolve, hdir⟩),
    goal_congr (h.below.current.trans h.adds.current)]

end

/-- **Undoing an attempt**, the file first and then the directory, leaves nothing but directories on
the way if, and only if, making the directory brings to light neither that file nor anything where
the directory is to stand. -/
theorem undo_iff (h : t.Attempt t₁ t₂ directory) (hbeside : t.Beside file directory)
    (hfile : file.steps ≠ []) (hdirectory : directory.steps ≠ []) :
    let t₃ := (t₂.removeFile file).removeTree directory
    t₃.read? file = none ∧ t₃.exists? directory = false ∧
        t.AddsDirectories t₃ (t.OnWay directory) ↔
      t₁.read? file = none ∧ (t₁.exists? directory = true → t.get? (t.goal directory) = none) := by
  intro t₃
  have hroot := hbeside.goal_ne_nil
  cases hread : t₁.read? file with
  | some content =>
    exact iff_of_false (fun hleft => h.loses_file hbeside hfile hread hleft.2.2) (by simp)
  | none =>
    have hkeeps : t₃ = t₂.removeTree directory :=
      congrArg (FileTree.removeTree · directory) (h.removeFile_eq_self hbeside hfile hread)
    have hread₂ : t₂.read? file = none := (h.read?_eq hbeside).trans hread
    by_cases hthere : t₁.exists? directory = true
    · cases hold : t.get? (t.goal directory) with
      | some e =>
        rw [hkeeps]
        exact iff_of_false (fun hleft => h.loses_directory hthere hroot hold hleft.2)
          (by simp [hthere])
      | none =>
        rw [hkeeps, h.removeTree_eq hthere hdirectory hold]
        refine iff_of_true ⟨read?_prune_eq_none hread₂ _, ?_,
          h.adds.prune h.wellFormed hold h.below⟩ ⟨rfl, fun _ => rfl⟩
        have hgone := exists?_prune_goal (p := directory) h.legal.wellFormed hdirectory
        rw [goal_congr (h.below.current.trans h.adds.current)] at hgone
        exact hgone hroot
    · -- the directory is not there, so nothing was filled and nothing is taken away
      have hnot : t₁.isDirectory directory ≠ true := fun hdir =>
        hthere (exists?_of_isDirectory hdir)
      obtain rfl : t₂ = t₁ := h.filled.resolve_left hnot
      rw [hkeeps, FileTree.removeTree_eq, if_neg hnot]
      rw [Bool.not_eq_true] at hthere
      exact iff_of_true ⟨hread, hthere, h.adds⟩ ⟨rfl, by simp [hthere]⟩

end Attempt

/-! ## What does not come to light -/

/-- **Adding directories** opens no way to what was there, if the way led through directories. -/
theorem exists?_of_adds {at' : Place → Prop} (h : t.AddsDirectories t' at')
    (hsteps : q.steps = p.steps.dropLast) (habs : q.isAbsolute = p.isAbsolute)
    (hway : ∀ above, t.OnWay q above → t.get? above = some .directory)
    (hthere : (t.get? (t.goal p)).isSome = true) (hexists : t'.exists? p = true) :
    t.exists? p = true := by
  rw [exists?_iff] at hexists ⊢
  rw [← goal_congr h.current, ← hexists]
  refine (resolve_congr h.current fun above habove => ?_).symm
  rcases (onWay_iff_of_dropLast hsteps habs).1 habove with hup | rfl
  · rw [hway above hup, h.kept (hway above hup)]
  · obtain ⟨e, he⟩ := Option.isSome_iff_exists.1 hthere
    rw [he, h.kept he]

/-- The way to what stands in a directory leads through directories, unless it leads up and the
directory is not found. -/
theorem WellFormed.get?_of_onWay (h : t.WellFormed)
    (hway : ['.', '.'] ∉ p.steps ∨ t.isDirectory p = true) {name : String}
    (hthere : (t.get? (t.goal p ++ [name])).isSome = true) (habove : t.OnWay p place) :
    t.get? place = some .directory := by
  rcases hway with hno | hdir
  · have hbegins := above_goal_of_onWay hno habove
    refine h.get?_of_above hthere (hbegins.trans (List.prefix_append _ _)) fun heq => ?_
    have hlength := hbegins.length_le
    rw [heq, List.length_append, List.length_singleton] at hlength
    omega
  · exact FileTree.get?_of_onWay hdir habove

end FileTree

end Tagging
