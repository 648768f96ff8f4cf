import Mathlib.Data.List.Basic
import Mathlib.Data.List.Induction
import Mathlib.Data.List.TakeWhile
import Mathlib.Tactic.SplitIfs
import Tagging.FileTree

/-!
# What file trees hold

Changing a tree, seen through what stands at its places afterwards.

* `FileTree.get?_put`, `FileTree.get?_prune` — **one node** that is written, and all nodes below a
  place that are taken away;
* `FileTree.prune_put`, `FileTree.prune_eq_self` — taking away what was added, and what never was;
* `FileTree.read?_writeFile` — **a file that is written is read back**;
* `FileTree.WritesOn`, `FileTree.writesOn` — **what comes of a write on a device**: all of the file,
  a part of it, or nothing;
* `FileTree.WellFormed` — every node stands in a directory, so that nothing stands below a place
  where nothing stands (`WellFormed.nothing_below`);
* `FileTree.KeptByOperations` — what is kept when one node is added, or one place taken away, is
  kept by **every operation**; so `WellFormed.kept`.
-/

namespace Tagging

namespace FileTree

variable {α : Type} {t t' : FileTree α} {place : Place} {e : Entry α}

/-! ## Single nodes -/

@[simp] theorem get?_nil (t : FileTree α) : t.get? [] = some .directory := rfl

theorem get?_of_ne_nil (h : place ≠ []) : t.get? place = t.entries.lookup place := by
  rw [get?, if_neg h]

/-- Leaving out other places changes nothing at a place. -/
theorem lookup_filter {p : Place} {keep : Place × Entry α → Bool}
    (h : ∀ e, keep (p, e) = true) (entries : List (Place × Entry α)) :
    (entries.filter keep).lookup p = entries.lookup p := by
  induction entries with
  | nil => rfl
  | cons x rest ih =>
    obtain ⟨q, e⟩ := x
    by_cases hq : q = p
    · subst hq
      simp [h e]
    · have hne : (p == q) = false := by simpa using Ne.symm hq
      by_cases hkeep : keep (q, e) = true
      · rw [List.filter_cons_of_pos hkeep, List.lookup_cons, List.lookup_cons, hne, ih]
      · rw [List.filter_cons_of_neg hkeep, List.lookup_cons, hne, ih]

theorem lookup_eq_none {p : Place} {entries : List (Place × Entry α)}
    (h : ∀ x ∈ entries, x.1 ≠ p) : entries.lookup p = none := by
  refine List.lookup_eq_none_iff.2 fun x hx => ?_
  simpa using (h x hx).symm

/-- A node other than the root is an entry. -/
theorem mem_of_get?_eq_some (h : t.get? place = some e) (hne : place ≠ []) :
    (place, e) ∈ t.entries := by
  rw [get?_of_ne_nil hne] at h
  obtain ⟨front, back, heq, -⟩ := List.lookup_eq_some_iff.1 h
  rw [heq]
  exact List.mem_append_right _ (List.mem_cons_self ..)

/-- There is a node wherever there is an entry. -/
theorem isSome_get?_of_mem {x : Place × Entry α} (h : x ∈ t.entries) :
    (t.get? x.1).isSome = true := by
  by_cases hne : x.1 = []
  · rw [hne, get?_nil]
    rfl
  · by_contra hnone
    rw [get?_of_ne_nil hne, Option.not_isSome_iff_eq_none] at hnone
    have hall := List.lookup_eq_none_iff.1 hnone x h
    simp at hall

/-- **Writing one node** changes nothing elsewhere. -/
theorem get?_put (hne : place ≠ []) (p : Place) :
    (t.put place e).get? p = if p = place then some e else t.get? p := by
  by_cases hp : p = []
  · subst hp
    rw [if_neg (Ne.symm hne)]
    rfl
  rw [get?_of_ne_nil hp, get?_of_ne_nil hp, put, List.lookup_append]
  by_cases heq : p = place
  · subst heq
    have hnone : (t.entries.filter fun x => x.1 ≠ p).lookup p = none :=
      lookup_eq_none fun x hx => by simpa using (List.mem_filter.1 hx).2
    rw [if_pos rfl, hnone]
    simp
  · rw [if_neg heq, lookup_filter (fun _ => by simpa using heq)]
    have hother : (p == place) = false := by simpa using heq
    simp [List.lookup_cons, hother]

/-- **Taking away** a place and all below it changes nothing elsewhere. -/
theorem get?_prune {p : Place} (hp : p ≠ []) :
    (t.prune place).get? p = if place <+: p then none else t.get? p := by
  rw [get?_of_ne_nil hp, get?_of_ne_nil hp, prune]
  by_cases hbelow : place <+: p
  · rw [if_pos hbelow]
    refine lookup_eq_none fun x hx heq => ?_
    have hkept := (List.mem_filter.1 hx).2
    rw [heq] at hkept
    simp [List.isPrefixOf_iff_prefix.2 hbelow] at hkept
  · rw [if_neg hbelow]
    have hkept : (!place.isPrefixOf p) = true := by
      rw [Bool.not_eq_true', Bool.eq_false_iff]
      exact fun h => hbelow (List.isPrefixOf_iff_prefix.1 h)
    exact lookup_filter (fun _ => hkept) _

/-- Taking away a place takes away what was written below it. -/
theorem prune_put {below : Place} (habove : place <+: below) :
    (t.put below e).prune place = t.prune place := by
  have hkept : ∀ x : Place × Entry α, (!place.isPrefixOf x.1) = true → x.1 ≠ below := by
    intro x hx heq
    rw [heq, List.isPrefixOf_iff_prefix.2 habove] at hx
    cases hx
  have hfilter : (t.entries.filter fun x => x.1 ≠ below).filter (fun x => !place.isPrefixOf x.1) =
      t.entries.filter fun x => !place.isPrefixOf x.1 := by
    rw [List.filter_filter]
    refine List.filter_congr fun x _ => ?_
    by_cases hx : (!place.isPrefixOf x.1) = true
    · simp [hx, hkept x hx]
    · simp [hx]
  have hgone : (!place.isPrefixOf below) = false := by
    simp [List.isPrefixOf_iff_prefix.2 habove]
  simp only [prune, put, List.filter_append, hfilter]
  rw [List.filter_cons_of_neg (by rw [hgone]; decide)]
  simp

/-- Taking away a place at which and below which nothing stands changes nothing. -/
theorem prune_eq_self (hfree : ∀ x ∈ t.entries, ¬ place <+: x.1) : t.prune place = t := by
  have hprune : t.entries.filter (fun x => !place.isPrefixOf x.1) = t.entries := by
    refine List.filter_eq_self.2 fun x hx => ?_
    rw [Bool.not_eq_true', Bool.eq_false_iff]
    exact fun h => hfree x hx (List.isPrefixOf_iff_prefix.1 h)
  simp only [prune, hprune]

/-! ## Following a path -/

/-- **The end of a path** is its last stretch that is not empty, in the directory that the stretches
before it lead to. -/
theorem tip_eq_last {p : Path} {directory : Place} {part : List Char} {slash : Bool}
    (h : t.tip p = .ok (.last directory part slash)) :
    vet p = .ok () ∧ t.holdsDirectory directory = true ∧
      slash = decide ((t.outset p).2.getLast? = some []) ∧
      ∃ before, (t.outset p).2.reverse.dropWhile List.isEmpty = part :: before ∧
        t.walk (t.outset p).1 before.reverse = .ok directory := by
  unfold tip at h
  split at h
  · cases h
  rename_i hvet
  dsimp only at h
  split at h
  · cases h
  rename_i last before hparts
  split at h
  · cases h
  rename_i reached hwalk
  by_cases hholds : t.holdsDirectory reached = true
  · rw [if_pos hholds] at h
    cases h
    exact ⟨hvet, hholds, rfl, before, hparts, hwalk⟩
  · rw [if_neg hholds] at h
    cases h

/-- Several stretches are followed one after the other. -/
theorem walk_append (t : FileTree α) (place : Place) (front back : List (List Char)) :
    t.walk place (front ++ back) =
      match t.walk place front with
      | .ok next => t.walk next back
      | .error f => .error f := by
  induction front generalizing place with
  | nil => rfl
  | cons part rest ih =>
    rw [List.cons_append, walk, walk]
    cases t.enter place part with
    | error f => rfl
    | ok next => exact ih next

theorem holdsDirectory_iff : t.holdsDirectory place = true ↔ t.get? place = some .directory := by
  unfold holdsDirectory
  split
  · rename_i h
    simp [h]
  · rename_i h
    simpa using h

/-- The stretches of a path around the last one that is not empty. -/
theorem eq_append_of_dropWhile {parts before : List (List Char)} {part : List Char}
    (h : parts.reverse.dropWhile List.isEmpty = part :: before) :
    ∃ n, parts = before.reverse ++ part :: List.replicate n [] ∧ part ≠ [] ∧
      (parts.getLast? = some [] ↔ n ≠ 0) := by
  have hsplit := List.takeWhile_append_dropWhile (p := List.isEmpty) (l := parts.reverse)
  have hempty : parts.reverse.takeWhile List.isEmpty =
      List.replicate (parts.reverse.takeWhile List.isEmpty).length [] := by
    refine List.eq_replicate_iff.2 ⟨rfl, fun q hq => ?_⟩
    simpa using List.mem_takeWhile_imp hq
  have hpart : part ≠ [] := by
    have hhead := List.head?_dropWhile_not List.isEmpty parts.reverse
    rw [h] at hhead
    simpa using hhead
  generalize (parts.reverse.takeWhile List.isEmpty).length = n at hempty
  rw [h, hempty] at hsplit
  have hparts := congrArg List.reverse hsplit
  rw [List.reverse_reverse, List.reverse_append, List.reverse_cons, List.reverse_replicate,
    List.append_assoc, List.singleton_append] at hparts
  refine ⟨n, hparts.symm, hpart, ?_⟩
  rw [List.getLast?_eq_head?_reverse, ← hsplit]
  cases n with
  | zero => simp [hpart]
  | succ n => simp [List.replicate_succ]

/-- Following empty stretches stays in a directory. -/
theorem walk_replicate (n : Nat) (h : t.holdsDirectory place = true) :
    t.walk place (List.replicate n []) = .ok place := by
  induction n with
  | zero => rfl
  | succ n ih =>
    rw [List.replicate_succ, walk, enter, h]
    exact ih

/-- **A path leads to its end**, if something stands there. -/
theorem resolve_of_tip {p : Path} {directory : Place} {part : List Char} {slash : Bool}
    (h : t.tip p = .ok (.last directory part slash)) (hdots : isDots part = false)
    (hshort : ¬ maxNameBytes < (String.ofList part).utf8ByteSize)
    (hthere : (t.get? (directory ++ [String.ofList part])).isSome = true)
    (hslash : slash = true → t.holdsDirectory (directory ++ [String.ofList part]) = true) :
    t.resolve p = .ok (directory ++ [String.ofList part]) := by
  obtain ⟨hvet, hholds, hopen, before, hparts, hwalk⟩ := tip_eq_last h
  obtain ⟨n, hall, hne, hlast⟩ := eq_append_of_dropWhile hparts
  simp only [isDots, Bool.or_eq_false_iff, decide_eq_false_iff_not] at hdots
  have hidle : Path.isIdle part = false := by
    simp [Path.isIdle, hne, hdots.1]
  have henter : t.enter directory part = .ok (directory ++ [String.ofList part]) := by
    rw [enter, hholds, hidle, if_neg hdots.2]
    simp [hshort, hthere]
  rw [resolve, hvet, hall]
  dsimp only
  rw [walk_append, hwalk]
  dsimp only
  rw [walk, henter]
  dsimp only
  by_cases hn : n = 0
  · subst hn
    rfl
  · refine walk_replicate n (hslash ?_)
    rw [hopen, decide_eq_true_iff]
    exact hlast.2 hn

/-! ## Growing trees -/

/-- Whatever stands in the first tree stands in the second one, directories as directories. -/
structure Grows (t t' : FileTree α) : Prop where
  /-- Relative paths begin in the same place. -/
  current : t'.current = t.current
  /-- Directories stay. -/
  directory : ∀ {p : Place}, t.get? p = some .directory → t'.get? p = some .directory
  /-- Nothing goes away. -/
  node : ∀ {p : Place}, (t.get? p).isSome = true → (t'.get? p).isSome = true

namespace Grows

variable {t'' : FileTree α}

theorem refl (t : FileTree α) : t.Grows t := ⟨rfl, fun h => h, fun h => h⟩

theorem trans (h : t.Grows t') (h' : t'.Grows t'') : t.Grows t'' :=
  ⟨h'.current.trans h.current, fun hp => h'.directory (h.directory hp),
    fun hp => h'.node (h.node hp)⟩

/-- A tree grows when a node is written where no directory is lost. -/
theorem put (hne : place ≠ []) (hstays : t.get? place = some .directory → e = .directory) :
    t.Grows (t.put place e) := by
  refine ⟨rfl, ?_, ?_⟩
  · intro p hp
    rw [get?_put hne]
    split_ifs with heq
    · rw [hstays (heq ▸ hp)]
    · exact hp
  · intro p hp
    rw [get?_put hne]
    split_ifs
    · rfl
    · exact hp

variable (h : t.Grows t')
include h

theorem holdsDirectory {p : Place} (hp : t.holdsDirectory p = true) :
    t'.holdsDirectory p = true :=
  holdsDirectory_iff.2 (h.directory (holdsDirectory_iff.1 hp))

/-- Every way that leads somewhere still leads there. -/
theorem enter {p next : Place} {part : List Char} (heq : t.enter p part = .ok next) :
    t'.enter p part = .ok next := by
  unfold FileTree.enter at heq ⊢
  by_cases hp : t.holdsDirectory p = true
  · rw [hp] at heq
    rw [h.holdsDirectory hp]
    dsimp only at heq ⊢
    split_ifs at heq ⊢
    · exact heq
    · exact heq
    · exact heq
    · rename_i hgone hthere
      exact absurd (h.node hthere) hgone
  · rw [Bool.not_eq_true] at hp
    rw [hp] at heq
    cases heq

theorem walk {p next : Place} {parts : List (List Char)} (heq : t.walk p parts = .ok next) :
    t'.walk p parts = .ok next := by
  induction parts generalizing p with
  | nil => exact heq
  | cons part rest ih =>
    rw [FileTree.walk] at heq ⊢
    split at heq
    · rename_i reached hreached
      rw [h.enter hreached]
      exact ih heq
    · cases heq

theorem outset (p : Path) : t'.outset p = t.outset p := by
  unfold FileTree.outset
  rw [h.current]

theorem resolve {p : Path} (heq : t.resolve p = .ok place) : t'.resolve p = .ok place := by
  unfold FileTree.resolve at heq ⊢
  rw [h.outset]
  split at heq
  · cases heq
  · exact h.walk heq

theorem isDirectory {p : Path} (heq : t.isDirectory p = true) : t'.isDirectory p = true := by
  unfold FileTree.isDirectory at heq ⊢
  split at heq
  · rename_i place hplace
    rw [h.resolve hplace]
    exact h.holdsDirectory heq
  · cases heq

theorem tip {p : Path} {directory : Place} {part : List Char} {slash : Bool}
    (heq : t.tip p = .ok (.last directory part slash)) :
    t'.tip p = .ok (.last directory part slash) := by
  obtain ⟨hvet, hholds, rfl, before, hparts, hwalk⟩ := tip_eq_last heq
  unfold FileTree.tip
  rw [hvet, h.outset]
  dsimp only
  rw [hparts]
  dsimp only
  rw [h.walk hwalk]
  dsimp only
  rw [h.holdsDirectory hholds]
  rfl

end Grows

/-- **A file that is written** stands where its path leads from then on. -/
theorem writeFile_eq_ok {p : Path} {content : α} (h : t.writeFile p content = .ok t') :
    ∃ directory name, t.get? directory = some .directory ∧
      t.get? (directory ++ [name]) ≠ some .directory ∧
      t' = t.put (directory ++ [name]) (.file content) ∧
      t'.resolve p = .ok (directory ++ [name]) := by
  unfold writeFile at h
  dsimp only at h
  split at h
  · cases h
  · cases h
  rename_i directory part slash htip
  split_ifs at h with hdots hlong hdirectory
  cases h
  rw [Bool.or_eq_true, not_or, Bool.not_eq_true, Bool.not_eq_true] at hdots
  obtain ⟨hdots, rfl⟩ := hdots
  have hne : directory ++ [String.ofList part] ≠ [] := by simp
  have hfree : t.get? (directory ++ [String.ofList part]) ≠ some .directory := by
    rwa [Ne, ← holdsDirectory_iff]
  have hgrows : t.Grows (t.put (directory ++ [String.ofList part]) (.file content)) :=
    .put hne fun hdir => absurd hdir hfree
  refine ⟨directory, String.ofList part, holdsDirectory_iff.1 (tip_eq_last htip).2.1, hfree, rfl,
    resolve_of_tip (hgrows.tip htip) hdots hlong ?_ (fun h => nomatch h)⟩
  rw [get?_put hne, if_pos rfl]
  rfl

/-- **A file that is written is read back.** -/
theorem read?_writeFile {p : Path} {content : α} (h : t.writeFile p content = .ok t') :
    t'.read? p = some content := by
  obtain ⟨directory, name, -, -, rfl, hresolve⟩ := writeFile_eq_ok h
  rw [read?, hresolve]
  dsimp only
  rw [get?_put (by simp), if_pos rfl]

/-- **Whether a file can be written** does not depend on its content. -/
theorem exists_writeFile {p : Path} {content : α} (h : t.writeFile p content = .ok t')
    (content' : α) : ∃ t'', t.writeFile p content' = .ok t'' := by
  unfold writeFile at h ⊢
  dsimp only at h ⊢
  split at h
  · cases h
  · cases h
  split_ifs at h
  split_ifs
  exact ⟨_, rfl⟩

/-! ## Writing on a device -/

/-- What a write on a device can come to. -/
inductive WritesOn (disk : Disk α) (t : FileTree α) (p : Path) (content : α) :
    FileTree α × Except Fault Unit → Prop where
  /-- The file is written. -/
  | whole {t' : FileTree α} (free : disk.stops t p content = none)
      (written : t.writeFile p content = .ok t') : WritesOn disk t p content (t', .ok ())
  /-- Nothing is touched. -/
  | untouched (f : Fault) : WritesOn disk t p content (t, .error f)
  /-- The file holds what it came to before the device stopped. -/
  | partly {t' : FileTree α} {left : α} {f : Fault}
      (stopped : disk.stops t p content = some (some left, f))
      (written : t.writeFile p left = .ok t') : WritesOn disk t p content (t', .error f)

/-- **Every write** comes to one of these. -/
theorem writesOn (disk : Disk α) (t : FileTree α) (p : Path) (content : α) :
    WritesOn disk t p content (t.writeOn disk p content) := by
  unfold writeOn
  split
  · exact .untouched _
  · rename_i hstops
    split
    · rename_i hwritten
      exact .partly hstops hwritten
    · exact .untouched _
  · rename_i hfree
    split
    · rename_i hwritten
      exact .whole hfree hwritten
    · exact .untouched _

theorem writeOn_eq_ok {disk : Disk α} {p : Path} {content : α} :
    t.writeOn disk p content = (t', .ok ()) ↔
      disk.stops t p content = none ∧ t.writeFile p content = .ok t' := by
  constructor
  · intro h
    have hwrites := writesOn disk t p content
    rw [h] at hwrites
    cases hwrites with
    | whole hfree hwritten => exact ⟨hfree, hwritten⟩
  · rintro ⟨hfree, hwritten⟩
    rw [writeOn, hfree]
    dsimp only
    rw [hwritten]

/-- What a failed write leaves: the tree as it was, or a file that is not what it should be. -/
theorem writeOn_eq_error {disk : Disk α} {p : Path} {content : α} {f : Fault}
    (h : t.writeOn disk p content = (t', .error f)) :
    t' = t ∨ ∃ left, t.writeFile p left = .ok t' := by
  have hwrites := writesOn disk t p content
  rw [h] at hwrites
  cases hwrites with
  | untouched => exact .inl rfl
  | partly _ hwritten => exact .inr ⟨_, hwritten⟩

/-! ## Well-formed trees -/

/-- Every node but the root stands in a directory. -/
def WellFormed (t : FileTree α) : Prop :=
  ∀ x ∈ t.entries, x.1 ≠ [] ∧ t.get? x.1.dropLast = some .directory

namespace WellFormed

/-- All that lies above a node is a directory. -/
theorem get?_of_above (h : t.WellFormed) {above : Place} (hthere : (t.get? place).isSome = true)
    (habove : above <+: place) (hne : above ≠ place) : t.get? above = some .directory := by
  -- going up from the node, one directory at a time
  induction place using List.reverseRecOn with
  | nil => exact absurd (List.prefix_nil.1 habove) hne
  | append_singleton directory name ih =>
    obtain ⟨e, he⟩ := Option.isSome_iff_exists.1 hthere
    have hdirectory := (h _ (mem_of_get?_eq_some he (by simp))).2
    rw [List.dropLast_concat] at hdirectory
    rcases List.prefix_concat_iff.1 habove with heq | habove
    · exact absurd heq hne
    by_cases heq : above = directory
    · rw [heq, hdirectory]
    · exact ih (by rw [hdirectory]; rfl) habove heq

/-- There is a way up from every directory. -/
theorem get?_dropLast (h : t.WellFormed) (hdirectory : t.get? place = some .directory) :
    t.get? place.dropLast = some .directory := by
  by_cases hroot : place.dropLast = place
  · rw [hroot, hdirectory]
  · exact h.get?_of_above (by rw [hdirectory]; rfl) (List.dropLast_prefix place) hroot

/-- Nothing stands below a place where nothing stands. -/
theorem nothing_below (h : t.WellFormed) (hnone : t.get? place = none) :
    ∀ x ∈ t.entries, ¬ place <+: x.1 := by
  intro x hx habove
  by_cases heq : place = x.1
  · have hthere := isSome_get?_of_mem hx
    rw [← heq, hnone] at hthere
    cases hthere
  · have hdirectory := h.get?_of_above (isSome_get?_of_mem hx) habove heq
    rw [hnone] at hdirectory
    cases hdirectory

/-- A tree without a node is well-formed. -/
theorem nil (current : Place) : (⟨[], current⟩ : FileTree α).WellFormed :=
  fun _ hx => absurd hx List.not_mem_nil

/-- A node that is added in a directory, where no other directory stood. -/
theorem put (h : t.WellFormed) {directory : Place} {name : String}
    (hin : t.get? directory = some .directory)
    (hstays : t.get? (directory ++ [name]) = some .directory → e = .directory) :
    (t.put (directory ++ [name]) e).WellFormed := by
  have hne : directory ++ [name] ≠ [] := by simp
  have hkeeps : ∀ p, t.get? p = some .directory →
      (t.put (directory ++ [name]) e).get? p = some .directory := by
    intro p hp
    rw [get?_put hne]
    by_cases heq : p = directory ++ [name]
    · rw [if_pos heq, hstays (heq ▸ hp)]
    · rw [if_neg heq, hp]
  intro x hx
  rcases List.mem_append.1 hx with hold | hnew
  · obtain ⟨hx, -⟩ := List.mem_filter.1 hold
    exact ⟨(h x hx).1, hkeeps _ (h x hx).2⟩
  · obtain rfl := List.mem_singleton.1 hnew
    refine ⟨hne, ?_⟩
    rw [List.dropLast_concat]
    exact hkeeps _ hin

/-- A place that is taken away with all below it. -/
theorem prune (h : t.WellFormed) (place : Place) : (t.prune place).WellFormed := by
  intro x hx
  obtain ⟨hx, hkept⟩ := List.mem_filter.1 hx
  obtain ⟨hne, hdir⟩ := h x hx
  refine ⟨hne, ?_⟩
  by_cases hroot : x.1.dropLast = []
  · rw [hroot, get?_nil]
  rw [get?_prune hroot, if_neg, hdir]
  intro habove
  have habove : place <+: x.1 := habove.trans (List.dropLast_prefix x.1)
  simp [List.isPrefixOf_iff_prefix.2 habove] at hkept

end WellFormed

/-! ## What all operations keep -/

/-- A name that a node can have: no dots, and not too long. -/
def LegalName (name : String) : Prop :=
  isDots name.toList = false ∧ name.utf8ByteSize ≤ maxNameBytes

/-- A property of trees that no operation destroys: neither adding a node with a legal name in a
directory, unless it takes the place of a directory, nor taking a place away. -/
structure KeptByOperations (Q : FileTree α → Prop) : Prop where
  /-- Adding a node. -/
  put : ∀ {t : FileTree α} {directory : Place} {name : String} {e : Entry α}, Q t →
    t.get? directory = some .directory → LegalName name →
    (t.get? (directory ++ [name]) = some .directory → e = .directory) →
    Q (t.put (directory ++ [name]) e)
  /-- Taking a place away. -/
  prune : ∀ {t : FileTree α} (place : Place), Q t → Q (t.prune place)

namespace KeptByOperations

variable {Q : FileTree α → Prop}

/-- The last stretch of a path stands in a directory. -/
theorem get?_of_tip {p : Path} {directory : Place} {part : List Char} {slash : Bool}
    (heq : t.tip p = .ok (.last directory part slash)) : t.get? directory = some .directory :=
  holdsDirectory_iff.1 (tip_eq_last heq).2.1

theorem legalName_ofList {part : List Char} (hdots : ¬ isDots part = true)
    (hlong : ¬ maxNameBytes < (String.ofList part).utf8ByteSize) :
    LegalName (String.ofList part) := by
  refine ⟨?_, Nat.le_of_not_lt hlong⟩
  rw [String.toList_ofList]
  simpa using hdots

theorem makeDirectory (h : KeptByOperations Q) (ht : Q t) {p : Path}
    (heq : t.makeDirectory p = .ok t') : Q t' := by
  unfold FileTree.makeDirectory at heq
  dsimp only at heq
  split at heq
  · cases heq
  · cases heq
  rename_i directory part slash htip
  split_ifs at heq with hdots hlong hthere
  cases heq
  exact h.put ht (get?_of_tip htip) (legalName_ofList hdots hlong) fun _ => rfl

theorem makeAlong (h : KeptByOperations Q) (ht : Q t) (ps : List Path) : Q (t.makeAlong ps).1 := by
  induction ps with
  | nil => exact ht
  | cons p above ih =>
    rw [FileTree.makeAlong]
    split
    · exact ht
    split
    · rename_i hmade
      exact h.makeDirectory ht hmade
    · split
      · rename_i habove
        rw [habove] at ih
        exact ih
      · rename_i habove
        rw [habove] at ih
        split
        · rename_i hmade
          exact h.makeDirectory ih hmade
        · exact ih
    · exact ht

theorem makeDirectories (h : KeptByOperations Q) (ht : Q t) (p : Path) :
    Q (t.makeDirectories p).1 :=
  h.makeAlong ht _

theorem writeFile (h : KeptByOperations Q) (ht : Q t) {p : Path} {content : α}
    (heq : t.writeFile p content = .ok t') : Q t' := by
  unfold FileTree.writeFile at heq
  dsimp only at heq
  split at heq
  · cases heq
  · cases heq
  rename_i directory part slash htip
  split_ifs at heq with hdots hlong hno
  cases heq
  rw [Bool.or_eq_true, not_or] at hdots
  refine h.put ht (get?_of_tip htip) (legalName_ofList hdots.1 hlong) fun hdir => ?_
  exact absurd (holdsDirectory_iff.2 hdir) hno

theorem removeFile (h : KeptByOperations Q) (ht : Q t) (p : Path) : Q (t.removeFile p) := by
  unfold FileTree.removeFile
  repeat' split
  · exact h.prune _ ht
  · exact ht
  · exact ht

theorem removeTree (h : KeptByOperations Q) (ht : Q t) (p : Path) : Q (t.removeTree p) := by
  unfold FileTree.removeTree
  repeat' split
  · exact h.prune _ ht
  · exact ht
  · exact ht

theorem prepare (h : KeptByOperations Q) (ht : Q t) (p : Path) (e : Entry α) :
    Q (t.prepare p e) := by
  cases e with
  | directory => exact h.makeDirectories ht p
  | file content =>
    unfold FileTree.prepare
    cases p.parent? with
    | none =>
      simp only
      split
      · rename_i hwritten
        exact h.writeFile ht hwritten
      · exact ht
    | some above =>
      have hmade := h.makeDirectories ht above
      simp only
      split
      · rename_i hwritten
        exact h.writeFile hmade hwritten
      · exact hmade

end KeptByOperations

namespace WellFormed

theorem kept : KeptByOperations fun t : FileTree α => t.WellFormed :=
  ⟨fun h hin _ hstays => h.put hin hstays, fun place h => h.prune place⟩

/-- **A prepared tree is well-formed**, whatever it was asked to hold. -/
theorem prepare (h : t.WellFormed) (p : Path) (e : Entry α) : (t.prepare p e).WellFormed :=
  kept.prepare h p e

end WellFormed

end FileTree

end Tagging
