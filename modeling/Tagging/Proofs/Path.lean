import Mathlib.Data.List.Basic
import Mathlib.Data.List.TakeWhile
import Mathlib.Tactic.SplitIfs
import Tagging.Path

/-!
# The steps of a path

What a path means is told by the stretches between its separators that are neither empty nor a
single dot, and by whether it begins at the root.

* `Path.cutSlashes_append`, `Path.cutSlashes_joinSlashes` — cutting at separators;
* `Path.steps` — the stretches that mean something, `Path.components_eq` the meaning told by them;
* `Path.Ordinary` — names that lead to what they name;
* `Path.components_along` — a path along ordinary names and then on;
* `Path.steps_ofNames`, `Path.steps_join`, `Path.steps_of_parent?` — **the steps of paths that are
  built** from names, from two paths, and by leaving out the last step;
* `Path.exists_steps_of_fileName?`, `Path.ne_stemOf_append` — the name in which a path ends, and
  names made from its stem.
-/

namespace Tagging

namespace Path

/-! ## Cutting and joining -/

theorem cutSlashes_ne_nil (cs : List Char) : cutSlashes cs ≠ [] := by
  cases cs with
  | nil => simp [cutSlashes]
  | cons c cs =>
    simp only [cutSlashes]
    split
    · simp
    · split <;> simp

theorem cutSlashes_slash (cs : List Char) : cutSlashes ('/' :: cs) = [] :: cutSlashes cs := by
  simp [cutSlashes]

/-- No stretch holds a separator. -/
theorem not_mem_of_mem_cutSlashes {cs part : List Char} (h : part ∈ cutSlashes cs) :
    '/' ∉ part := by
  induction cs generalizing part with
  | nil =>
    obtain rfl : part = [] := by simpa [cutSlashes] using h
    simp
  | cons c cs ih =>
    by_cases hc : c = '/'
    · subst hc
      rw [cutSlashes_slash] at h
      rcases List.mem_cons.1 h with rfl | h
      · simp
      · exact ih h
    · rw [cutSlashes, if_neg hc] at h
      cases hcut : cutSlashes cs with
      | nil => exact absurd hcut (cutSlashes_ne_nil cs)
      | cons first more =>
        rw [hcut] at h ih
        rcases List.mem_cons.1 h with rfl | h
        · rw [List.mem_cons, not_or]
          exact ⟨Ne.symm hc, ih (by simp)⟩
        · exact ih (List.mem_cons_of_mem _ h)

theorem cutSlashes_of_not_mem {cs : List Char} (h : '/' ∉ cs) : cutSlashes cs = [cs] := by
  induction cs with
  | nil => rfl
  | cons c cs ih =>
    rw [List.mem_cons, not_or] at h
    rw [cutSlashes, if_neg (Ne.symm h.1), ih h.2]

/-- **Two texts with a separator between them** are cut one after the other. -/
theorem cutSlashes_append (cs ds : List Char) :
    cutSlashes (cs ++ '/' :: ds) = cutSlashes cs ++ cutSlashes ds := by
  induction cs with
  | nil => simp [cutSlashes]
  | cons c cs ih =>
    by_cases hc : c = '/'
    · subst hc
      rw [List.cons_append, cutSlashes_slash, cutSlashes_slash, ih, List.cons_append]
    · rw [List.cons_append, cutSlashes, cutSlashes, if_neg hc, if_neg hc, ih]
      cases hcut : cutSlashes cs with
      | nil => exact absurd hcut (cutSlashes_ne_nil cs)
      | cons first more => rfl

/-- Text without a separator goes with the first stretch behind it. -/
theorem cutSlashes_append_of_not_mem {cs ds first : List Char} {more : List (List Char)}
    (hcs : '/' ∉ cs) (hds : cutSlashes ds = first :: more) :
    cutSlashes (cs ++ ds) = (cs ++ first) :: more := by
  induction cs with
  | nil => exact hds
  | cons c rest ih =>
    rw [List.mem_cons, not_or] at hcs
    rw [List.cons_append, cutSlashes, if_neg (Ne.symm hcs.1), ih hcs.2]
    rfl

/-- **Parts that are joined** are cut apart again. -/
theorem cutSlashes_joinSlashes {parts : List (List Char)} (hne : parts ≠ [])
    (h : ∀ part ∈ parts, '/' ∉ part) : cutSlashes (joinSlashes parts) = parts := by
  induction parts with
  | nil => exact absurd rfl hne
  | cons part more ih =>
    cases more with
    | nil => exact cutSlashes_of_not_mem (h part (by simp))
    | cons next more =>
      show cutSlashes (part ++ '/' :: joinSlashes (next :: more)) = _
      rw [cutSlashes_append, cutSlashes_of_not_mem (h part (by simp)),
        ih (by simp) (fun q hq => h q (List.mem_cons_of_mem _ hq)), List.singleton_append]

theorem joinSlashes_cons (part : List Char) (more : List (List Char)) :
    joinSlashes (part :: more) = part ++ more.flatMap fun next => '/' :: next := by
  induction more generalizing part with
  | nil => simp [joinSlashes]
  | cons next more ih =>
    show part ++ '/' :: joinSlashes (next :: more) = _
    rw [ih, List.flatMap_cons, List.cons_append]

/-- A change of characters that keeps separators changes the parts between them. -/
theorem map_joinSlashes {f : Char → Char} (hf : f '/' = '/') (parts : List (List Char)) :
    (joinSlashes parts).map f = joinSlashes (parts.map (List.map f)) := by
  cases parts with
  | nil => rfl
  | cons part more =>
    rw [List.map_cons, joinSlashes_cons, joinSlashes_cons, List.map_append, List.map_flatMap,
      List.flatMap_map]
    simp only [List.map_cons, hf]

/-- What is cut apart is joined again. -/
theorem joinSlashes_cutSlashes (cs : List Char) : joinSlashes (cutSlashes cs) = cs := by
  induction cs with
  | nil => rfl
  | cons c cs ih =>
    obtain ⟨first, more, hcut⟩ := List.exists_cons_of_ne_nil (cutSlashes_ne_nil cs)
    rw [hcut, joinSlashes_cons] at ih
    by_cases hc : c = '/'
    · subst hc
      rw [cutSlashes_slash, hcut, joinSlashes_cons, List.nil_append, List.flatMap_cons,
        List.cons_append, ih]
    · rw [cutSlashes, if_neg hc, hcut]
      dsimp only
      rw [joinSlashes_cons, List.cons_append, ih]

/-- A last part that is cut apart is joined as it was. -/
theorem joinSlashes_concat (front : List (List Char)) (cs : List Char) :
    joinSlashes (front ++ [cs]) = joinSlashes (front ++ cutSlashes cs) := by
  cases front with
  | nil => exact (joinSlashes_cutSlashes cs).symm
  | cons part front =>
    obtain ⟨first, more, hcut⟩ := List.exists_cons_of_ne_nil (cutSlashes_ne_nil cs)
    have hjoined := joinSlashes_cutSlashes cs
    rw [hcut, joinSlashes_cons] at hjoined
    rw [List.cons_append, List.cons_append, joinSlashes_cons, joinSlashes_cons, List.flatMap_append,
      List.flatMap_append, hcut, List.flatMap_singleton, List.flatMap_cons, List.cons_append,
      hjoined]

/-- A stretch between separators is a part of the text. -/
theorem isInfix_of_mem_cutSlashes {cs part : List Char} (h : part ∈ cutSlashes cs) :
    part <:+: cs := by
  rw [← joinSlashes_cutSlashes cs]
  obtain ⟨first, more, hcut⟩ := List.exists_cons_of_ne_nil (cutSlashes_ne_nil cs)
  rw [hcut] at h ⊢
  rw [joinSlashes_cons]
  rcases List.mem_cons.1 h with rfl | h
  · exact (List.prefix_append _ _).isInfix
  · obtain ⟨front, back, rfl⟩ := List.append_of_mem h
    refine ⟨first ++ front.flatMap (fun next => '/' :: next) ++ ['/'],
      back.flatMap (fun next => '/' :: next), ?_⟩
    simp

/-! ## Steps -/

/-- Does a stretch between separators mean something? -/
def isStep (part : List Char) : Bool := !isIdle part

theorem isStep_iff {part : List Char} : isStep part = true ↔ part ≠ [] ∧ part ≠ ['.'] := by
  simp [isStep, isIdle]

/-- The stretches of a path that mean something. -/
def steps (p : Path) : List (List Char) := (cutSlashes p.text.toList).filter isStep

/-- What such a stretch means. -/
def componentOfStep (part : List Char) : Component :=
  if part = ['.', '.'] then .up else .name (String.ofList part)

theorem filterMap_componentOf (parts : List (List Char)) :
    parts.filterMap componentOf = (parts.filter isStep).map componentOfStep := by
  induction parts with
  | nil => rfl
  | cons part rest ih =>
    by_cases hidle : isIdle part = true
    · have hstep : isStep part = false := by simp [isStep, hidle]
      rw [List.filterMap_cons_none (by rw [componentOf, if_pos hidle]), ih,
        List.filter_cons_of_neg (by simp [hstep])]
    · have hstep : isStep part = true := by simpa [isStep] using hidle
      have hsome : componentOf part = some (componentOfStep part) := by
        rw [componentOf, if_neg hidle, componentOfStep]
        split_ifs <;> rfl
      rw [List.filterMap_cons_some hsome, ih, List.filter_cons_of_pos hstep, List.map_cons]

/-- The stretches of a path, told by how it begins. -/
theorem cutSlashes_eq (p : Path) : cutSlashes p.text.toList =
    match p.split with
    | (.root, parts) => [] :: parts
    | (.here, parts) => ['.'] :: parts
    | (.plain, parts) => parts := by
  unfold split
  cases hcut : cutSlashes p.text.toList with
  | nil => rfl
  | cons first rest =>
    match first, rest with
    | [], [] => rfl
    | [], _ :: _ => rfl
    | c :: cs, rest =>
      by_cases hdot : c = '.' ∧ cs = []
      · obtain ⟨rfl, rfl⟩ := hdot
        rfl
      · split <;> rename_i heq <;> split at heq
        all_goals simp_all

theorem steps_eq_filter (p : Path) : p.steps = p.split.2.filter isStep := by
  have hcut := p.cutSlashes_eq
  unfold steps
  rcases hsplit : p.split with ⟨start, parts⟩
  rw [hsplit] at hcut
  rw [hcut]
  cases start with
  | root => exact List.filter_cons_of_neg (by decide)
  | here => exact List.filter_cons_of_neg (by decide)
  | plain => rfl

/-- **What a path means** is told by its steps. -/
theorem components_eq (p : Path) :
    p.components = p.split.1.component?.toList ++ p.steps.map componentOfStep := by
  rw [steps_eq_filter, ← filterMap_componentOf]
  rfl

/-- A path begins at the root if its first stretch is empty and not the only one. -/
theorem isAbsolute_iff (p : Path) :
    p.isAbsolute = true ↔ ∃ part more, cutSlashes p.text.toList = [] :: part :: more := by
  unfold isAbsolute
  cases htext : p.text.toList with
  | nil => simp [cutSlashes]
  | cons c cs =>
    obtain ⟨part, more, hcut⟩ := List.exists_cons_of_ne_nil (cutSlashes_ne_nil cs)
    by_cases hc : c = '/'
    · subst hc
      simp [cutSlashes_slash, hcut]
    · -- the first stretch begins with the character
      simp [cutSlashes, hc, hcut]

theorem split_eq_root_iff (p : Path) : p.split.1 = .root ↔ p.isAbsolute = true := by
  rw [isAbsolute_iff, split]
  split
  · rename_i part more hcut
    simp [hcut]
  · rename_i more hcut
    simp [hcut]
  · rename_i hno _
    simp only [reduceCtorEq, false_iff, not_exists]
    exact hno

/-! ## Names -/

/-- A name that leads to what it names: it is neither empty nor a single or double dot, and it holds
no separator. -/
structure Ordinary (s : String) : Prop where
  /-- It means something. -/
  isStep : Path.isStep s.toList = true
  /-- It does not lead up. -/
  noUp : s.toList ≠ ['.', '.']
  /-- It is one stretch. -/
  noSlash : '/' ∉ s.toList

namespace Ordinary

variable {s : String}

theorem componentOfStep_eq (h : Ordinary s) : componentOfStep s.toList = .name s := by
  rw [componentOfStep, if_neg h.noUp, String.ofList_toList]

/-- A name stays ordinary with a text behind it that holds no separator. -/
theorem append (h : Ordinary s) {more : String} (hmore : '/' ∉ more.toList) :
    Ordinary (s ++ more) := by
  obtain ⟨hne, hdot⟩ := isStep_iff.1 h.isStep
  have hup := h.noUp
  refine ⟨isStep_iff.2 ⟨?_, ?_⟩, ?_, ?_⟩
  · simp [hne]
  · rw [String.toList_append]
    intro heq
    rcases List.append_eq_cons_iff.1 heq with ⟨hnil, -⟩ | ⟨rest, hs, hrest⟩
    · exact hne hnil
    · obtain ⟨rfl, -⟩ := List.append_eq_nil_iff.1 hrest.symm
      exact hdot hs
  · rw [String.toList_append]
    intro heq
    rcases List.append_eq_cons_iff.1 heq with ⟨hnil, -⟩ | ⟨rest, hs, hrest⟩
    · exact hne hnil
    · rcases List.append_eq_cons_iff.1 hrest.symm with ⟨rfl, -⟩ | ⟨rest', rfl, hrest'⟩
      · exact hdot hs
      · obtain ⟨rfl, -⟩ := List.append_eq_nil_iff.1 hrest'.symm
        exact hup hs
  · rw [String.toList_append, List.mem_append, not_or]
    exact ⟨h.noSlash, hmore⟩

end Ordinary

/-- The step that stands for a name is the name. -/
theorem eq_toList_of_componentOfStep {part : List Char} {s : String}
    (h : componentOfStep part = .name s) : s.toList = part ∧ part ≠ ['.', '.'] := by
  unfold componentOfStep at h
  split_ifs at h with hup
  cases h
  exact ⟨String.toList_ofList, hup⟩

/-- A name that a path leads along is one of its steps. -/
theorem mem_steps_of_mem_components {p : Path} {s : String} (h : .name s ∈ p.components) :
    s.toList ∈ p.steps ∧ s.toList ≠ ['.', '.'] := by
  rw [components_eq, List.mem_append] at h
  rcases h with hstart | hstep
  · cases hsplit : p.split.1 <;> simp [hsplit, Start.component?] at hstart
  · obtain ⟨part, hpart, heq⟩ := List.mem_map.1 hstep
    obtain ⟨rfl, hup⟩ := eq_toList_of_componentOfStep heq
    exact ⟨hpart, hup⟩

/-- **The names that a path leads along** are ordinary. -/
theorem ordinary_of_mem_components {p : Path} {s : String} (h : .name s ∈ p.components) :
    Ordinary s := by
  obtain ⟨hstep, hup⟩ := mem_steps_of_mem_components h
  obtain ⟨hcut, hmeans⟩ := List.mem_filter.1 hstep
  exact ⟨hmeans, hup, not_mem_of_mem_cutSlashes hcut⟩

/-- **A path along ordinary names** takes one step for each of them. -/
theorem steps_ofNames {names : List String} (h : ∀ s ∈ names, Ordinary s) :
    (ofNames names).steps = names.map String.toList := by
  cases names with
  | nil => rfl
  | cons first more =>
    have hcut : cutSlashes (ofNames (first :: more)).text.toList =
        (first :: more).map String.toList := by
      rw [ofNames, String.toList_ofList]
      refine cutSlashes_joinSlashes (by simp) ?_
      intro part hpart
      obtain ⟨s, hs, rfl⟩ := List.mem_map.1 hpart
      exact (h s hs).noSlash
    rw [steps, hcut, List.filter_eq_self]
    intro part hpart
    obtain ⟨s, hs, rfl⟩ := List.mem_map.1 hpart
    exact (h s hs).isStep

/-- Its text are the names with separators between them. -/
theorem toList_text_ofNames (name : String) (names : List String) :
    (ofNames (name :: names)).text.toList =
      name.toList ++ names.flatMap fun next => '/' :: next.toList := by
  rw [ofNames, String.toList_ofList, List.map_cons, joinSlashes_cons, List.flatMap_map]

section Along

variable {names : List String} {more : List (List Char)} (hne : names ≠ [])
  (h : ∀ s ∈ names, Ordinary s) (hmore : ∀ part ∈ more, '/' ∉ part)
include hne h hmore

/-- **A path along ordinary names and then on** is cut into these parts. -/
theorem split_along :
    (⟨String.ofList (joinSlashes (names.map String.toList ++ more))⟩ : Path).split =
      (.plain, names.map String.toList ++ more) := by
  obtain ⟨first, rest, rfl⟩ := List.exists_cons_of_ne_nil hne
  obtain ⟨hempty, hdot⟩ := isStep_iff.1 (h first (by simp)).isStep
  have hparts : ∀ part ∈ (first :: rest).map String.toList ++ more, '/' ∉ part := by
    rw [List.forall_mem_append, List.forall_mem_map]
    exact ⟨fun s hs => (h s hs).noSlash, hmore⟩
  rw [split, String.toList_ofList, cutSlashes_joinSlashes (by simp) hparts, List.map_cons,
    List.cons_append]
  split
  · rename_i heq
    exact absurd (List.cons.inj heq).1 hempty
  · rename_i heq
    exact absurd (List.cons.inj heq).1 hdot
  · rfl

/-- **It means** the names, and then what the other parts mean. -/
theorem components_along :
    (⟨String.ofList (joinSlashes (names.map String.toList ++ more))⟩ : Path).components =
      names.map .name ++ more.filterMap componentOf := by
  have hnames : (names.map String.toList).filterMap componentOf = names.map .name := by
    have hsteps : ∀ part ∈ names.map String.toList, isStep part = true :=
      List.forall_mem_map.2 fun s hs => (h s hs).isStep
    rw [filterMap_componentOf, List.filter_eq_self.2 hsteps, List.map_map]
    exact List.map_congr_left fun s hs => (h s hs).componentOfStep_eq
  rw [components, split_along hne h hmore]
  dsimp only
  rw [List.filterMap_append, hnames]
  rfl

/-- It does not begin at the root. -/
theorem isAbsolute_along :
    (⟨String.ofList (joinSlashes (names.map String.toList ++ more))⟩ : Path).isAbsolute =
      false := by
  rw [Bool.eq_false_iff, Ne, ← split_eq_root_iff, split_along hne h hmore]
  exact nofun

end Along

/-- A path along names begins with its first name. -/
theorem split_ofNames {names : List String} (h : ∀ s ∈ names, Ordinary s) :
    (ofNames names).split.1 = .plain := by
  cases names with
  | nil => rfl
  | cons first more =>
    have hsplit := split_along (List.cons_ne_nil first more) h (List.forall_mem_nil _)
    rw [List.append_nil] at hsplit
    rw [ofNames, hsplit]

theorem isAbsolute_ofNames {names : List String} (h : ∀ s ∈ names, Ordinary s) :
    (ofNames names).isAbsolute = false := by
  rw [Bool.eq_false_iff, Ne, ← split_eq_root_iff, split_ofNames h]
  simp

/-- **It means these names**, one after the other. -/
theorem components_ofNames {names : List String} (h : ∀ s ∈ names, Ordinary s) :
    (ofNames names).components = names.map .name := by
  rw [components_eq, split_ofNames h, steps_ofNames h, List.map_map]
  show names.map (componentOfStep ∘ String.toList) = _
  exact List.map_congr_left fun s hs => (h s hs).componentOfStep_eq

/-! ## Joined paths -/

theorem steps_empty : (⟨""⟩ : Path).steps = [] := rfl

/-- **A path that is taken from another one** takes the steps of both. -/
theorem steps_join {p q : Path} (hq : q.isAbsolute = false) :
    (p.join q).steps = p.steps ++ q.steps := by
  rw [join, hq, if_neg (by simp)]
  have hsteps : ∀ cs ds : List Char, (cutSlashes (cs ++ '/' :: ds)).filter isStep =
      (cutSlashes cs).filter isStep ++ (cutSlashes ds).filter isStep := by
    intro cs ds
    rw [cutSlashes_append, List.filter_append]
  cases hlast : p.text.toList.getLast? with
  | none =>
    have hp : p.steps = [] := by
      rw [steps, List.getLast?_eq_none_iff.1 hlast]
      rfl
    simp [hp]
  | some c =>
    obtain ⟨front, hfront⟩ := List.getLast?_eq_some_iff.1 hlast
    by_cases hc : c = '/'
    · subst hc
      have hp : p.steps = (cutSlashes front).filter isStep := by
        rw [steps, hfront, hsteps]
        simp [cutSlashes, isStep, isIdle]
      show ((cutSlashes (p.text ++ q.text).toList).filter isStep) = _
      rw [String.toList_append, hfront, List.append_assoc, List.singleton_append, hsteps, hp]
      rfl
    · split
      · rename_i heq
        cases heq
      · rename_i heq
        exact absurd (Option.some.inj heq) hc
      · show ((cutSlashes (p.text ++ "/" ++ q.text).toList).filter isStep) = _
        have htext : (p.text ++ "/" ++ q.text).toList =
            p.text.toList ++ '/' :: q.text.toList := by
          simp [String.toList_append]
        rw [htext, hsteps]
        rfl

/-- It begins where the first one begins. -/
theorem isAbsolute_join {p q : Path} (hq : q.isAbsolute = false) :
    (p.join q).isAbsolute = p.isAbsolute := by
  rw [join, hq, if_neg (by simp)]
  cases htext : p.text.toList with
  | nil =>
    have hp : p.isAbsolute = false := by rw [isAbsolute, htext]
    simp [hq, hp]
  | cons c cs =>
    have hsame : ∀ more : String, (⟨p.text ++ more⟩ : Path).isAbsolute = p.isAbsolute := by
      intro more
      simp only [isAbsolute, String.toList_append, htext, List.cons_append]
      split <;> rename_i heq
      · cases heq
        rfl
      · split
        · rename_i heq'
          cases heq'
          exact absurd rfl (heq _)
        · rfl
    split
    · rename_i heq
      simp at heq
    · exact hsame q.text
    · rw [String.append_assoc]
      exact hsame _

/-- What a path that is taken from another one is written behind. -/
theorem exists_join_eq (p : Path) :
    ∃ front, ∀ q : Path, q.isAbsolute = false → p.join q = ⟨front ++ q.text⟩ := by
  cases hlast : p.text.toList.getLast? with
  | none => exact ⟨"", fun q hq => by simp [join, hq, hlast]⟩
  | some c =>
    by_cases hc : c = '/'
    · exact ⟨p.text, fun q hq => by simp [join, hq, hlast, hc]⟩
    · refine ⟨p.text ++ "/", fun q hq => ?_⟩
      rw [join, hq, if_neg (by simp), hlast]
      split
      · rename_i heq
        cases heq
      · rename_i heq
        exact absurd (Option.some.inj heq) hc
      · rfl

/-- **A path below a name below another path** is written as the path along both. -/
theorem join_join_ofNames (p : Path) {name : String} (hname : Ordinary name) {names : List String}
    (hne : names ≠ []) (h : ∀ s ∈ names, Ordinary s) :
    (p.join (ofNames [name])).join (ofNames names) = p.join (ofNames (name :: names)) := by
  have hall : ∀ s ∈ name :: names, Ordinary s := List.forall_mem_cons.2 ⟨hname, h⟩
  obtain ⟨front, hfront⟩ := p.exists_join_eq
  rw [hfront _ (isAbsolute_ofNames (by simpa using hname)), hfront _ (isAbsolute_ofNames hall)]
  obtain ⟨hempty, -⟩ := isStep_iff.1 hname.isStep
  have hlast : (front ++ (ofNames [name]).text).toList.getLast? =
      some (name.toList.getLast hempty) := by
    simp [ofNames, joinSlashes, List.getLast?_append, List.getLast?_eq_some_getLast hempty]
  -- the name ends in no separator, so one is written behind it
  have hslash : name.toList.getLast hempty ≠ '/' := fun heq =>
    hname.noSlash (heq ▸ List.getLast_mem hempty)
  have htext : (ofNames (name :: names)).text =
      (ofNames [name]).text ++ "/" ++ (ofNames names).text := by
    obtain ⟨first, more, rfl⟩ := List.exists_cons_of_ne_nil hne
    rw [← String.toList_inj]
    simp [ofNames, joinSlashes]
  rw [join, isAbsolute_ofNames h, if_neg (by simp), hlast]
  split
  · rename_i heq
    cases heq
  · rename_i heq
    exact absurd (Option.some.inj heq) hslash
  · rw [htext, ← String.append_assoc, ← String.append_assoc]

/-! ## Parents -/

theorem filter_trimIdle (parts : List (List Char)) :
    (trimIdle parts).filter isStep = parts.filter isStep := by
  have hdrop : ∀ l : List (List Char), (l.dropWhile isIdle).filter isStep = l.filter isStep := by
    intro l
    induction l with
    | nil => rfl
    | cons part rest ih =>
      by_cases hidle : isIdle part = true
      · rw [List.dropWhile_cons_of_pos hidle, ih,
          List.filter_cons_of_neg (by simp [isStep, hidle])]
      · rw [List.dropWhile_cons_of_neg hidle]
  rw [trimIdle, List.filter_reverse, hdrop, ← List.filter_reverse, List.reverse_reverse]

theorem trimIdle_begins (parts : List (List Char)) : trimIdle parts <+: parts := by
  have hsuffix := List.dropWhile_suffix (l := parts.reverse) isIdle
  rw [trimIdle]
  simpa using List.reverse_prefix.2 hsuffix

/-- The steps of a path that is written from a beginning and its stretches. -/
theorem steps_write (start : Start) {parts : List (List Char)} (h : ∀ part ∈ parts, '/' ∉ part) :
    (⟨String.ofList (start.write parts)⟩ : Path).steps = parts.filter isStep := by
  have hjoined : (cutSlashes (joinSlashes parts)).filter isStep = parts.filter isStep := by
    by_cases hne : parts = []
    · subst hne
      rfl
    · rw [cutSlashes_joinSlashes hne h]
  rw [steps, String.toList_ofList]
  cases start with
  | root =>
    show (cutSlashes ('/' :: joinSlashes parts)).filter isStep = _
    rw [cutSlashes_slash, List.filter_cons_of_neg (by decide), hjoined]
  | here =>
    cases parts with
    | nil => rfl
    | cons part more =>
      show (cutSlashes (['.'] ++ '/' :: joinSlashes (part :: more))).filter isStep = _
      rw [cutSlashes_append, List.filter_append, hjoined]
      rfl
  | plain => exact hjoined

/-- The last stretch that means something, if there is one, and those before and behind it. -/
theorem trimIdle_cases (parts : List (List Char)) :
    (∃ front last idle, parts = front ++ last :: idle ∧ isStep last = true ∧
      (∀ part ∈ idle, isIdle part = true) ∧ (trimIdle parts).reverse = last :: front.reverse) ∨
    trimIdle parts = [] := by
  have hsplit : parts = trimIdle parts ++ (parts.reverse.takeWhile isIdle).reverse := by
    rw [trimIdle, ← List.reverse_append, List.takeWhile_append_dropWhile, List.reverse_reverse]
  cases hrev : (trimIdle parts).reverse with
  | nil => exact .inr (List.reverse_eq_nil_iff.1 hrev)
  | cons last rest =>
    left
    have htrim : trimIdle parts = rest.reverse ++ [last] := by
      rw [← List.reverse_reverse (trimIdle parts), hrev, List.reverse_cons]
    have hdrop : parts.reverse.dropWhile isIdle = last :: rest := by
      rw [← hrev, trimIdle, List.reverse_reverse]
    have hhead := List.head?_dropWhile_not isIdle parts.reverse
    rw [hdrop] at hhead
    refine ⟨rest.reverse, last, (parts.reverse.takeWhile isIdle).reverse, ?_,
      by simpa [isStep] using hhead, ?_, by simp⟩
    · rw [htrim, List.append_assoc, List.singleton_append] at hsplit
      exact hsplit
    · intro part hpart
      exact List.mem_takeWhile_imp (List.mem_reverse.1 hpart)

theorem parent?_eq (p : Path) : p.parent? =
    match (trimIdle p.split.2).reverse with
    | _ :: rest => some ⟨String.ofList (p.split.1.write (trimIdle rest.reverse))⟩
    | [] => if p.split.1 = .here then some ⟨""⟩ else none := rfl

theorem not_mem_of_mem_split {p : Path} {part : List Char} (h : part ∈ p.split.2) :
    '/' ∉ part := by
  have hcut := p.cutSlashes_eq
  suffices hmem : part ∈ cutSlashes p.text.toList from not_mem_of_mem_cutSlashes hmem
  rcases hsplit : p.split with ⟨start, parts⟩
  rw [hsplit] at hcut h
  rw [hcut]
  cases start with
  | root => exact List.mem_cons_of_mem _ h
  | here => exact List.mem_cons_of_mem _ h
  | plain => exact h

theorem not_mem_of_mem_trimIdle {p : Path} {front idle : List (List Char)} {last : List Char}
    (hparts : p.split.2 = front ++ last :: idle) {part : List Char} (h : part ∈ trimIdle front) :
    '/' ∉ part := by
  refine not_mem_of_mem_split (p := p) ?_
  rw [hparts]
  exact List.mem_append_left _ ((trimIdle_begins front).subset h)

theorem isAbsolute_eq_false {p : Path} (h : p.split.1 ≠ .root) : p.isAbsolute = false := by
  rw [Bool.eq_false_iff, Ne, ← split_eq_root_iff]
  exact h

/-- **The parent of a path** takes all its steps but the last. -/
theorem steps_of_parent? {p q : Path} (h : p.parent? = some q) : q.steps = p.steps.dropLast := by
  rw [steps_eq_filter p]
  rw [parent?_eq] at h
  rcases trimIdle_cases p.split.2 with ⟨front, last, idle, hparts, hlast, hidle, hrev⟩ | hnil
  · rw [hrev] at h
    cases h
    have hback : idle.filter isStep = [] := by
      refine List.filter_eq_nil_iff.2 fun part hpart => ?_
      simp [isStep, hidle part hpart]
    rw [List.reverse_reverse, steps_write _ fun _ => not_mem_of_mem_trimIdle hparts,
      filter_trimIdle, hparts, List.filter_append, List.filter_cons_of_pos hlast, hback,
      List.dropLast_concat]
  · rw [← filter_trimIdle, hnil]
    rw [hnil] at h
    simp only [List.reverse_nil] at h
    split_ifs at h
    cases h
    rfl

/-- It begins where the path begins. -/
theorem isAbsolute_of_parent? {p q : Path} (h : p.parent? = some q) :
    q.isAbsolute = p.isAbsolute := by
  rw [parent?_eq] at h
  rcases trimIdle_cases p.split.2 with ⟨front, last, idle, hparts, -, -, hrev⟩ | hnil
  · rw [hrev] at h
    cases h
    rw [List.reverse_reverse]
    cases hstart : p.split.1 with
    | root =>
      rw [p.split_eq_root_iff.1 hstart]
      simp [isAbsolute, Start.write]
    | here =>
      have hp : p.isAbsolute = false := isAbsolute_eq_false (by rw [hstart]; simp)
      rw [hp]
      cases trimIdle front <;> simp [isAbsolute, Start.write]
    | plain =>
      have hp : p.isAbsolute = false := isAbsolute_eq_false (by rw [hstart]; simp)
      rw [hp, Bool.eq_false_iff]
      -- the stretches of the parent are the first ones of the path
      intro habs
      obtain ⟨part, more, hcut⟩ := (isAbsolute_iff _).1 habs
      rw [String.toList_ofList] at hcut
      have hne : trimIdle front ≠ [] := by
        intro hnil
        rw [hnil] at hcut
        cases hcut
      change cutSlashes (joinSlashes (trimIdle front)) = _ at hcut
      rw [cutSlashes_joinSlashes hne fun _ => not_mem_of_mem_trimIdle hparts] at hcut
      obtain ⟨rest, hrest⟩ := trimIdle_begins front
      have hall := p.cutSlashes_eq
      rw [show p.split = (.plain, p.split.2) from Prod.ext hstart rfl] at hall
      dsimp only at hall
      rw [hparts, ← hrest, hcut] at hall
      rw [Bool.eq_false_iff, Ne, isAbsolute_iff] at hp
      exact hp ⟨part, _, hall⟩
  · rw [hnil] at h
    simp only [List.reverse_nil] at h
    split_ifs at h with hhere
    cases h
    have hp : p.isAbsolute = false := isAbsolute_eq_false (by rw [hhere]; simp)
    rw [hp]
    rfl

/-! ## Names at the end -/

/-- **The name in which a path ends** is its last step. -/
theorem exists_steps_of_fileName? {p : Path} {s : String} (h : p.fileName? = some s) :
    Ordinary s ∧ p.steps = p.steps.dropLast ++ [s.toList] := by
  unfold fileName? at h
  split at h
  case h_2 => cases h
  rename_i s' hlast
  cases h
  refine ⟨ordinary_of_mem_components (List.mem_of_getLast? hlast), ?_⟩
  rw [components_eq] at hlast
  have hne : p.steps ≠ [] := by
    intro hnil
    rw [hnil, List.map_nil, List.append_nil] at hlast
    cases hstart : p.split.1 <;> rw [hstart] at hlast <;> cases hlast
  have hsteps := List.dropLast_append_getLast hne
  rw [← hsteps, List.map_append, ← List.append_assoc, List.map_singleton,
    List.getLast?_append_of_ne_nil _ (by simp), List.getLast?_singleton,
    Option.some.injEq] at hlast
  rw [(eq_toList_of_componentOfStep hlast).1, hsteps]

/-- A path whose last step is an ordinary name ends in it. -/
theorem fileName?_of_steps {p : Path} {front : List (List Char)} {name : String}
    (hname : Ordinary name) (h : p.steps = front ++ [name.toList]) : p.fileName? = some name := by
  have hlast : p.components.getLast? = some (.name name) := by
    rw [components_eq, h, List.map_append, List.map_singleton, hname.componentOfStep_eq,
      ← List.append_assoc, List.getLast?_concat]
  rw [fileName?, hlast]

/-- A path with a step to lose has a parent. -/
theorem exists_parent?_of_steps {p : Path} (h : p.steps ≠ []) : ∃ q, p.parent? = some q := by
  rw [parent?_eq]
  rcases trimIdle_cases p.split.2 with ⟨front, last, idle, -, -, -, hrev⟩ | hnil
  · rw [hrev]
    exact ⟨_, rfl⟩
  · refine absurd ?_ h
    rw [steps_eq_filter, ← filter_trimIdle, hnil]
    rfl

/-- A name is its stem, or its stem with an extension. -/
theorem stemOf_cases (name : List Char) :
    stemOf name = name ∨ ∃ extension, name = stemOf name ++ '.' :: extension := by
  unfold stemOf
  have hsplit := List.takeWhile_append_dropWhile (p := (· ≠ '.')) (l := name.reverse)
  split
  · exact .inl rfl
  · exact .inl rfl
  · rename_i dot stem _ hdrop
    right
    have hdot := List.head?_dropWhile_not (· ≠ '.') name.reverse
    rw [hdrop] at hdot hsplit
    obtain rfl : dot = '.' := by simpa using hdot
    refine ⟨(name.reverse.takeWhile (· ≠ '.')).reverse, ?_⟩
    have hname := congrArg List.reverse hsplit
    rw [List.reverse_reverse, List.reverse_append, List.reverse_cons, List.append_assoc,
      List.singleton_append] at hname
    exact hname.symm

/-- **A stem with something behind it** that does not begin with a dot is another name. -/
theorem ne_stemOf_append (name : List Char) {c : Char} (hc : c ≠ '.') (more : List Char) :
    name ≠ stemOf name ++ c :: more := by
  intro heq
  rcases stemOf_cases name with hstem | ⟨extension, hname⟩
  · rw [hstem] at heq
    simpa using congrArg List.length heq
  · have htail := List.append_cancel_left (heq.symm.trans hname)
    exact hc (List.cons.inj htail).1

end Path

end Tagging
