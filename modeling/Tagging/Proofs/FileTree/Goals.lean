import Tagging.Proofs.FileTree
import Tagging.Proofs.Path

/-!
# Where paths lead

Without links there is one place at most to which a path can lead, whatever stands in the tree: each
double dot takes a name off, each other step adds one.  Adding and removing nodes is told by this
place.

* `FileTree.goal` — the place, `FileTree.resolve_eq_goal` the only one that is ever reached;
* `FileTree.goal_join_ofNames` — the place of a path along names below another path;
* `FileTree.makeDirectory_eq_ok`, `FileTree.writeFile_eq_put` — what is added, and where;
* `FileTree.AddsDirectories`, `FileTree.makeDirectories_adds` — **making directories** adds nothing
  else, and only on the way of the path;
* `FileTree.get?_of_resolve`, `FileTree.get?_of_onWay` — **all that lies on the way** to a node is a
  directory;
* `FileTree.WritesAt` — trees that differ in directories added and in certain files only.
-/

namespace Tagging

namespace FileTree

open Tagging.Path (isStep)

variable {α : Type} {t t' : FileTree α} {place next : Place} {p q : Path}

/-! ## One place at most -/

/-- Where the steps of a path begin. -/
def base (t : FileTree α) (p : Path) : Place := if p.isAbsolute then [] else t.current

/-- One step further: up for a double dot, down to a name for anything else. -/
def stepInto (place : Place) (part : List Char) : Place :=
  if part = ['.', '.'] then place.dropLast else place ++ [String.ofList part]

/-- The place that a path leads to, if it leads anywhere. -/
def goal (t : FileTree α) (p : Path) : Place := p.steps.foldl stepInto (t.base p)

/-- The places that a path leads through, from its beginning to its end. -/
def OnWay (t : FileTree α) (p : Path) (place : Place) : Prop :=
  ∃ k, place = (p.steps.take k).foldl stepInto (t.base p)

theorem outset_fst (t : FileTree α) (p : Path) : (t.outset p).1 = t.base p := by
  have hroot := p.split_eq_root_iff
  unfold outset base
  split <;> rename_i parts hsplit <;> rw [hsplit] at hroot
  · rw [if_pos (hroot.1 rfl)]
  · rw [if_neg (fun h => nomatch hroot.2 h)]
  · rw [if_neg (fun h => nomatch hroot.2 h)]

theorem filter_outset (t : FileTree α) (p : Path) : (t.outset p).2.filter isStep = p.steps := by
  rw [Path.steps_eq_filter]
  unfold outset
  split <;> rename_i parts hsplit <;> rw [hsplit]
  exact List.filter_cons_of_neg (by decide)

theorem enter_eq_ok {part : List Char} (h : t.enter place part = .ok next) :
    t.holdsDirectory place = true ∧
      next = if isStep part then stepInto place part else place := by
  unfold enter at h
  by_cases hholds : t.holdsDirectory place = true
  · refine ⟨hholds, ?_⟩
    rw [hholds] at h
    dsimp only at h
    split_ifs at h with hnot hidle hup
    · cases h
      simp [isStep, hidle]
    · cases h
      subst hup
      rfl
    · cases h
      simp [isStep, hidle, stepInto, hup]
  · rw [Bool.not_eq_true] at hholds
    rw [hholds] at h
    cases h

theorem walk_eq_ok {parts : List (List Char)} (h : t.walk place parts = .ok next) :
    next = (parts.filter isStep).foldl stepInto place := by
  induction parts generalizing place with
  | nil =>
    cases h
    rfl
  | cons part rest ih =>
    rw [walk] at h
    split at h
    · rename_i reached hreached
      obtain ⟨-, rfl⟩ := enter_eq_ok hreached
      rw [ih h]
      by_cases hstep : isStep part = true
      · rw [if_pos hstep, List.filter_cons_of_pos hstep, List.foldl_cons]
      · rw [if_neg hstep, List.filter_cons_of_neg hstep]
    · cases h

/-- **A path that leads somewhere** leads to its goal. -/
theorem resolve_eq_goal (h : t.resolve p = .ok place) : place = t.goal p := by
  unfold resolve at h
  split at h
  · cases h
  · rw [walk_eq_ok h, filter_outset, outset_fst]
    rfl

theorem goal_congr (h : t'.current = t.current) (p : Path) : t'.goal p = t.goal p := by
  rw [goal, goal, base, base, h]

theorem onWay_congr (h : t'.current = t.current) : t'.OnWay p place ↔ t.OnWay p place := by
  unfold OnWay base
  rw [h]

/-- The last stretch of a path is the name of its goal. -/
theorem goal_of_tip {directory : Place} {part : List Char} {slash : Bool}
    (h : t.tip p = .ok (.last directory part slash)) (hdots : isDots part = false) :
    t.goal p = directory ++ [String.ofList part] := by
  obtain ⟨-, -, -, before, hparts, hwalk⟩ := tip_eq_last h
  obtain ⟨n, hall, hne, -⟩ := eq_append_of_dropWhile hparts
  simp only [isDots, Bool.or_eq_false_iff, decide_eq_false_iff_not] at hdots
  have hstep : isStep part = true := Path.isStep_iff.2 ⟨hne, hdots.1⟩
  have hback : (List.replicate n ([] : List Char)).filter isStep = [] := by
    simp [Path.isStep, Path.isIdle]
  rw [goal, ← filter_outset t p, hall, List.filter_append, List.filter_cons_of_pos hstep, hback,
    List.foldl_append, ← outset_fst, ← walk_eq_ok hwalk, List.foldl_cons, List.foldl_nil, stepInto,
    if_neg hdots.2]

/-! ## Paths below a path -/

theorem foldl_stepInto {names : List String} (h : ∀ s ∈ names, Path.Ordinary s) (place : Place) :
    (names.map String.toList).foldl stepInto place = place ++ names := by
  induction names generalizing place with
  | nil => simp
  | cons s rest ih =>
    have hs := h s (by simp)
    rw [List.map_cons, List.foldl_cons, ih (fun s' hs' => h s' (by simp [hs'])), stepInto,
      if_neg hs.noUp, String.ofList_toList, List.append_assoc, List.singleton_append]

theorem goal_join (t : FileTree α) (p : Path) (hq : q.isAbsolute = false) :
    t.goal (p.join q) = q.steps.foldl stepInto (t.goal p) := by
  rw [goal, base, Path.isAbsolute_join hq, Path.steps_join hq, List.foldl_append]
  rfl

/-- **The goal of a path along names** below another path. -/
theorem goal_join_ofNames (t : FileTree α) (p : Path) {names : List String}
    (h : ∀ s ∈ names, Path.Ordinary s) : t.goal (p.join (.ofNames names)) = t.goal p ++ names := by
  rw [goal_join t p (Path.isAbsolute_ofNames h), Path.steps_ofNames h, foldl_stepInto h]

/-- Steps lead to a part of the place where they begin, and on along names of their own. -/
theorem foldl_stepInto_cases (steps : List (List Char)) (place : Place) :
    ∃ k back, steps.foldl stepInto place = place.take k ++ back ∧
      ∀ s ∈ back, s.toList ∈ steps := by
  induction steps using List.reverseRecOn with
  | nil => exact ⟨place.length, [], by simp, by simp⟩
  | append_singleton front part ih =>
    obtain ⟨k, back, heq, hback⟩ := ih
    have hfront : ∀ s ∈ back, s.toList ∈ front ++ [part] :=
      fun s hs => List.mem_append_left _ (hback s hs)
    rw [List.foldl_append, heq, List.foldl_cons, List.foldl_nil, stepInto]
    split_ifs with hup
    · rcases List.eq_nil_or_concat back with rfl | ⟨more, s, rfl⟩
      · have hless : (place.take k).length - 1 ≤ k := by
          have hle := List.length_take_le k place
          omega
        refine ⟨(place.take k).length - 1, [], ?_, by simp⟩
        rw [List.append_nil, List.append_nil, List.dropLast_eq_take, List.take_take,
          Nat.min_eq_left hless]
      · rw [List.concat_eq_append] at hfront ⊢
        refine ⟨k, more, ?_, fun s' hs => hfront s' (List.mem_append_left _ hs)⟩
        rw [← List.append_assoc, List.dropLast_concat]
    · refine ⟨k, back ++ [String.ofList part], List.append_assoc .., ?_⟩
      rw [List.forall_mem_append]
      exact ⟨hfront, by simp⟩

/-- **A path that leads to a name below another one** has the name among its steps. -/
theorem mem_steps_of_goal_join (t : FileTree α) {name : String}
    (h : t.goal (p.join q) = t.goal p ++ [name]) : name.toList ∈ q.steps := by
  have hlast {front back : Place} (hlength : front.length ≤ (t.goal p).length)
      (heq : front ++ back = t.goal p ++ [name]) : name ∈ back := by
    have hne : back ≠ [] := by
      rintro rfl
      have hlengths := congrArg List.length heq
      simp only [List.length_append, List.length_nil, List.length_singleton] at hlengths
      omega
    have hgetLast := congrArg List.getLast? heq
    rw [List.getLast?_append_of_ne_nil _ hne, List.getLast?_concat] at hgetLast
    exact List.mem_of_getLast? hgetLast
  by_cases hq : q.isAbsolute = true
  · obtain ⟨k, back, heq, hback⟩ := foldl_stepInto_cases q.steps []
    rw [Path.join, if_pos hq, goal, base, if_pos hq, heq] at h
    exact hback name (hlast (by simp) h)
  · obtain ⟨k, back, heq, hback⟩ := foldl_stepInto_cases q.steps (t.goal p)
    rw [goal_join t p (Bool.eq_false_iff.2 hq), heq] at h
    exact hback name (hlast (List.length_take_le' _ _) h)

/-- Every stretch of a path that leads somewhere is entered. -/
theorem exists_enter_of_walk {parts : List (List Char)} (h : t.walk place parts = .ok next)
    {part : List Char} (hpart : part ∈ parts) : ∃ a b, t.enter a part = .ok b := by
  induction parts generalizing place with
  | nil => cases hpart
  | cons first rest ih =>
    rw [walk] at h
    split at h
    case h_2 => cases h
    rename_i reached hreached
    rcases List.mem_cons.1 hpart with rfl | hrest
    · exact ⟨place, reached, hreached⟩
    · exact ih h hrest

/-- **A name is entered** if it is short enough and something stands there. -/
theorem enter_name_eq_ok {name : String} (hname : Path.Ordinary name) :
    t.enter place name.toList = .ok next ↔
      t.holdsDirectory place = true ∧ name.utf8ByteSize ≤ maxNameBytes ∧
        (t.get? (place ++ [name])).isSome = true ∧ next = place ++ [name] := by
  have hidle : Path.isIdle name.toList = false := by simpa [isStep] using hname.isStep
  unfold enter
  simp only [hidle, if_neg hname.noUp, String.ofList_toList, Bool.false_eq_true, if_false]
  split_ifs with hnot hlong hthere
  · simp [show t.holdsDirectory place = false by simpa using hnot]
  · simp [Nat.not_le.2 hlong]
  · rw [Bool.not_eq_true', Bool.not_eq_false] at hnot
    simp only [hnot, Nat.le_of_not_lt hlong, hthere, true_and, Except.ok.injEq, eq_comm]
  · simp [hthere]

theorem vet_eq_ok : vet p = .ok () ↔ '\x00' ∉ p.text.toList ∧ p.text ≠ "" ∧
    p.text.utf8ByteSize < pathBytesLimit := by
  unfold vet
  split_ifs with hnul hempty hlong
  · simp [hnul]
  · simp [hempty]
  · simp [hlong]
  · simp [hnul, hempty, Nat.lt_of_not_le hlong]

theorem cutSlashes_fromRoot (text : String) :
    Path.cutSlashes ("/" ++ text).toList = [] :: Path.cutSlashes text.toList := by
  rw [String.toList_append]
  exact Path.cutSlashes_slash _

/-- The goal of a name behind the root. -/
theorem goal_fromRoot (t : FileTree α) {name : String} (hname : Path.Ordinary name) :
    t.goal ⟨"/" ++ name⟩ = [name] := by
  have hsteps : (⟨"/" ++ name⟩ : Path).steps = [name].map String.toList := by
    rw [Path.steps, cutSlashes_fromRoot, Path.cutSlashes_of_not_mem hname.noSlash,
      List.filter_cons_of_neg (by decide), List.filter_cons_of_pos hname.isStep]
    rfl
  have habsolute : (⟨"/" ++ name⟩ : Path).isAbsolute = true :=
    (Path.isAbsolute_iff _).2 ⟨name.toList, [], by
      rw [cutSlashes_fromRoot, Path.cutSlashes_of_not_mem hname.noSlash]⟩
  rw [goal, base, if_pos habsolute, hsteps, foldl_stepInto (by simpa using hname), List.nil_append]

/-- **A name that a path leads along** leads from the root to what stands there. -/
theorem resolve_fromRoot (hresolve : t.resolve p = .ok place) {name : String}
    (hname : Path.Ordinary name) (hstep : name.toList ∈ p.steps)
    (hthere : (t.get? [name]).isSome = true) : t.resolve ⟨"/" ++ name⟩ = .ok [name] := by
  unfold resolve at hresolve
  split at hresolve
  · cases hresolve
  rename_i hvet
  obtain ⟨hnul, -⟩ := vet_eq_ok.1 hvet
  have hwithin := Path.isInfix_of_mem_cutSlashes (List.mem_filter.1 hstep).1
  rw [← filter_outset t p] at hstep
  obtain ⟨a, b, hentered⟩ := exists_enter_of_walk hresolve (List.mem_filter.1 hstep).1
  obtain ⟨-, hshort, -⟩ := (enter_name_eq_ok hname).1 hentered
  have hvet' : vet ⟨"/" ++ name⟩ = .ok () := by
    have hsize : ("/" ++ name).utf8ByteSize = 1 + name.utf8ByteSize := by
      rw [String.utf8ByteSize_append]
      rfl
    have hlimits : 1 + maxNameBytes < pathBytesLimit := by decide
    refine vet_eq_ok.2 ⟨?_, by simp, ?_⟩
    · simpa using fun hmem => hnul (hwithin.subset hmem)
    · dsimp only
      omega
  have houtset : t.outset ⟨"/" ++ name⟩ = ([], [name.toList]) := by
    rw [outset, Path.split, cutSlashes_fromRoot, Path.cutSlashes_of_not_mem hname.noSlash]
  have henter : t.enter [] name.toList = .ok [name] :=
    (enter_name_eq_ok hname).2 ⟨holdsDirectory_iff.2 (get?_nil t), hshort, hthere, rfl⟩
  rw [resolve, hvet', houtset]
  dsimp only
  rw [walk, henter]
  rfl

/-! ## On the way of a path -/

/-- The way of a path is that of the path without its last step, and its goal. -/
theorem onWay_iff_of_dropLast (hsteps : q.steps = p.steps.dropLast)
    (habs : q.isAbsolute = p.isAbsolute) :
    t.OnWay p place ↔ t.OnWay q place ∨ place = t.goal p := by
  have hbase : t.base q = t.base p := by rw [base, base, habs]
  constructor
  · rintro ⟨k, rfl⟩
    by_cases hk : k < p.steps.length
    · refine .inl ⟨k, ?_⟩
      rw [hsteps, hbase, List.dropLast_eq_take, List.take_take, Nat.min_eq_left (by omega)]
    · right
      rw [List.take_of_length_le (by omega), goal]
  · rintro (⟨k, rfl⟩ | rfl)
    · refine ⟨min k (p.steps.length - 1), ?_⟩
      rw [hsteps, hbase, List.dropLast_eq_take, List.take_take]
    · exact ⟨p.steps.length, by rw [List.take_length, goal]⟩

/-- The way of a path along names below another path. -/
theorem onWay_join_ofNames {names : List String} (h : ∀ s ∈ names, Path.Ordinary s)
    (hway : t.OnWay (p.join (.ofNames names)) place) :
    t.OnWay p place ∨ ∃ front, front ≠ [] ∧ place = t.goal p ++ front := by
  obtain ⟨k, rfl⟩ := hway
  have hrelative := Path.isAbsolute_ofNames h
  have hbase : t.base (p.join (.ofNames names)) = t.base p := by
    rw [base, base, Path.isAbsolute_join hrelative]
  rw [hbase, Path.steps_join hrelative, Path.steps_ofNames h, List.take_append, List.foldl_append,
    ← List.map_take, foldl_stepInto fun s hs => h s (List.mem_of_mem_take hs)]
  by_cases hnil : names.take (k - p.steps.length) = []
  · rw [hnil, List.append_nil]
    exact .inl ⟨k, rfl⟩
  · refine .inr ⟨_, hnil, ?_⟩
    have hk : p.steps.length ≤ k := by
      by_contra hk
      rw [Nat.sub_eq_zero_of_le (by omega)] at hnil
      exact hnil rfl
    rw [List.take_of_length_le hk, goal]

/-- Without double dots, the way goes down. -/
theorem above_goal_of_onWay (h : ['.', '.'] ∉ p.steps) (hway : t.OnWay p place) :
    place <+: t.goal p := by
  have hdown : ∀ (parts : List (List Char)) (from' : Place), ['.', '.'] ∉ parts →
      from' <+: parts.foldl stepInto from' := by
    intro parts
    induction parts with
    | nil => exact fun from' _ => List.prefix_refl from'
    | cons part rest ih =>
      intro from' hparts
      rw [List.mem_cons, not_or] at hparts
      have hstep : from' <+: stepInto from' part := by
        rw [stepInto, if_neg (Ne.symm hparts.1)]
        exact List.prefix_append from' _
      exact hstep.trans (ih _ hparts.2)
  obtain ⟨k, rfl⟩ := hway
  rw [goal, ← List.take_append_drop k p.steps, List.foldl_append, List.take_append_drop]
  exact hdown _ _ fun hmem => h (List.mem_of_mem_drop hmem)

/-! ## Adding nodes -/

/-- **A directory that is made** stands at the goal of its path, where nothing stood. -/
theorem makeDirectory_eq_ok (h : t.makeDirectory p = .ok t') :
    t.goal p ≠ [] ∧ t.get? (t.goal p) = none ∧ t' = t.put (t.goal p) .directory ∧
      t'.resolve p = .ok (t.goal p) := by
  unfold makeDirectory at h
  dsimp only at h
  split at h
  · cases h
  · cases h
  rename_i directory part slash htip
  split_ifs at h with hdots hlong hthere
  cases h
  rw [Bool.not_eq_true] at hdots
  rw [goal_of_tip htip hdots]
  have hne : directory ++ [String.ofList part] ≠ [] := by simp
  have hgrows : t.Grows (t.put (directory ++ [String.ofList part]) .directory) :=
    .put hne fun _ => rfl
  have hput : (t.put (directory ++ [String.ofList part]) .directory).get?
      (directory ++ [String.ofList part]) = some .directory := by
    rw [get?_put hne, if_pos rfl]
  refine ⟨hne, by simpa using hthere, rfl, resolve_of_tip (hgrows.tip htip) hdots hlong ?_ ?_⟩
  · rw [hput]
    rfl
  · exact fun _ => holdsDirectory_iff.2 hput

/-- **A file that is written** stands at the goal of its path, where no directory stood. -/
theorem writeFile_eq_put {content : α} (h : t.writeFile p content = .ok t') :
    t.goal p ≠ [] ∧ t.get? (t.goal p) ≠ some .directory ∧
      t' = t.put (t.goal p) (.file content) ∧ t'.resolve p = .ok (t.goal p) := by
  obtain ⟨directory, name, -, hfree, rfl, hresolve⟩ := writeFile_eq_ok h
  have hgoal : t.goal p = directory ++ [name] := (resolve_eq_goal hresolve).symm
  rw [hgoal]
  exact ⟨by simp, hfree, rfl, hresolve⟩

/-- The second tree is the first one with directories added, at certain places only. -/
structure AddsDirectories (t t' : FileTree α) (at' : Place → Prop) : Prop where
  /-- Relative paths begin in the same place. -/
  current : t'.current = t.current
  /-- What stands anywhere stays. -/
  kept : ∀ {p : Place} {e : Entry α}, t.get? p = some e → t'.get? p = some e
  /-- Where nothing stood, there is nothing still or a directory at one of the places. -/
  added : ∀ {p : Place}, t.get? p = none → t'.get? p = none ∨ t'.get? p = some .directory ∧ at' p

namespace AddsDirectories

variable {t'' : FileTree α} {at' : Place → Prop}

theorem refl (t : FileTree α) : t.AddsDirectories t at' := ⟨rfl, fun h => h, fun h => .inl h⟩

theorem trans (h : t.AddsDirectories t' at') (h' : t'.AddsDirectories t'' at') :
    t.AddsDirectories t'' at' := by
  refine ⟨h'.current.trans h.current, fun hp => h'.kept (h.kept hp), fun hp => ?_⟩
  rcases h.added hp with hnone | ⟨hdir, hat⟩
  · exact h'.added hnone
  · exact .inr ⟨h'.kept hdir, hat⟩

theorem put (hne : place ≠ []) (hnone : t.get? place = none) (hat : at' place) :
    t.AddsDirectories (t.put place .directory) at' := by
  refine ⟨rfl, ?_, ?_⟩
  · intro p e hp
    rw [get?_put hne, if_neg, hp]
    rintro rfl
    rw [hnone] at hp
    cases hp
  · intro p hp
    rw [get?_put hne]
    split_ifs with heq
    · exact .inr ⟨rfl, heq ▸ hat⟩
    · exact .inl hp

theorem grows (h : t.AddsDirectories t' at') : t.Grows t' := by
  refine ⟨h.current, fun hp => h.kept hp, fun hp => ?_⟩
  obtain ⟨e, he⟩ := Option.isSome_iff_exists.1 hp
  rw [h.kept he]
  rfl

/-- A file that is there was there before. -/
theorem file (h : t.AddsDirectories t' at') {content : α}
    (hp : t'.get? place = some (.file content)) : t.get? place = some (.file content) := by
  cases hold : t.get? place with
  | some e => rw [← h.kept hold, hp]
  | none =>
    rcases h.added hold with hnone | ⟨hdir, -⟩
    · rw [hnone] at hp
      cases hp
    · rw [hdir] at hp
      cases hp

end AddsDirectories

theorem makeDirectory_adds {at' : Place → Prop} (h : t.makeDirectory p = .ok t')
    (hat : at' (t.goal p)) : t.AddsDirectories t' at' ∧ t'.isDirectory p = true := by
  obtain ⟨hne, hnone, rfl, hresolve⟩ := makeDirectory_eq_ok h
  refine ⟨.put hne hnone hat, ?_⟩
  rw [isDirectory, hresolve]
  exact holdsDirectory_iff.2 (by rw [get?_put hne, if_pos rfl])

/-- **Making the first of some paths**: at once, or when those above it are made, or not at all;
this is a success only if the directory is there. -/
theorem makeAlong_cases {above : List Path} {r : Except Fault Unit} (htext : p.text ≠ "")
    (h : t.makeAlong (p :: above) = (t', r)) :
    t.makeDirectory p = .ok t' ∨
      (∃ t₁, t.makeAlong above = (t₁, .ok ()) ∧ t₁.makeDirectory p = .ok t') ∨
      (t' = t ∨ ∃ r', t.makeAlong above = (t', r')) ∧ (r = .ok () → t'.isDirectory p = true) := by
  have hrefused : ∀ {s : FileTree α} {f : Fault},
      (if s.isDirectory p then .ok () else .error f) = r → r = .ok () →
        s.isDirectory p = true := by
    intro s f hr hok
    by_contra hdir
    rw [if_neg hdir, hok] at hr
    cases hr
  rw [makeAlong, if_neg htext] at h
  cases hfirst : t.makeDirectory p with
  | ok t₁ =>
    rw [hfirst] at h
    cases h
    exact .inl rfl
  | error f =>
    rw [hfirst] at h
    by_cases hmissing : f = .missing
    · subst hmissing
      rcases habove : t.makeAlong above with ⟨t₁, f | _⟩
      · rw [habove] at h
        cases h
        exact .inr (.inr ⟨.inr ⟨_, rfl⟩, fun hok => absurd hok (by simp)⟩)
      rw [habove] at h
      dsimp only at h
      cases hsecond : t₁.makeDirectory p with
      | ok t₂ =>
        rw [hsecond] at h
        cases h
        exact .inr (.inl ⟨t₁, rfl, hsecond⟩)
      | error f =>
        rw [hsecond] at h
        obtain ⟨rfl, hr⟩ := Prod.mk.inj h
        exact .inr (.inr ⟨.inr ⟨_, rfl⟩, hrefused hr⟩)
    · -- any other fault than a missing parent is final
      have hfinal : (t, if t.isDirectory p then .ok () else .error f) = (t', r) := by
        cases f <;> first | exact h | exact absurd rfl hmissing
      obtain ⟨rfl, hr⟩ := Prod.mk.inj hfinal
      exact .inr (.inr ⟨.inl rfl, hrefused hr⟩)

/-- Making the first of some paths adds directories at their goals only. -/
theorem makeAlong_adds {ps : List Path} {r : Except Fault Unit} (h : t.makeAlong ps = (t', r))
    {at' : Place → Prop} (hat : ∀ q ∈ ps, at' (t.goal q)) :
    t.AddsDirectories t' at' ∧
      (r = .ok () → ∀ p, ps.head? = some p → p.text ≠ "" → t'.isDirectory p = true) := by
  induction ps generalizing t' r with
  | nil =>
    cases h
    exact ⟨.refl t, fun _ p hp => nomatch hp⟩
  | cons p above ih =>
    have hp := hat p (by simp)
    have hafter : ∀ {t₁ : FileTree α} {r₁ : Except Fault Unit}, t.makeAlong above = (t₁, r₁) →
        t.AddsDirectories t₁ at' := fun h => (ih h fun q hq => hat q (by simp [hq])).1
    by_cases htext : p.text = ""
    · rw [makeAlong, if_pos htext] at h
      cases h
      refine ⟨.refl t, fun _ p' hp' hne => ?_⟩
      cases hp'
      exact absurd htext hne
    suffices hmade : t.AddsDirectories t' at' ∧ (r = .ok () → t'.isDirectory p = true) by
      refine ⟨hmade.1, fun hok p' hp' _ => ?_⟩
      cases hp'
      exact hmade.2 hok
    rcases makeAlong_cases htext h with hfirst | ⟨t₁, habove, hsecond⟩ | ⟨hkept, hdir⟩
    · obtain ⟨hadds, hdir⟩ := makeDirectory_adds hfirst hp
      exact ⟨hadds, fun _ => hdir⟩
    · have hadds := hafter habove
      rw [← goal_congr hadds.current] at hp
      obtain ⟨hadds', hdir⟩ := makeDirectory_adds hsecond hp
      exact ⟨hadds.trans hadds', fun _ => hdir⟩
    · rcases hkept with rfl | ⟨r', habove⟩
      · exact ⟨.refl t', hdir⟩
      · exact ⟨hafter habove, hdir⟩

theorem onWay_of_mem_ancestors {limit : Nat} (h : q ∈ ancestors limit p) :
    t.OnWay p (t.goal q) := by
  suffices hsteps : ∃ k, q.steps = p.steps.take k ∧ q.isAbsolute = p.isAbsolute by
    obtain ⟨k, hsteps, habs⟩ := hsteps
    exact ⟨k, by rw [goal, base, base, hsteps, habs]⟩
  induction limit generalizing p with
  | zero => cases h
  | succ limit ih =>
    rw [ancestors] at h
    rcases List.mem_cons.1 h with rfl | h
    · exact ⟨q.steps.length, by simp, rfl⟩
    · split at h
      · rename_i above habove
        obtain ⟨k, hsteps, habs⟩ := ih h
        rw [Path.steps_of_parent? habove, List.dropLast_eq_take, List.take_take] at hsteps
        exact ⟨_, hsteps, habs.trans (Path.isAbsolute_of_parent? habove)⟩
      · cases h

/-- **Making directories** adds directories on the way of the path, and nothing else. -/
theorem makeDirectories_adds {r : Except Fault Unit} (h : t.makeDirectories p = (t', r)) :
    t.AddsDirectories t' (t.OnWay p) :=
  (makeAlong_adds h fun _ hq => onWay_of_mem_ancestors hq).1

/-- If it succeeds, there is a directory at the end. -/
theorem isDirectory_of_makeDirectories (h : t.makeDirectories p = (t', .ok ()))
    (hp : p.text ≠ "") : t'.isDirectory p = true :=
  (makeAlong_adds h fun _ hq => onWay_of_mem_ancestors hq).2 rfl p rfl hp

/-! ## On the way to a node -/

/-- Every place that is left on the way, and the last one if it is a directory. -/
theorem holdsDirectory_of_walk {parts : List (List Char)} (h : t.walk place parts = .ok next)
    {k : Nat} (hk : k < (parts.filter isStep).length ∨ t.holdsDirectory next = true) :
    t.holdsDirectory (((parts.filter isStep).take k).foldl stepInto place) = true := by
  induction parts generalizing place k with
  | nil =>
    cases h
    simpa using hk
  | cons part rest ih =>
    rw [walk] at h
    split at h
    case h_2 => cases h
    rename_i reached hreached
    obtain ⟨hplace, rfl⟩ := enter_eq_ok hreached
    by_cases hstep : isStep part = true
    · rw [if_pos hstep] at h
      rw [List.filter_cons_of_pos hstep] at hk ⊢
      cases k with
      | zero => simpa using hplace
      | succ k => exact ih h (by simpa using hk)
    · rw [if_neg hstep] at h
      rw [List.filter_cons_of_neg hstep] at hk ⊢
      exact ih h hk

/-- **All that lies on the way to a node** is a directory. -/
theorem get?_of_resolve (h : t.resolve p = .ok next) {k : Nat}
    (hk : k < p.steps.length ∨ t.get? next = some .directory) :
    t.get? ((p.steps.take k).foldl stepInto (t.base p)) = some .directory := by
  unfold resolve at h
  split at h
  · cases h
  rw [← filter_outset t p, ← holdsDirectory_iff] at hk
  rw [← filter_outset t p, ← outset_fst]
  exact holdsDirectory_iff.1 (holdsDirectory_of_walk h hk)

/-- All names that are left on the way below a path lead to directories. -/
theorem get?_of_resolve_join {front back : List String} (hback : back ≠ [])
    (hnames : ∀ s ∈ front ++ back, Path.Ordinary s)
    (h : t.resolve (p.join (.ofNames (front ++ back))) = .ok next) :
    t.get? (t.goal p ++ front) = some .directory := by
  have hfront : ∀ s ∈ front, Path.Ordinary s := fun s hs => hnames s (List.mem_append_left _ hs)
  have hrelative := Path.isAbsolute_ofNames hnames
  have hsteps : (p.join (.ofNames (front ++ back))).steps =
      p.steps ++ front.map String.toList ++ back.map String.toList := by
    rw [Path.steps_join hrelative, Path.steps_ofNames hnames, List.map_append, List.append_assoc]
  have hbase : t.base (p.join (.ofNames (front ++ back))) = t.base p := by
    rw [base, base, Path.isAbsolute_join hrelative]
  have hpos := List.length_pos_of_ne_nil hback
  have hdir := get?_of_resolve h (k := (p.steps ++ front.map String.toList).length)
    (.inl (by rw [hsteps]; simp only [List.length_append, List.length_map]; omega))
  rw [hsteps, List.take_left, hbase, List.foldl_append, foldl_stepInto hfront] at hdir
  exact hdir

theorem isDirectory_iff : t.isDirectory p = true ↔
    ∃ place, t.resolve p = .ok place ∧ t.get? place = some .directory := by
  unfold isDirectory
  split <;> rename_i hresolve <;> simp [hresolve, holdsDirectory_iff]

/-- **All that lies on the way to a directory** is a directory. -/
theorem get?_of_onWay (h : t.isDirectory p = true) (hway : t.OnWay p place) :
    t.get? place = some .directory := by
  obtain ⟨k, rfl⟩ := hway
  obtain ⟨reached, hresolve, hreached⟩ := isDirectory_iff.1 h
  exact get?_of_resolve hresolve (.inr hreached)

/-- A directory that a path leads to stands at its goal. -/
theorem get?_goal_of_isDirectory (h : t.isDirectory p = true) :
    t.resolve p = .ok (t.goal p) ∧ t.get? (t.goal p) = some .directory := by
  obtain ⟨reached, hresolve, hreached⟩ := isDirectory_iff.1 h
  rw [← resolve_eq_goal hresolve]
  exact ⟨hresolve, hreached⟩

/-! ## Writing at certain places -/

/-- The second tree is the first one with directories added and with files written at certain
places. -/
structure WritesAt (t t' : FileTree α) (places : List Place) : Prop extends Grows t t' where
  /-- Every other file is as it was. -/
  file : ∀ {p : Place} {content : α}, p ∉ places →
    (t'.get? p = some (.file content) ↔ t.get? p = some (.file content))

namespace WritesAt

variable {t'' : FileTree α} {places places' : List Place}

theorem refl (t : FileTree α) : t.WritesAt t [] := ⟨.refl t, fun _ => Iff.rfl⟩

theorem trans (h : t.WritesAt t' places) (h' : t'.WritesAt t'' places') :
    t.WritesAt t'' (places ++ places') := by
  refine ⟨h.toGrows.trans h'.toGrows, ?_⟩
  intro p content hp
  rw [List.mem_append, not_or] at hp
  rw [h'.file hp.2, h.file hp.1]

end WritesAt

theorem AddsDirectories.writesAt {at' : Place → Prop} (h : t.AddsDirectories t' at') :
    t.WritesAt t' [] :=
  ⟨h.grows, fun _ => ⟨h.file, h.kept⟩⟩

/-- **A file that is written** is written at the goal of its path. -/
theorem writesAt_of_writeFile {content : α} (h : t.writeFile p content = .ok t') :
    t.WritesAt t' [t.goal p] := by
  obtain ⟨hne, hfree, rfl, -⟩ := writeFile_eq_put h
  refine ⟨.put hne fun hdir => absurd hdir hfree, ?_⟩
  intro p' content' hp'
  rw [get?_put hne, if_neg (by simpa using hp')]

end FileTree

end Tagging
