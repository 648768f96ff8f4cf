import Tagging.Highlight

/-!
# Markup read back

Markup is a row of signs, which are tags and the characters between them.  A reader that knows only
the angle brackets and the five entities finds the signs again, and the text of an element.

* `Sign`, `Sign.write`, `read` — a sign as it is written, and the signs of a text;
* `readAfter_write` — **signs are read back**, `write_read` — **what is read is all there is**;
* `exists_tag_of_write` — every opening bracket begins a tag;
* `unescape`, `unescape_escape` — **the entities undone**;
* `withoutTags`, `text?`, `text?_textSigns` — the signs without some tags, and the text of signs;
* `Part`, `elements`, `elements_parts` — **the insides of the elements of one name**.
-/

namespace Tagging.Markup

open Text

/-- A sign of markup. -/
inductive Sign where
  /-- A tag, by what stands between its brackets. -/
  | tag (inside : String)
  /-- A character between the tags. -/
  | char (c : Char)
  deriving Repr, DecidableEq

variable {signs : List Sign} {name : String}

/-! ## Reading and writing -/

/-- A sign as it is written. -/
def Sign.write : Sign → List Char
  | tag inside => '<' :: inside.toList ++ ['>']
  | char c => [c]

/-- The signs of the characters behind an opening bracket and `open_`, last character first, or
behind a whole sign.  A bracket that none closes is text. -/
def readAfter : Option (List Char) → List Char → List Sign
  | none, [] => []
  | some open_, [] => ('<' :: open_.reverse).map .char
  | none, c :: rest => if c = '<' then readAfter (some []) rest else .char c :: readAfter none rest
  | some open_, c :: rest =>
    if c = '>' then .tag (String.ofList open_.reverse) :: readAfter none rest
    else readAfter (some (c :: open_)) rest

/-- The signs of a text. -/
def read (s : String) : List Sign := readAfter none s.toList

/-- No bracket stands where it is not meant as one. -/
def Sign.Plain : Sign → Prop
  | tag inside => '<' ∉ inside.toList ∧ '>' ∉ inside.toList
  | char c => c ≠ '<'

instance : DecidablePred Sign.Plain
  | .tag inside => inferInstanceAs (Decidable ('<' ∉ inside.toList ∧ '>' ∉ inside.toList))
  | .char c => inferInstanceAs (Decidable (c ≠ '<'))

theorem readAfter_some_append {inside rest : List Char} (h : '>' ∉ inside) (open_ : List Char) :
    readAfter (some open_) (inside ++ '>' :: rest) =
      .tag (String.ofList (open_.reverse ++ inside)) :: readAfter none rest := by
  induction inside generalizing open_ with
  | nil => simp [readAfter]
  | cons c inside ih =>
    obtain ⟨hc, hinside⟩ := not_or.1 (mt List.mem_cons.2 h)
    rw [List.cons_append, readAfter, if_neg (Ne.symm hc), ih hinside]
    simp

/-- **Signs are read back** as they were written. -/
theorem readAfter_write (h : ∀ s ∈ signs, s.Plain) :
    readAfter none (signs.flatMap Sign.write) = signs := by
  induction signs with
  | nil => rfl
  | cons s signs ih =>
    obtain ⟨hs, hsigns⟩ := List.forall_mem_cons.1 h
    rw [List.flatMap_cons]
    cases s with
    | tag inside =>
      simp only [Sign.write, List.cons_append, List.append_assoc, List.nil_append, readAfter,
        if_true]
      rw [readAfter_some_append hs.2, ih hsigns, List.reverse_nil, List.nil_append,
        String.ofList_toList]
    | char c =>
      simp only [Sign.write, List.cons_append, List.nil_append, readAfter]
      rw [if_neg hs, ih hsigns]

theorem read_eq_of_write {s : String} (hplain : ∀ sign ∈ signs, sign.Plain)
    (h : signs.flatMap Sign.write = s.toList) : read s = signs := by
  rw [read, ← h, readAfter_write hplain]

/-- **What is read is all there is.** -/
theorem write_readAfter (cs : List Char) (open_ : Option (List Char)) :
    (readAfter open_ cs).flatMap Sign.write =
      (open_.map fun inside => '<' :: inside.reverse).getD [] ++ cs := by
  have hchars (cs : List Char) : (cs.map Sign.char).flatMap Sign.write = cs := by
    rw [List.flatMap_map]
    exact List.flatMap_singleton' cs
  induction cs generalizing open_ with
  | nil =>
    cases open_ with
    | none => rfl
    | some inside => simpa [readAfter] using hchars ('<' :: inside.reverse)
  | cons c rest ih =>
    cases open_ with
    | none =>
      rw [readAfter]
      split
      · rename_i hc
        simp [ih, hc]
      · simp [ih, Sign.write]
    | some inside =>
      rw [readAfter]
      split
      · rename_i hc
        simp [ih, hc, Sign.write]
      · simp [ih]

theorem write_read (s : String) : (read s).flatMap Sign.write = s.toList :=
  write_readAfter s.toList none

/-- An opening bracket in a sign begins it. -/
theorem Sign.eq_tag_of_write_eq {s : Sign} {front behind : List Char} (hs : s.Plain)
    (h : s.write = front ++ '<' :: behind) :
    ∃ inside, s = .tag inside ∧ behind = inside.toList ++ ['>'] := by
  have hmem : '<' ∈ front ++ '<' :: behind := List.mem_append_right front List.mem_cons_self
  cases s with
  | char c =>
    rw [← h, Sign.write, List.mem_singleton] at hmem
    exact absurd hmem.symm hs
  | tag inside =>
    cases front with
    | nil => exact ⟨inside, rfl, (List.cons_eq_cons.1 h).2.symm⟩
    | cons d front =>
      have hinside : '<' ∈ inside.toList ++ ['>'] := by
        have htail : inside.toList ++ ['>'] = front ++ '<' :: behind := (List.cons_eq_cons.1 h).2
        rw [htail]
        exact List.mem_append_right front List.mem_cons_self
      rcases List.mem_append.1 hinside with hinside | hinside
      · exact absurd hinside hs.1
      · exact absurd hinside (by decide)

/-- **Every opening bracket begins a tag.** -/
theorem exists_tag_of_write {front back : List Char} (hplain : ∀ s ∈ signs, s.Plain)
    (h : signs.flatMap Sign.write = front ++ '<' :: back) :
    ∃ inside, .tag inside ∈ signs ∧ inside.toList ++ ['>'] <+: back := by
  induction signs generalizing front with
  | nil => simp at h
  | cons s signs ih =>
    obtain ⟨hs, hsigns⟩ := List.forall_mem_cons.1 hplain
    rw [List.flatMap_cons] at h
    -- the bracket stands behind the first sign, or in it
    have hlater (front) (h : signs.flatMap Sign.write = front ++ '<' :: back) :
        ∃ inside, .tag inside ∈ s :: signs ∧ inside.toList ++ ['>'] <+: back := by
      obtain ⟨inside, hmem, hle⟩ := ih hsigns h
      exact ⟨inside, List.mem_cons_of_mem _ hmem, hle⟩
    obtain ⟨more, -, hrest⟩ | ⟨behind, hfirst, hback⟩ := List.append_eq_append_iff.1 h
    · exact hlater more hrest
    cases behind with
    | nil => exact hlater [] hback.symm
    | cons c behind =>
      obtain ⟨rfl, rfl⟩ := List.cons_eq_cons.1 hback
      obtain ⟨inside, rfl, rfl⟩ := Sign.eq_tag_of_write_eq hs hfirst
      exact ⟨inside, List.mem_cons_self, List.prefix_append _ _⟩

/-! ## Entities -/

/-- The characters with the five entities undone. -/
def unescape : List Char → List Char
  | '&' :: 'a' :: 'm' :: 'p' :: ';' :: rest => '&' :: unescape rest
  | '&' :: 'l' :: 't' :: ';' :: rest => '<' :: unescape rest
  | '&' :: 'g' :: 't' :: ';' :: rest => '>' :: unescape rest
  | '&' :: 'q' :: 'u' :: 'o' :: 't' :: ';' :: rest => '"' :: unescape rest
  | '&' :: '#' :: '3' :: '9' :: ';' :: rest => '\'' :: unescape rest
  | c :: rest => c :: unescape rest
  | [] => []

theorem unescape_cons_of_ne {c : Char} (h : c ≠ '&') (rest : List Char) :
    unescape (c :: rest) = c :: unescape rest := by
  simp [unescape, h]

theorem unescape_escapeChar (c : Char) (rest : List Char) :
    unescape (escapeChar c ++ rest) = c :: unescape rest := by
  unfold escapeChar
  split
  · subst c; rfl
  split
  · subst c; rfl
  split
  · subst c; rfl
  split
  · subst c; rfl
  split
  · subst c; rfl
  · exact unescape_cons_of_ne ‹_› rest

/-- **The entities undone** give the text back. -/
theorem unescape_escape (cs : List Char) : unescape (cs.flatMap escapeChar) = cs := by
  induction cs with
  | nil => rfl
  | cons c cs ih => rw [List.flatMap_cons, unescape_escapeChar, ih]

/-! ## Text -/

/-- The character that a sign is. -/
def Sign.char? : Sign → Option Char
  | tag _ => none
  | char c => some c

/-- The signs of a text with its special characters written as entities. -/
def textSigns (s : String) : List Sign := (escapeHtml s).toList.map .char

/-- The text that signs stand for, absent if there is a tag among them. -/
def text? (signs : List Sign) : Option String :=
  (signs.mapM Sign.char?).map fun cs => String.ofList (unescape cs)

/-- The signs without the tags on a list. -/
def withoutTags (removed : List String) (signs : List Sign) : List Sign :=
  signs.filter fun | .tag inside => !removed.contains inside | .char _ => true

/-- **A text is read back** from its signs. -/
theorem text?_textSigns (s : String) : text? (textSigns s) = some s := by
  have hchars (cs : List Char) : (cs.map Sign.char).mapM Sign.char? = some cs := by
    induction cs with
    | nil => rfl
    | cons c cs ih => rw [List.map_cons, List.mapM_cons, ih]; rfl
  rw [textSigns, text?, hchars, Option.map_some, escapeHtml, String.toList_ofList, unescape_escape,
    String.ofList_toList]

theorem write_textSigns (s : String) :
    (textSigns s).flatMap Sign.write = (escapeHtml s).toList := by
  rw [textSigns, List.flatMap_map]
  exact List.flatMap_singleton' _

theorem plain_of_mem_textSigns {s : String} {sign : Sign} (h : sign ∈ textSigns s) :
    sign.Plain := by
  obtain ⟨c, hc, rfl⟩ := List.mem_map.1 h
  rintro rfl
  rw [escapeHtml, String.toList_ofList, List.mem_flatMap] at hc
  obtain ⟨d, -, hd⟩ := hc
  exact mem_escapeChar d hd

theorem textSigns_join (l : List String) : textSigns (String.join l) = l.flatMap textSigns := by
  have hchars (s : String) : textSigns s = s.toList.flatMap fun c => (escapeChar c).map .char := by
    rw [textSigns, escapeHtml, String.toList_ofList, List.map_flatMap]
  rw [hchars, String.toList_join, List.flatMap_assoc]
  exact congrArg (List.flatMap · l) (funext fun s => (hchars s).symm)

@[simp] theorem withoutTags_append (removed : List String) (signs more : List Sign) :
    withoutTags removed (signs ++ more) = withoutTags removed signs ++ withoutTags removed more :=
  List.filter_append ..

theorem withoutTags_flatMap {α : Type} (removed : List String) (l : List α) (f : α → List Sign) :
    withoutTags removed (l.flatMap f) = l.flatMap fun a => withoutTags removed (f a) :=
  List.filter_flatMap

@[simp] theorem withoutTags_textSigns (removed : List String) (s : String) :
    withoutTags removed (textSigns s) = textSigns s := by
  refine List.filter_eq_self.2 fun sign h => ?_
  obtain ⟨c, -, rfl⟩ := List.mem_map.1 h
  rfl

/-! ## Tags and elements -/

/-- The tags among the signs, in order. -/
def tags (signs : List Sign) : List String :=
  signs.filterMap fun | .tag inside => some inside | .char _ => none

theorem mem_tags {inside : String} : inside ∈ tags signs ↔ .tag inside ∈ signs := by
  rw [tags, List.mem_filterMap]
  constructor
  · rintro ⟨sign, hmem, heq⟩
    cases sign with
    | tag other => exact Option.some.inj heq ▸ hmem
    | char c => cases heq
  · exact fun h => ⟨_, h, rfl⟩

@[simp] theorem tags_append (signs more : List Sign) :
    tags (signs ++ more) = tags signs ++ tags more :=
  List.filterMap_append ..

@[simp] theorem tags_cons_tag (inside : String) (signs : List Sign) :
    tags (.tag inside :: signs) = inside :: tags signs :=
  rfl

@[simp] theorem tags_nil : tags [] = [] :=
  rfl

@[simp] theorem tags_textSigns (s : String) : tags (textSigns s) = [] := by
  refine List.eq_nil_iff_forall_not_mem.2 fun inside h => ?_
  obtain ⟨c, -, hc⟩ := List.mem_map.1 (mem_tags.1 h)
  cases hc

@[simp] theorem tags_flatMap {α : Type} (l : List α) (f : α → List Sign) :
    tags (l.flatMap f) = l.flatMap fun a => tags (f a) :=
  List.filterMap_flatMap ..

/-- What stands between each tag of a name and the next tag that ends it. -/
def elements (name : String) : List Sign → List (List Sign)
  | [] => []
  | s :: rest =>
    if s = .tag name then rest.takeWhile (fun t => t ≠ .tag ("/" ++ name)) :: elements name rest
    else elements name rest

/-- A part of a document. -/
inductive Part where
  /-- An element, by its name and what it holds. -/
  | element (name : String) (inside : List Sign)
  /-- What stands between elements. -/
  | between (signs : List Sign)

/-- The signs of a part. -/
def Part.toSigns : Part → List Sign
  | element name inside => .tag name :: (inside ++ [.tag ("/" ++ name)])
  | between signs => signs

theorem tags_toSigns_element (name : String) (inside : List Sign) :
    tags (Part.element name inside).toSigns = name :: (tags inside ++ ["/" ++ name]) := by
  rw [Part.toSigns, tags_cons_tag, tags_append, tags_cons_tag, tags_nil]

theorem tags_toSigns_between (signs : List Sign) :
    tags (Part.between signs).toSigns = tags signs := by
  rw [Part.toSigns]

/-- A part as it is written. -/
def Part.write (p : Part) : List Char := p.toSigns.flatMap Sign.write

/-- What the elements of a name hold. -/
def insides (name : String) : List Part → List (List Sign)
  | [] => []
  | .element other inside :: rest =>
    if other = name then inside :: insides name rest else insides name rest
  | .between _ :: rest => insides name rest

/-- No tag of a part is taken for one of another element of that name. -/
def Part.Apart (name : String) : Part → Prop
  | element other inside => name ∉ tags inside ∧ "/" ++ name ∉ tags inside ∧ "/" ++ other ≠ name
  | between signs => name ∉ tags signs

theorem Part.write_between (s : String) : (between (read s)).write = s.toList :=
  write_read s

theorem Part.write_element (name : String) (inside : List Sign) :
    (element name inside).write =
      ("<" ++ name ++ ">").toList ++ inside.flatMap Sign.write ++ ("</" ++ name ++ ">").toList := by
  have hclose : ">".toList = ['>'] := rfl
  have hopen : "<".toList = ['<'] := rfl
  have hend : "</".toList = '<' :: "/".toList := rfl
  simp only [Part.write, Part.toSigns, Sign.write, List.flatMap_cons, List.flatMap_append,
    List.flatMap_nil, String.toList_append, hclose, hopen, hend, List.cons_append,
    List.append_assoc, List.nil_append, List.append_nil]

theorem elements_append_of_notMem (h : name ∉ tags signs) (rest : List Sign) :
    elements name (signs ++ rest) = elements name rest := by
  induction signs with
  | nil => rfl
  | cons s signs ih =>
    have hs : s ≠ .tag name := fun heq => h (mem_tags.2 (heq ▸ List.mem_cons_self))
    have hsigns : name ∉ tags signs := fun hmem =>
      h (mem_tags.2 (List.mem_cons_of_mem s (mem_tags.1 hmem)))
    rw [List.cons_append, elements, if_neg hs, ih hsigns]

theorem insides_append (name : String) (parts more : List Part) :
    insides name (parts ++ more) = insides name parts ++ insides name more := by
  induction parts with
  | nil => rfl
  | cons p parts ih =>
    cases p with
    | between signs => exact ih
    | element other inside =>
      rw [List.cons_append, insides, insides, ih]
      split <;> rfl

theorem insides_flatMap {α : Type} (name : String) (l : List α) (f : α → List Part) :
    insides name (l.flatMap f) = l.flatMap fun a => insides name (f a) := by
  induction l with
  | nil => rfl
  | cons a l ih => rw [List.flatMap_cons, List.flatMap_cons, insides_append, ih]

theorem elements_element_append {other : String} {inside : List Sign}
    (h : (Part.element other inside).Apart name) (rest : List Sign) :
    elements name ((Part.element other inside).toSigns ++ rest) =
      (if other = name then [inside] else []) ++ elements name rest := by
  obtain ⟨hinside, hend, hother⟩ := h
  have hrest : elements name (inside ++ .tag ("/" ++ other) :: rest) = elements name rest := by
    rw [elements_append_of_notMem hinside, elements, if_neg fun heq => hother (Sign.tag.inj heq)]
  rw [Part.toSigns, List.cons_append, List.append_assoc, List.singleton_append, elements, hrest]
  by_cases hname : other = name
  · subst other
    have htake : (inside ++ .tag ("/" ++ name) :: rest).takeWhile
        (fun t => t ≠ .tag ("/" ++ name)) = inside := by
      rw [List.takeWhile_append_of_pos, List.takeWhile_cons_of_neg (by simp), List.append_nil]
      intro t ht
      rw [decide_eq_true_iff]
      rintro rfl
      exact hend (mem_tags.2 ht)
    rw [if_pos rfl, if_pos rfl, htake, List.singleton_append]
  · rw [if_neg fun heq => hname (Sign.tag.inj heq), if_neg hname, List.nil_append]

/-- **The elements of a name** hold what they were made with, in order. -/
theorem elements_parts {parts : List Part} (h : ∀ p ∈ parts, p.Apart name) :
    elements name (parts.flatMap Part.toSigns) = insides name parts := by
  induction parts with
  | nil => rfl
  | cons p parts ih =>
    obtain ⟨hp, hparts⟩ := List.forall_mem_cons.1 h
    rw [List.flatMap_cons]
    cases p with
    | between signs =>
      exact (elements_append_of_notMem hp _).trans (ih hparts)
    | element other inside =>
      rw [elements_element_append hp, ih hparts, insides]
      split <;> rfl

end Tagging.Markup
