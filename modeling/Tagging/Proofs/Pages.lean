import Mathlib.Data.Bool.AllAny
import Tagging.Highlight
import Tagging.Proofs.Text.Markup

/-!
# What a page holds

A highlighted page is read back as markup.  Every text that went into it comes out again once the
marks are left out, and the tags tell nothing of the texts but which segments are marked.

* `markTags`, `templateTags`, `pageTags` — the tags of marks, all tags a page may have, and the tags
  of one page in order;
* `pageParts`, `write_pageParts`, `read_page` — **a page as elements** and what stands between them;
* `Part.OfPage`, `ofPage_of_mem_pageParts` — **every part is one of the template**, with marked text
  inside;
* `withoutTags_fieldSigns`, `texts_legendParts` — **a marked text is the text** once its marks are
  left out;
* `tags_page` — **the tags of a page**;
* `page_keeps_texts` — **a page loses no text and lets none become markup**.
-/

namespace Tagging

open Text Markup

/-! ## Marked text -/

/-- The tag that opens a mark. -/
def markTag (colour : Nat) : String := "mark class=\"q" ++ toString colour ++ "\""

/-- The tags of marks, of all colours. -/
def markTags : List String :=
  ["/mark", "mark class=\"q0\"", "mark class=\"q1\"", "mark class=\"q2\"", "mark class=\"q3\"",
    "mark class=\"q4\"", "mark class=\"q5\""]

/-- The signs of a text that is marked in a colour, or not at all. -/
def markedSigns (colour : Option Nat) (text : String) : List Sign :=
  match colour with
  | some colour => .tag (markTag colour) :: (textSigns text ++ [.tag "/mark"])
  | none => textSigns text

/-- The segments of a text that are marked, and their colours. -/
def segmentColours (terms : List (List String)) (text : String) : List (Option Nat) :=
  (segments text).map fun segment => owner? terms (lower segment)

/-- The signs of a text with its marks. -/
def fieldSigns (terms : List (List String)) (text : String) : List Sign :=
  (segments text).flatMap fun segment => markedSigns (owner? terms (lower segment)) segment

/-- Text, with tags of marks in it. -/
def Marked (signs : List Sign) : Prop :=
  ∀ s ∈ signs, (∃ t ∈ markTags, s = .tag t) ∨ ∃ text, s ∈ textSigns text

section Marks

variable {terms : List (List String)} {colour : Nat}

theorem write_markedSigns_some (colour : Nat) (text : String) :
    (markedSigns (some colour) text).flatMap Sign.write =
      (openMark colour ++ escapeHtml text ++ "</mark>").toList := by
  have hopen : "<mark class=\"q".toList = '<' :: "mark class=\"q".toList := by decide
  have hclose : "\">".toList = "\"".toList ++ ['>'] := by decide
  have hend : "</mark>".toList = '<' :: "/mark".toList ++ ['>'] := by decide
  simp only [markedSigns, markTag, openMark, Sign.write, List.flatMap_cons, List.flatMap_append,
    List.flatMap_nil, write_textSigns, String.toList_append, hopen, hclose, hend]
  simp only [List.cons_append, List.append_assoc, List.nil_append, List.append_nil]

theorem write_fieldSigns (terms : List (List String)) (text : String) :
    (fieldSigns terms text).flatMap Sign.write = (markText terms text).toList := by
  have hsegment (segment : String) :
      (markedSigns (owner? terms (lower segment)) segment).flatMap Sign.write =
        (markSegment terms segment).toList := by
    rw [markSegment]
    cases owner? terms (lower segment) with
    | none => exact write_textSigns segment
    | some colour => exact write_markedSigns_some colour segment
  rw [fieldSigns, markText, List.flatMap_assoc, String.toList_join, List.flatMap_map]
  simp only [hsegment]

theorem lt_of_owner?_eq_some {word : String} (h : owner? terms word = some colour) :
    colour < paletteSize := by
  obtain ⟨i, -, rfl⟩ := Option.map_eq_some_iff.1 h
  exact Nat.mod_lt i (by decide)

theorem markTag_mem_markTags (h : colour < paletteSize) : markTag colour ∈ markTags := by
  have hall : ∀ colour < paletteSize, markTag colour ∈ markTags := by decide +kernel
  exact hall colour h

end Marks

/-! ## The parts of a page -/

/-- The entry of a query in the legend. -/
def entryParts (i : Nat) (q : HighlightQuery) : List Part :=
  [.element "li" (markedSigns (some (i % paletteSize)) q.label), .between (read "\n")]

/-- The entries of the legend, colours counted from `i`. -/
def entriesFrom (i : Nat) : List HighlightQuery → List Part
  | [] => []
  | q :: rest => entryParts i q ++ entriesFrom (i + 1) rest

/-- The legend as parts. -/
def legendParts (queries : List HighlightQuery) : List Part :=
  if queries.isEmpty then []
  else .between (read "<ul class=\"legend\">\n") :: entriesFrom 0 queries ++
    [.between (read "</ul>\n")]

/-- A field as parts. -/
def fieldParts (terms : List (List String)) (field : String × String) : List Part :=
  [.element "h2" (textSigns field.1), .between (read "\n"),
    .element "pre" (fieldSigns terms field.2), .between (read "\n")]

/-- A page as parts. -/
def pageParts (title relativePath : String) (fields : List (String × String))
    (queries : List HighlightQuery) : List Part :=
  [.between (read "<!DOCTYPE html>\n<html>\n<head>\n<meta charset=\"utf-8\">\n"),
    .element "title" (textSigns title), .between (read "\n"),
    .element "style" (textSigns pageStyle), .between (read "\n</head>\n<body>\n"),
    .element "h1" (textSigns title), .between (read "\n"),
    .element "p" (textSigns relativePath), .between (read "\n")] ++
  legendParts queries ++ fields.flatMap (fieldParts (loweredTerms queries)) ++
  [.between (read "</body>\n</html>\n")]

section Parts

variable (title relativePath : String) (fields : List (String × String))
  (queries : List HighlightQuery)

theorem write_entryParts (i : Nat) (q : HighlightQuery) :
    (entryParts i q).flatMap Part.write =
      ("<li>" ++ openMark (i % paletteSize) ++ escapeHtml q.label ++ "</mark></li>\n").toList := by
  have hend : "</mark></li>\n" = "</mark>" ++ "</li>" ++ "\n" := rfl
  simp only [entryParts, List.flatMap_cons, List.flatMap_nil, Part.write_between,
    Part.write_element, write_markedSigns_some, String.reduceAppend]
  rw [hend]
  simp only [String.toList_append, List.append_assoc, List.append_nil]

theorem write_entriesFrom (i : Nat) :
    (entriesFrom i queries).flatMap Part.write = (String.join (legendFrom i queries)).toList := by
  rw [String.toList_join]
  induction queries generalizing i with
  | nil => rfl
  | cons q rest ih =>
    rw [entriesFrom, List.flatMap_append, ih, write_entryParts, legendFrom, List.flatMap_cons]

theorem write_legendParts : (legendParts queries).flatMap Part.write = (legend queries).toList := by
  rw [legendParts, legend]
  split
  · rfl
  · rw [List.flatMap_append, List.flatMap_cons, write_entriesFrom]
    simp only [List.flatMap_cons, List.flatMap_nil, Part.write_between, String.toList_append,
      List.append_nil]

theorem write_fieldParts (terms : List (List String)) (field : String × String) :
    (fieldParts terms field).flatMap Part.write = (fieldSection terms field).toList := by
  have hpre : "</h2>\n<pre>" = "</h2>" ++ "\n" ++ "<pre>" := rfl
  have hend : "</pre>\n" = "</pre>" ++ "\n" := rfl
  simp only [fieldParts, List.flatMap_cons, List.flatMap_nil, Part.write_between,
    Part.write_element, write_textSigns, write_fieldSigns, String.reduceAppend]
  rw [fieldSection, hpre, hend]
  simp only [String.toList_append, List.append_assoc, List.append_nil]

/-- The rules for the look of a page have none of the special characters. -/
theorem escapeHtml_pageStyle : escapeHtml pageStyle = pageStyle := by
  have hplain : ∀ c ∈ pageStyle.toList, escapeChar c = [c] := by
    delta pageStyle
    rw [String.toList_append, String.toList_append, String.toList_append, String.toList_append]
    repeat rw [String.toList_ofList]
    exact List.all_iff_forall_prop.1 (by decide +kernel)
  have hchars : pageStyle.toList.flatMap escapeChar = pageStyle.toList.flatMap fun c => [c] := by
    rw [List.flatMap_def, List.map_congr_left hplain, ← List.flatMap_def]
  rw [escapeHtml, hchars, List.flatMap_singleton', String.ofList_toList]

/-- **A page is made of elements** and what stands between them. -/
theorem write_pageParts : (pageParts title relativePath fields queries).flatMap Part.write =
    (page title relativePath fields queries).toList := by
  have hhead : "<!DOCTYPE html>\n<html>\n<head>\n<meta charset=\"utf-8\">\n<title>" =
    "<!DOCTYPE html>\n<html>\n<head>\n<meta charset=\"utf-8\">\n" ++ "<title>" := rfl
  have hstyle : "</title>\n<style>" = "</title>" ++ "\n" ++ "<style>" := rfl
  have hbody : "</style>\n</head>\n<body>\n<h1>" =
    "</style>" ++ "\n</head>\n<body>\n" ++ "<h1>" := rfl
  have hpath : "</h1>\n<p>" = "</h1>" ++ "\n" ++ "<p>" := rfl
  have hend : "</p>\n" = "</p>" ++ "\n" := rfl
  simp only [pageParts, List.flatMap_append, List.flatMap_cons, List.flatMap_nil,
    Part.write_between, Part.write_element, write_textSigns, write_legendParts,
    escapeHtml_pageStyle, List.flatMap_assoc, write_fieldParts, String.reduceAppend]
  delta page
  rw [hhead, hstyle, hbody, hpath, hend]
  simp only [String.toList_append, List.append_assoc, List.append_nil, String.toList_join,
    List.flatMap_map]

end Parts

/-! ## What a part is like -/

/-- The names of the elements of a page. -/
def elementNames : List String := ["title", "style", "h1", "p", "li", "h2", "pre"]

/-- What stands between the elements of a page. -/
def betweenElements : List String :=
  ["<!DOCTYPE html>\n<html>\n<head>\n<meta charset=\"utf-8\">\n", "\n", "\n</head>\n<body>\n",
    "<ul class=\"legend\">\n", "</ul>\n", "</body>\n</html>\n"]

/-- The tags of a page. -/
def templateTags : List String :=
  ["!DOCTYPE html", "html", "head", "meta charset=\"utf-8\"", "title", "/title", "style", "/style",
    "/head", "body", "h1", "/h1", "p", "/p", "ul class=\"legend\"", "li", "/li", "/ul", "h2", "/h2",
    "pre", "/pre", "/body", "/html"] ++ markTags

/-- A part of a page is an element with marked text or stands between elements. -/
def Markup.Part.OfPage : Part → Prop
  | element name inside => name ∈ elementNames ∧ Marked inside
  | between signs => ∃ text ∈ betweenElements, signs = read text

section Shape

variable {terms : List (List String)} {signs : List Sign} {p : Part}

theorem marked_textSigns (text : String) : Marked (textSigns text) :=
  fun _ hs => .inr ⟨text, hs⟩

theorem marked_markedSigns {colour : Option Nat} (h : ∀ c ∈ colour, c < paletteSize)
    (text : String) : Marked (markedSigns colour text) := by
  cases colour with
  | none => exact marked_textSigns text
  | some c =>
    intro s hs
    rcases List.mem_cons.1 hs with rfl | hs
    · exact .inl ⟨_, markTag_mem_markTags (h c rfl), rfl⟩
    · rcases List.mem_append.1 hs with hs | hs
      · exact .inr ⟨text, hs⟩
      · exact .inl ⟨"/mark", by decide, List.mem_singleton.1 hs⟩

theorem marked_fieldSigns (terms : List (List String)) (text : String) :
    Marked (fieldSigns terms text) := by
  intro s hs
  obtain ⟨segment, -, hs⟩ := List.mem_flatMap.1 hs
  exact marked_markedSigns (fun c hc => lt_of_owner?_eq_some hc) segment s hs

theorem Marked.plain (h : Marked signs) : ∀ s ∈ signs, s.Plain := by
  have htags : ∀ t ∈ markTags, (Sign.tag t).Plain := by decide +kernel
  intro s hs
  rcases h s hs with ⟨t, ht, rfl⟩ | ⟨text, htext⟩
  · exact htags t ht
  · exact plain_of_mem_textSigns htext

theorem Marked.mem_markTags (h : Marked signs) : ∀ t ∈ tags signs, t ∈ markTags := by
  intro t ht
  rcases h _ (mem_tags.1 ht) with ⟨u, hu, heq⟩ | ⟨text, htext⟩
  · exact Sign.tag.inj heq ▸ hu
  · exact absurd (mem_tags.2 htext) (by simp)

theorem ofPage_of_mem_entriesFrom {queries : List HighlightQuery} {i : Nat}
    (h : p ∈ entriesFrom i queries) : p.OfPage := by
  induction queries generalizing i with
  | nil => cases h
  | cons q rest ih =>
    rcases List.mem_append.1 h with h | h
    · have hcolour : i % paletteSize < paletteSize := Nat.mod_lt i (by decide)
      rcases List.mem_cons.1 h with rfl | h
      · exact ⟨by decide, marked_markedSigns (by rintro c ⟨⟩; exact hcolour) q.label⟩
      · obtain rfl := List.mem_singleton.1 h
        exact ⟨"\n", by decide, rfl⟩
    · exact ih h

theorem ofPage_of_mem_legendParts {queries : List HighlightQuery} (h : p ∈ legendParts queries) :
    p.OfPage := by
  rw [legendParts] at h
  split at h
  · cases h
  · rcases List.mem_append.1 h with h | h
    · rcases List.mem_cons.1 h with rfl | h
      · exact ⟨_, by decide, rfl⟩
      · exact ofPage_of_mem_entriesFrom h
    · obtain rfl := List.mem_singleton.1 h
      exact ⟨_, by decide, rfl⟩

theorem ofPage_of_mem_fieldParts {field : String × String} (h : p ∈ fieldParts terms field) :
    p.OfPage := by
  simp only [fieldParts, List.mem_cons, List.not_mem_nil, or_false] at h
  rcases h with rfl | rfl | rfl | rfl
  · exact ⟨by decide, marked_textSigns field.1⟩
  · exact ⟨_, by decide, rfl⟩
  · exact ⟨by decide, marked_fieldSigns terms field.2⟩
  · exact ⟨_, by decide, rfl⟩

theorem ofPage_of_mem_pageParts {title relativePath : String} {fields : List (String × String)}
    {queries : List HighlightQuery} (h : p ∈ pageParts title relativePath fields queries) :
    p.OfPage := by
  simp only [pageParts, List.mem_append, List.mem_cons, List.not_mem_nil, or_false,
    List.mem_flatMap] at h
  rcases h with ((h | hlegend) | ⟨field, -, hfield⟩) | rfl
  · rcases h with rfl | rfl | rfl | rfl | rfl | rfl | rfl | rfl | rfl
    · exact ⟨_, by decide, rfl⟩
    · exact ⟨by decide, marked_textSigns title⟩
    · exact ⟨_, by decide, rfl⟩
    · exact ⟨by decide, marked_textSigns pageStyle⟩
    · exact ⟨_, by decide, rfl⟩
    · exact ⟨by decide, marked_textSigns title⟩
    · exact ⟨_, by decide, rfl⟩
    · exact ⟨by decide, marked_textSigns relativePath⟩
    · exact ⟨_, by decide, rfl⟩
  · exact ofPage_of_mem_legendParts hlegend
  · exact ofPage_of_mem_fieldParts hfield
  · exact ⟨_, by decide, rfl⟩

theorem Markup.Part.OfPage.plain (h : p.OfPage) : ∀ s ∈ p.toSigns, s.Plain := by
  have hnames : ∀ name ∈ elementNames, (Sign.tag name).Plain ∧ (Sign.tag ("/" ++ name)).Plain := by
    decide +kernel
  have hbetween : ∀ text ∈ betweenElements, ∀ s ∈ read text, s.Plain := by decide +kernel
  cases p with
  | element name inside =>
    obtain ⟨hname, hinside⟩ := h
    simp only [Part.toSigns, List.forall_mem_cons, List.forall_mem_append, List.not_mem_nil,
      false_implies, implies_true, and_true]
    exact ⟨(hnames name hname).1, hinside.plain, (hnames name hname).2⟩
  | between signs =>
    obtain ⟨text, htext, rfl⟩ := h
    exact hbetween text htext

/-- The tags between the elements of a page. -/
theorem tags_betweenElements : betweenElements.map (fun text => tags (read text)) =
    [["!DOCTYPE html", "html", "head", "meta charset=\"utf-8\""], [], ["/head", "body"],
      ["ul class=\"legend\""], ["/ul"], ["/body", "/html"]] := by
  decide +kernel

theorem Markup.Part.OfPage.apart (h : p.OfPage) {name : String} (hname : name ∈ elementNames) :
    p.Apart name := by
  have hmarks : ∀ name ∈ elementNames, name ∉ markTags ∧ "/" ++ name ∉ markTags := by
    decide +kernel
  have hends : ∀ name ∈ elementNames, ∀ other ∈ elementNames, "/" ++ other ≠ name := by
    decide +kernel
  have hbetween : ∀ name ∈ elementNames,
      ∀ found ∈ betweenElements.map (fun text => tags (read text)), name ∉ found := by
    rw [tags_betweenElements]
    decide +kernel
  cases p with
  | element other inside =>
    obtain ⟨hother, hinside⟩ := h
    exact ⟨fun hmem => (hmarks name hname).1 (hinside.mem_markTags _ hmem),
      fun hmem => (hmarks name hname).2 (hinside.mem_markTags _ hmem),
      hends name hname other hother⟩
  | between signs =>
    obtain ⟨text, htext, rfl⟩ := h
    exact hbetween name hname _ (List.mem_map_of_mem htext)

theorem Markup.Part.OfPage.mem_templateTags (h : p.OfPage) :
    ∀ t ∈ tags p.toSigns, t ∈ templateTags := by
  have hnames : ∀ name ∈ elementNames, name ∈ templateTags ∧ "/" ++ name ∈ templateTags := by
    decide +kernel
  have hbetween : ∀ found ∈ betweenElements.map (fun text => tags (read text)),
      ∀ t ∈ found, t ∈ templateTags := by
    rw [tags_betweenElements]
    decide +kernel
  cases p with
  | element name inside =>
    obtain ⟨hname, hinside⟩ := h
    simp only [Part.toSigns, tags_cons_tag, tags_append, tags_nil, List.forall_mem_cons,
      List.forall_mem_append, List.not_mem_nil, false_implies, implies_true, and_true]
    exact ⟨(hnames name hname).1, fun t ht => List.mem_append_right _ (hinside.mem_markTags t ht),
      (hnames name hname).2⟩
  | between signs =>
    obtain ⟨text, htext, rfl⟩ := h
    exact hbetween _ (List.mem_map_of_mem htext)

end Shape

/-! ## Reading a page -/

section Reading

variable (title relativePath : String) (fields : List (String × String))
  (queries : List HighlightQuery)

/-- The signs of a page. -/
def pageSigns : List Sign := (pageParts title relativePath fields queries).flatMap Part.toSigns

theorem plain_of_mem_pageSigns :
    ∀ s ∈ pageSigns title relativePath fields queries, s.Plain := by
  intro s hs
  obtain ⟨p, hp, hs⟩ := List.mem_flatMap.1 hs
  exact (ofPage_of_mem_pageParts hp).plain s hs

theorem write_pageSigns : (pageSigns title relativePath fields queries).flatMap Sign.write =
    (page title relativePath fields queries).toList := by
  rw [pageSigns, List.flatMap_assoc]
  exact write_pageParts title relativePath fields queries

/-- **A page is read back.** -/
theorem read_page : read (page title relativePath fields queries) =
    pageSigns title relativePath fields queries :=
  read_eq_of_write (plain_of_mem_pageSigns title relativePath fields queries) (write_pageSigns ..)

theorem elements_page {name : String} (hname : name ∈ elementNames) :
    elements name (read (page title relativePath fields queries)) =
      insides name (pageParts title relativePath fields queries) := by
  rw [read_page, pageSigns, elements_parts fun p hp => (ofPage_of_mem_pageParts hp).apart hname]

end Reading

/-! ## Texts -/

section Texts

variable {name : String}

/-- The segments of a text together are the text. -/
theorem join_segments (s : String) : String.join (segments s) = s := by
  have hjoin (pieces : List (List Char)) :
      (String.join (pieces.map String.ofList)).toList = pieces.flatten := by
    rw [String.toList_join, List.flatMap_map]
    simp only [String.toList_ofList, List.flatMap_id']
  rw [← String.toList_inj, segments]
  cases h : s.toList with
  | nil => rfl
  | cons c rest =>
    dsimp only
    rw [hjoin, flatten_segmentsAfter, List.reverse_singleton, List.singleton_append]

theorem withoutTags_markedSigns {colour : Option Nat} (h : ∀ c ∈ colour, c < paletteSize)
    (text : String) : withoutTags markTags (markedSigns colour text) = textSigns text := by
  cases colour with
  | none => exact withoutTags_textSigns markTags text
  | some c =>
    have hopen : withoutTags markTags [.tag (markTag c)] = [] :=
      List.filter_cons_of_neg (by simpa using markTag_mem_markTags (h c rfl))
    have hend : withoutTags markTags [.tag "/mark"] = [] := by decide
    rw [markedSigns, ← List.singleton_append, withoutTags_append, withoutTags_append, hopen, hend,
      withoutTags_textSigns, List.nil_append, List.append_nil]

/-- **A marked text is the text** once its marks are left out. -/
theorem withoutTags_fieldSigns (terms : List (List String)) (text : String) :
    withoutTags markTags (fieldSigns terms text) = textSigns text := by
  calc withoutTags markTags (fieldSigns terms text)
      = (segments text).flatMap textSigns := by
        rw [fieldSigns, withoutTags_flatMap]
        refine congrArg (List.flatMap · _) (funext fun segment => ?_)
        exact withoutTags_markedSigns (fun c hc => lt_of_owner?_eq_some hc) segment
    _ = textSigns text := by rw [← textSigns_join, join_segments]

theorem insides_legendParts_of_ne (h : "li" ≠ name) (queries : List HighlightQuery) :
    insides name (legendParts queries) = [] := by
  have hentries (i : Nat) : insides name (entriesFrom i queries) = [] := by
    induction queries generalizing i with
    | nil => rfl
    | cons q rest ih => rw [entriesFrom, insides_append, ih, entryParts, insides, if_neg h]; rfl
  rw [legendParts]
  split
  · rfl
  · rw [insides_append, insides, hentries]
    rfl

/-- **The entries of a legend** are the labels once the marks are left out. -/
theorem texts_legendParts (queries : List HighlightQuery) :
    (insides "li" (legendParts queries)).map (fun inside => text? (withoutTags markTags inside)) =
      queries.map fun q => some q.label := by
  have hentries (i : Nat) :
      (insides "li" (entriesFrom i queries)).map
          (fun inside => text? (withoutTags markTags inside)) =
        queries.map fun q => some q.label := by
    induction queries generalizing i with
    | nil => rfl
    | cons q rest ih =>
      have hcolour : ∀ c ∈ some (i % paletteSize), c < paletteSize := by
        rintro c ⟨⟩
        exact Nat.mod_lt i (by decide)
      rw [entriesFrom, insides_append, List.map_append, ih, entryParts, insides, if_pos rfl,
        List.map_cons, withoutTags_markedSigns hcolour, text?_textSigns]
      rfl
  rw [legendParts]
  split
  · rename_i hempty
    rw [List.isEmpty_iff.1 hempty]
    rfl
  · rw [insides_append, insides, List.map_append, hentries]
    exact List.append_nil _

theorem insides_fieldParts (name : String) (terms : List (List String)) (field : String × String) :
    insides name (fieldParts terms field) =
      (if "h2" = name then [textSigns field.1] else []) ++
        if "pre" = name then [fieldSigns terms field.2] else [] := by
  simp only [fieldParts, insides]
  split <;> split <;> rfl

theorem insides_pageParts (name title relativePath : String) (fields : List (String × String))
    (queries : List HighlightQuery) :
    insides name (pageParts title relativePath fields queries) =
      insides name [.element "title" (textSigns title), .element "style" (textSigns pageStyle),
        .element "h1" (textSigns title), .element "p" (textSigns relativePath)] ++
      insides name (legendParts queries) ++
      fields.flatMap fun field => insides name (fieldParts (loweredTerms queries) field) := by
  rw [pageParts, insides_append, insides_append, insides_append, insides_flatMap]
  simp only [insides, List.append_nil]

end Texts

/-! ## Tags -/

/-- The tags of a field of which these segments are marked. -/
def fieldTags (colours : List (Option Nat)) : List String :=
  ["h2", "/h2", "pre"] ++ colours.flatMap (fun
    | some colour => [markTag colour, "/mark"]
    | none => []) ++ ["/pre"]

/-- The tags of the legend of so many queries. -/
def legendTags (count : Nat) : List String :=
  if count = 0 then []
  else "ul class=\"legend\"" :: (List.range count).flatMap (fun i =>
    ["li", markTag (i % paletteSize), "/mark", "/li"]) ++ ["/ul"]

/-- The tags of a page with so many queries and fields of which these segments are marked. -/
def pageTags (count : Nat) (fields : List (List (Option Nat))) : List String :=
  ["!DOCTYPE html", "html", "head", "meta charset=\"utf-8\"", "title", "/title", "style", "/style",
    "/head", "body", "h1", "/h1", "p", "/p"] ++
  legendTags count ++ fields.flatMap fieldTags ++ ["/body", "/html"]

section Tags

variable (title relativePath : String) (fields : List (String × String))
  (queries : List HighlightQuery)

theorem tags_line : tags (read "\n") = [] := by
  decide

theorem tags_fieldParts (terms : List (List String)) (field : String × String) :
    tags ((fieldParts terms field).flatMap Part.toSigns) =
      fieldTags (segmentColours terms field.2) := by
  have hcolours : tags (fieldSigns terms field.2) =
      (segmentColours terms field.2).flatMap fun
        | some colour => [markTag colour, "/mark"]
        | none => [] := by
    rw [fieldSigns, tags_flatMap, segmentColours, List.flatMap_map]
    refine congrArg (List.flatMap · _) (funext fun segment => ?_)
    cases owner? terms (lower segment) <;> simp [markedSigns]
  simp only [fieldParts, List.flatMap_cons, List.flatMap_nil, tags_append,
    tags_toSigns_element, tags_toSigns_between, tags_textSigns, tags_line, hcolours, fieldTags,
    String.reduceAppend, List.nil_append, List.append_nil, List.cons_append]

theorem tags_entriesFrom (i : Nat) :
    tags ((entriesFrom i queries).flatMap Part.toSigns) =
      (List.range' i queries.length).flatMap fun i =>
        ["li", markTag (i % paletteSize), "/mark", "/li"] := by
  induction queries generalizing i with
  | nil => rfl
  | cons q rest ih =>
    rw [entriesFrom, List.flatMap_append, tags_append, ih, List.length_cons, List.range'_succ,
      List.flatMap_cons]
    simp [entryParts, tags_toSigns_element, tags_toSigns_between, markedSigns, tags_line]

theorem tags_legendParts :
    tags ((legendParts queries).flatMap Part.toSigns) = legendTags queries.length := by
  have hopen : tags (read "<ul class=\"legend\">\n") = ["ul class=\"legend\""] := by decide +kernel
  have hend : tags (read "</ul>\n") = ["/ul"] := by decide +kernel
  rw [legendParts, legendTags]
  cases queries with
  | nil => rfl
  | cons q rest =>
    rw [if_neg (by simp), if_neg (by simp), List.flatMap_append, tags_append, List.flatMap_cons,
      tags_append, tags_entriesFrom, List.range_eq_range', tags_toSigns_between, hopen]
    simp [tags_toSigns_between, hend]

/-- **The tags of a page** follow from the number of queries and from which segments are marked. -/
theorem tags_page : tags (read (page title relativePath fields queries)) =
    pageTags queries.length
      (fields.map fun field => segmentColours (loweredTerms queries) field.2) := by
  have hhead : tags (read "<!DOCTYPE html>\n<html>\n<head>\n<meta charset=\"utf-8\">\n") =
    ["!DOCTYPE html", "html", "head", "meta charset=\"utf-8\""] := by decide +kernel
  have hbody : tags (read "\n</head>\n<body>\n") = ["/head", "body"] := by decide +kernel
  have hend : tags (read "</body>\n</html>\n") = ["/body", "/html"] := by decide +kernel
  have hfields : tags ((fields.flatMap (fieldParts (loweredTerms queries))).flatMap Part.toSigns) =
      (fields.map fun field => segmentColours (loweredTerms queries) field.2).flatMap
        fieldTags := by
    rw [List.flatMap_assoc, tags_flatMap, List.flatMap_map]
    exact congrArg (List.flatMap · fields) (funext fun field => tags_fieldParts _ field)
  rw [read_page, pageSigns, pageParts, pageTags, List.flatMap_append, List.flatMap_append,
    List.flatMap_append, tags_append, tags_append, tags_append, tags_legendParts, hfields]
  simp only [List.flatMap_cons, List.flatMap_nil, tags_append, tags_toSigns_element,
    tags_toSigns_between, tags_textSigns, hhead, hbody, hend, tags_line, String.reduceAppend,
    List.nil_append, List.append_nil, List.cons_append, List.append_assoc]

end Tags

/-! ## What is kept -/

/-- **A page loses no text and lets none become markup.**  Read back as markup, a page has one title
and one heading, both with the title, and a paragraph with the path.  Without the tags of marks, and
with the entities undone, the entries of its legend are the labels and its texts are those of the
fields.  Its tags follow from the number of queries and fields and from which segments are marked, and
each opening bracket begins one of the tags of the template. -/
theorem page_keeps_texts (title relativePath : String) (fields : List (String × String))
    (queries : List HighlightQuery) :
    let written := page title relativePath fields queries
    let texts name := (elements name (read written)).map text?
    let unmarked name :=
      (elements name (read written)).map fun inside => text? (withoutTags markTags inside)
    texts "title" = [some title] ∧ texts "h1" = [some title] ∧ texts "p" = [some relativePath] ∧
    unmarked "li" = queries.map (fun q => some q.label) ∧
    texts "h2" = fields.map (fun field => some field.1) ∧
    unmarked "pre" = fields.map (fun field => some field.2) ∧
    tags (read written) = pageTags queries.length
      (fields.map fun field => segmentColours (loweredTerms queries) field.2) ∧
    ∀ front back, written.toList = front ++ '<' :: back →
      ∃ t ∈ templateTags, t.toList ++ ['>'] <+: back := by
  intro written texts unmarked
  have helements (name) (hname : name ∈ elementNames) : elements name (read written) = _ :=
    (elements_page title relativePath fields queries hname).trans (insides_pageParts name ..)
  have hne {name : String} (h : "li" ≠ name) := insides_legendParts_of_ne h queries
  have hfield (name) (field) := insides_fieldParts name (loweredTerms queries) field
  refine ⟨?_, ?_, ?_, ?_, ?_, ?_, tags_page title relativePath fields queries,
    fun front back h => ?_⟩
  · simp [texts, helements "title" (by decide), hne, hfield, insides, text?_textSigns]
  · simp [texts, helements "h1" (by decide), hne, hfield, insides, text?_textSigns]
  · simp [texts, helements "p" (by decide), hne, hfield, insides, text?_textSigns]
  · simp [unmarked, helements "li" (by decide), hfield, insides, texts_legendParts]
  · simp [texts, helements "h2" (by decide), hne, hfield, insides, ← List.map_eq_flatMap,
      text?_textSigns]
  · simp [unmarked, helements "pre" (by decide), hne, hfield, insides, ← List.map_eq_flatMap,
      withoutTags_fieldSigns, text?_textSigns]
  · rw [← write_pageSigns] at h
    obtain ⟨t, ht, hle⟩ := exists_tag_of_write (plain_of_mem_pageSigns _ _ _ _) h
    obtain ⟨p, hp, ht⟩ := List.mem_flatMap.1 ht
    exact ⟨t, (ofPage_of_mem_pageParts hp).mem_templateTags t (mem_tags.2 ht), hle⟩

/-- Texts that look like tags and entities come out of a page as they went in. -/
theorem page_keeps_texts_lease :
    let fields := [("body", "</pre><mark class=\"q0\">Lease&lt;")]
    let queries : List HighlightQuery := [⟨"</li> & \"more\"", ["lease"]⟩, ⟨"Rents", []⟩]
    let written := page "&amp;" "<docs>" fields queries
    let unmarked name :=
      (elements name (read written)).map fun inside => text? (withoutTags markTags inside)
    unmarked "pre" = [some "</pre><mark class=\"q0\">Lease&lt;"] ∧
    unmarked "li" = [some "</li> & \"more\"", some "Rents"] ∧
    (elements "title" (read written)).map text? = [some "&amp;"] := by
  intro fields queries written unmarked
  obtain ⟨htitle, -, -, hlabels, -, hfields, -⟩ := page_keeps_texts "&amp;" "<docs>" fields queries
  exact ⟨hfields, hlabels, htitle⟩

end Tagging
