import Tagging.Highlight
import Tagging.Proofs.Corpus.Ranking
import Tagging.Proofs.Number
import Tagging.Proofs.Text.Lowercase

/-!
# Marks and matches

A page marks the segments of the fields whose lower case some query looks for, and a corpus counts
the words of the same texts in lower case.  Both see the same occurrences of a word: no sign becomes
a word in lower case, so the segments that are no words make no difference.

* `lower_of_mem_tokens`, `isWord_of_mem_tokens` — words of a text are words in lower case;
* `countP_segments` — **the segments whose lower case is a word** are as many as the word's
  occurrences;
* `FirstOwner`, `owner?_eq_some_iff`, `owner?_eq_none_iff` — the query that a colour stands for;
* `markSegment_eq_mark_iff`, `markSegment_eq_escape_iff` — **which segments are marked**, and how;
* `highlighting_agrees_with_matching` — **a page marks what a corpus has matched**.
-/

namespace Tagging

open Text

/-! ## Words and segments -/

section Words

variable {s t : String}

theorem mem_tokens : t ∈ tokens s ↔ ∃ segment ∈ segments s, isWord segment ∧ lower segment = t := by
  simp only [tokens, words, List.mem_map, List.mem_filter, and_assoc]

theorem lower_of_mem_tokens (h : t ∈ tokens s) : lower t = t := by
  obtain ⟨segment, -, -, rfl⟩ := mem_tokens.1 h
  exact lower_lower segment

theorem isWord_of_mem_tokens (h : t ∈ tokens s) : isWord t = true := by
  obtain ⟨segment, -, hword, rfl⟩ := mem_tokens.1 h
  rw [isWord_lower, hword]

/-- **The segments whose lower case is a word** are as many as the word's occurrences: all of them
are words. -/
theorem countP_segments (h : isWord t = true) (s : String) :
    ((segments s).countP fun segment => lower segment = t) = (tokens s).count t := by
  rw [tokens, words, List.count, List.countP_map, List.countP_filter]
  refine List.countP_congr fun segment _ => ?_
  rw [decide_eq_true_iff, Bool.and_eq_true, Function.comp_apply, beq_iff_eq]
  constructor
  · intro heq
    rw [← isWord_lower, heq]
    exact ⟨rfl, h⟩
  · rintro ⟨heq, -⟩
    exact heq

/-- **A corpus counts** a word in the name and the segments that become this word. -/
theorem countP_segments_add_count (h : isWord t = true) (d : Document) :
    ((d.fields.flatMap fun field => segments field.2).countP fun segment => lower segment = t) +
      (tokens d.displayName).count t = (IndexedDocument.ofDocument d).occurrences t := by
  have hfields : ((d.fields.flatMap fun field => segments field.2).countP
      fun segment => lower segment = t) = (d.fields.flatMap fun field => tokens field.2).count t := by
    rw [List.countP_flatMap, List.count_flatMap]
    exact congrArg List.sum (List.map_congr_left fun field _ => countP_segments h field.2)
  rw [hfields, IndexedDocument.occurrences, IndexedDocument.ofDocument, List.count_append,
    Nat.add_comm]

end Words

/-! ## Owners -/

section Owners

variable {queries : List NamedQuery} {word text t : String} {colour i : Nat}

theorem exists_mem_tokens_of_positive (h : t ∈ positiveTerms text) : ∃ piece, t ∈ tokens piece :=
  exists_token_of_mem_requiredWords (mem_positiveTerms.1 h)

/-- The words that a highlighter is given are in lower case already. -/
theorem loweredTerms_ofNamed (queries : List NamedQuery) :
    loweredTerms (queries.map HighlightQuery.ofNamed) =
      queries.map fun q => positiveTerms q.text := by
  rw [loweredTerms, List.map_map]
  refine List.map_congr_left fun q _ => ?_
  refine (List.map_congr_left fun t ht => ?_).trans (List.map_id _)
  obtain ⟨piece, hpiece⟩ := exists_mem_tokens_of_positive ht
  exact lower_of_mem_tokens hpiece

/-- The query at `i` is the first that looks for the word. -/
structure FirstOwner (queries : List NamedQuery) (word : String) (i : Nat) : Prop where
  /-- It looks for the word. -/
  looks : ∃ q, queries[i]? = some q ∧ word ∈ positiveTerms q.text
  /-- No query before it does. -/
  first : ∀ j q, j < i → queries[j]? = some q → word ∉ positiveTerms q.text

/-- The first owner is where a search from the front ends. -/
theorem findIdx?_eq_some_iff_firstOwner :
    (queries.map fun q => positiveTerms q.text).findIdx? (fun ts => ts.contains word) = some i ↔
      FirstOwner queries word i := by
  rw [List.findIdx?_map, List.findIdx?_eq_some_iff_getElem]
  simp only [Function.comp_apply, List.contains_iff_mem]
  constructor
  · rintro ⟨hi, hlooks, hfirst⟩
    refine ⟨⟨_, List.getElem?_eq_getElem hi, hlooks⟩, fun j q hj hq => ?_⟩
    obtain ⟨-, rfl⟩ := List.getElem?_eq_some_iff.1 hq
    exact hfirst j hj
  · rintro ⟨⟨q, hq, hlooks⟩, hfirst⟩
    obtain ⟨hi, rfl⟩ := List.getElem?_eq_some_iff.1 hq
    exact ⟨hi, hlooks, fun j hj =>
      hfirst j _ hj (List.getElem?_eq_getElem (Nat.lt_trans hj hi))⟩

/-- **A colour** is that of the first query that looks for the word. -/
theorem owner?_eq_some_iff :
    owner? (loweredTerms (queries.map HighlightQuery.ofNamed)) word = some colour ↔
      ∃ i, FirstOwner queries word i ∧ colour = i % paletteSize := by
  rw [owner?, loweredTerms_ofNamed, Option.map_eq_some_iff]
  exact exists_congr fun i => and_congr findIdx?_eq_some_iff_firstOwner eq_comm

/-- A word without a colour is one that no query looks for. -/
theorem owner?_eq_none_iff :
    owner? (loweredTerms (queries.map HighlightQuery.ofNamed)) word = none ↔
      ∀ q ∈ queries, word ∉ positiveTerms q.text := by
  rw [owner?, loweredTerms_ofNamed, Option.map_eq_none_iff, List.findIdx?_eq_none_iff]
  simp

end Owners

/-! ## Marks -/

section Marks

variable {queries : List NamedQuery} {s : String} {colour : Nat}

theorem lt_not_mem_escapeHtml (s : String) : '<' ∉ (escapeHtml s).toList := by
  rw [escapeHtml, String.toList_ofList, List.mem_flatMap]
  rintro ⟨c, -, hc⟩
  exact mem_escapeChar c hc

/-- A marked segment is none that is shown as it is. -/
theorem openMark_append_ne_escapeHtml (colour : Nat) (rest s : String) :
    openMark colour ++ rest ≠ escapeHtml s := by
  intro h
  apply lt_not_mem_escapeHtml s
  rw [← h, openMark, String.append_assoc, String.append_assoc, String.toList_append]
  exact List.mem_append_left _ (by decide)

theorem openMark_append_inj {colour colour' : Nat} {rest : String} :
    openMark colour ++ rest = openMark colour' ++ rest ↔ colour = colour' := by
  constructor
  · intro h
    have hnumber : toString colour = toString colour' := by
      simpa [openMark] using h
    exact toString_injective hnumber
  · rintro rfl
    rfl

/-- **A segment is marked** in the colour of the first query that looks for it in lower case. -/
theorem markSegment_eq_mark_iff :
    markSegment (loweredTerms (queries.map HighlightQuery.ofNamed)) s =
        openMark colour ++ escapeHtml s ++ "</mark>" ↔
      ∃ i, FirstOwner queries (lower s) i ∧ colour = i % paletteSize := by
  rw [← owner?_eq_some_iff, markSegment, String.append_assoc]
  cases h : owner? (loweredTerms (queries.map HighlightQuery.ofNamed)) (lower s) with
  | none =>
    simp only [reduceCtorEq, iff_false]
    exact fun heq => openMark_append_ne_escapeHtml _ _ _ heq.symm
  | some colour' =>
    dsimp only
    rw [String.append_assoc, openMark_append_inj, Option.some.injEq]

/-- **A segment is shown as it is** if no query looks for it. -/
theorem markSegment_eq_escape_iff :
    markSegment (loweredTerms (queries.map HighlightQuery.ofNamed)) s = escapeHtml s ↔
      ∀ q ∈ queries, lower s ∉ positiveTerms q.text := by
  rw [← owner?_eq_none_iff, markSegment]
  cases h : owner? (loweredTerms (queries.map HighlightQuery.ofNamed)) (lower s) with
  | none => simp
  | some colour =>
    simp only [reduceCtorEq, iff_false, String.append_assoc]
    exact openMark_append_ne_escapeHtml _ _ _

/-- A segment that some query looks for is marked. -/
theorem exists_markSegment_eq {q : NamedQuery} (hq : q ∈ queries)
    (h : lower s ∈ positiveTerms q.text) :
    ∃ colour, markSegment (loweredTerms (queries.map HighlightQuery.ofNamed)) s =
      openMark colour ++ escapeHtml s ++ "</mark>" := by
  cases howner : owner? (loweredTerms (queries.map HighlightQuery.ofNamed)) (lower s) with
  | none => exact absurd h (owner?_eq_none_iff.1 howner q hq)
  | some colour => exact ⟨colour, markSegment_eq_mark_iff.2 (owner?_eq_some_iff.1 howner)⟩

end Marks

/-! ## Pages -/

/-- A page ends with its fields in order, and a field is shown segment by segment. -/
theorem exists_highlightDocument_eq (d : Document) (queries : List NamedQuery) :
    ∃ front, highlightDocument d queries = front ++ String.join (d.fields.map fun field =>
      "<h2>" ++ escapeHtml field.1 ++ "</h2>\n<pre>" ++ String.join ((segments field.2).map
        (markSegment (loweredTerms (queries.map HighlightQuery.ofNamed)))) ++ "</pre>\n") ++
      "</body>\n</html>\n" :=
  ⟨_, rfl⟩

/-- **A page marks what a corpus has matched.**  The fields of a document are shown segment by
segment.  A segment is marked exactly if its lower case is a word that some query requires, and the
colour is that of the first such query.  Such a word occurs among the segments of the fields and the
words of the name as often as the corpus counts it, so if a query finds the document, each of its
words is marked in a field or stands in the name. -/
theorem highlighting_agrees_with_matching {documents : List Document} {address : Address}
    {d : Document} (hd : documents[address]? = some d) (queries : List NamedQuery) :
    let c := Corpus.ofDocuments documents
    let shown := markSegment (loweredTerms (queries.map HighlightQuery.ofNamed))
    (∃ front, Renderer.highlighting.render d queries =
      .answer (front ++ String.join (d.fields.map fun field =>
        "<h2>" ++ escapeHtml field.1 ++ "</h2>\n<pre>" ++
          String.join ((segments field.2).map shown) ++ "</pre>\n") ++ "</body>\n</html>\n")) ∧
    (∀ s colour, shown s = openMark colour ++ escapeHtml s ++ "</mark>" ↔
      ∃ i, FirstOwner queries (lower s) i ∧ colour = i % paletteSize) ∧
    (∀ s, shown s = escapeHtml s ↔ ∀ q ∈ queries, lower s ∉ positiveTerms q.text) ∧
    (∃ e, c.entries[address]? = some e ∧ e.document = d ∧
      ∀ text, ∀ t ∈ positiveTerms text,
        ((d.fields.flatMap fun field => segments field.2).countP fun s => lower s = t) +
          (tokens d.displayName).count t = e.occurrences t) ∧
    ∀ q ∈ queries, ∀ limit hits, c.search q.text limit = .ok hits →
      address ∈ hits.map Prod.fst → ∀ t ∈ positiveTerms q.text,
        t ∈ tokens d.displayName ∨
          ∃ field ∈ d.fields, ∃ s ∈ segments field.2, lower s = t ∧
            ∃ colour, shown s = openMark colour ++ escapeHtml s ++ "</mark>" := by
  intro c shown
  have hentry : c.entries[address]? = some (IndexedDocument.ofDocument d) := by
    show (documents.map IndexedDocument.ofDocument)[address]? = _
    rw [List.getElem?_map, hd, Option.map_some]
  refine ⟨?_, fun s colour => markSegment_eq_mark_iff, fun s => markSegment_eq_escape_iff,
    ⟨_, hentry, rfl, ?_⟩, ?_⟩
  · obtain ⟨front, hpage⟩ := exists_highlightDocument_eq d queries
    exact ⟨front, congrArg Reply.answer hpage⟩
  · intro text t ht
    obtain ⟨piece, hpiece⟩ := exists_mem_tokens_of_positive ht
    exact countP_segments_add_count (isWord_of_mem_tokens hpiece) d
  · intro q hq limit hits hsearch hhit t ht
    have hmatches := Corpus.matches_of_mem_search hsearch hhit hd
    rcases (hmatches.required t (mem_positiveTerms.1 ht)).cases with hname | ⟨field, hfield, hword⟩
    · exact .inl hname
    · obtain ⟨s, hs, -, rfl⟩ := mem_tokens.1 hword
      exact .inr ⟨field, hfield, s, hs, rfl, exists_markSegment_eq hq ht⟩

/-- Two queries look for one word, which has the colour of the first, and the corpus counts it where
it is marked. -/
theorem highlighting_agrees_with_matching_lease :
    let d : Document := ⟨"a", "a.txt", "docs/a.txt", [("body", "Lease & lease <renewal>")]⟩
    let queries : List NamedQuery :=
      [⟨1, "Leases", "lease -rent", -1, -1⟩, ⟨2, "Renewals", "renewal lease", -1, -1⟩]
    [d][0]? = some d ∧
    (∃ front, Renderer.highlighting.render d queries = .answer (front ++
      ("<h2>body</h2>\n<pre><mark class=\"q0\">Lease</mark> &amp; <mark class=\"q0\">lease</mark> " ++
      "&lt;<mark class=\"q1\">renewal</mark>&gt;</pre>\n</body>\n</html>\n"))) ∧
    (∃ i, FirstOwner queries "renewal" i ∧ 1 = i % paletteSize) ∧
    ∃ e, (Corpus.ofDocuments [d]).entries[0]? = some e ∧ e.occurrences "lease" = 2 := by
  intro d queries
  have hd : [d][0]? = some d := rfl
  obtain ⟨⟨front, hpage⟩, hmarked, -, ⟨e, hentry, -, hcount⟩, -⟩ :=
    highlighting_agrees_with_matching hd queries
  refine ⟨hd, ⟨front, ?_⟩, ?_, e, hentry, ?_⟩
  · rw [hpage, String.append_assoc]
    refine congrArg (fun rest => Reply.answer (front ++ rest)) ?_
    decide +kernel
  · have hlower : lower "renewal" = "renewal" := by decide +kernel
    have howner := (hmarked "renewal" 1).1 (by decide +kernel)
    rwa [hlower] at howner
  · rw [← hcount "lease" "lease" (by decide +kernel)]
    decide +kernel

end Tagging
