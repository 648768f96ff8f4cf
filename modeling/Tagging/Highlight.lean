import Tagging.Corpus.Terms
import Tagging.Index
import Tagging.Text.Segment

/-!
# Highlighted pages

A page that shows one document with the words of the queries marked.  Each query has one of six
colours, in turn; a word that several queries look for has the colour of the first.  The five
characters with a meaning in markup are written as entities.

* `Text.escapeChar`, `Text.escapeHtml` — the written form, which opens no tag
  (`Text.mem_escapeChar`);
* `HighlightQuery` — a label and words;
* `owner?` — the colour of a segment;
* `page` — the page, `highlightDocument` — the page of a stored document under named queries;
* `Renderer` — a document and queries to a text, to a failure with its words, or to a breakdown;
* `Renderer.highlighting` — the page with the words of the queries marked;
* `Renderer.naming`, `Renderer.failing` — a page with nothing but the name, and no page at all, for
  trying out what a report makes of them.
-/

namespace Tagging

/-! ## Text inside markup -/

namespace Text

/-- The written form of one character. -/
def escapeChar (c : Char) : List Char :=
  if c = '&' then "&amp;".toList
  else if c = '<' then "&lt;".toList
  else if c = '>' then "&gt;".toList
  else if c = '"' then "&quot;".toList
  else if c = '\'' then "&#39;".toList
  else [c]

/-- The text with its special characters written as entities. -/
def escapeHtml (s : String) : String := String.ofList (s.toList.flatMap escapeChar)

/-- The written form of a character never opens a tag. -/
theorem mem_escapeChar (c : Char) : '<' ∉ escapeChar c := by
  unfold escapeChar
  repeat' split
  all_goals first | decide | (simp; intro h; subst h; contradiction)

end Text

/-! ## Pages -/

open Text

/-- A query as the page shows it. -/
structure HighlightQuery where
  /-- Its name in the legend. -/
  label : String
  /-- The words to mark. -/
  terms : List String
  deriving Repr, DecidableEq, Inhabited

/-- The query under which a page marks the required words of its text. -/
def HighlightQuery.ofNamed (q : NamedQuery) : HighlightQuery := ⟨q.name, positiveTerms q.text⟩

/-- How many colours there are. -/
def paletteSize : Nat := 6

/-- The rules for the look of a page. -/
def pageStyle : String :=
  "body\x7bfont-family:sans-serif;margin:2em;\x7d" ++
  "pre\x7bwhite-space:pre-wrap;\x7d" ++
  "mark.q0\x7bbackground:#ffe066;\x7dmark.q1\x7bbackground:#8ce99a;\x7d" ++
  "mark.q2\x7bbackground:#74c0fc;\x7dmark.q3\x7bbackground:#ffa8a8;\x7d" ++
  "mark.q4\x7bbackground:#d0bfff;\x7dmark.q5\x7bbackground:#ffc078;\x7d"

/-- The lower-case words of each query, in order. -/
def loweredTerms (queries : List HighlightQuery) : List (List String) :=
  queries.map (fun q => q.terms.map lower)

/-- The colour of the first query that looks for a word. -/
def owner? (terms : List (List String)) (word : String) : Option Nat :=
  (terms.findIdx? (fun ts => ts.contains word)).map (fun i => i % paletteSize)

/-- The opening tag of a mark. -/
def openMark (colour : Nat) : String := "<mark class=\"q" ++ toString colour ++ "\">"

/-- A segment of a field as the page shows it. -/
def markSegment (terms : List (List String)) (segment : String) : String :=
  match owner? terms (lower segment) with
  | some colour => openMark colour ++ escapeHtml segment ++ "</mark>"
  | none => escapeHtml segment

/-- A field text with its marks. -/
def markText (terms : List (List String)) (text : String) : String :=
  String.join ((segments text).map (markSegment terms))

/-- The entries of the legend, colours counted from `i`. -/
def legendFrom (i : Nat) : List HighlightQuery → List String
  | [] => []
  | q :: rest =>
    ("<li>" ++ openMark (i % paletteSize) ++ escapeHtml q.label ++ "</mark></li>\n") ::
      legendFrom (i + 1) rest

/-- The legend, absent when there is no query. -/
def legend (queries : List HighlightQuery) : String :=
  if queries.isEmpty then ""
  else "<ul class=\"legend\">\n" ++ String.join (legendFrom 0 queries) ++ "</ul>\n"

/-- A field with its name and its marked text. -/
def fieldSection (terms : List (List String)) (field : String × String) : String :=
  "<h2>" ++ escapeHtml field.1 ++ "</h2>\n<pre>" ++ markText terms field.2 ++ "</pre>\n"

/-- The page of a document under queries. -/
def page (title relativePath : String) (fields : List (String × String))
    (queries : List HighlightQuery) : String :=
  "<!DOCTYPE html>\n<html>\n<head>\n<meta charset=\"utf-8\">\n<title>" ++ escapeHtml title ++
  "</title>\n<style>" ++ pageStyle ++ "</style>\n</head>\n<body>\n<h1>" ++ escapeHtml title ++
  "</h1>\n<p>" ++ escapeHtml relativePath ++ "</p>\n" ++ legend queries ++
  String.join (fields.map (fieldSection (loweredTerms queries))) ++ "</body>\n</html>\n"

/-- The page of a stored document under the queries that matched it. -/
def highlightDocument (d : Document) (queries : List NamedQuery) : String :=
  page d.displayName d.relativePath d.fields (queries.map HighlightQuery.ofNamed)

/-! ## Renderers -/

/-- Makes the text of a snapshot. -/
structure Renderer where
  /-- The text for a document under the queries that matched it. -/
  render : Document → List NamedQuery → Reply String

namespace Renderer

/-- The page with the words of the queries marked. -/
def highlighting : Renderer := ⟨fun d queries => .answer (highlightDocument d queries)⟩

/-- A page that shows the name of the document as it is. -/
def naming : Renderer :=
  ⟨fun d _ => .answer ("<html><body>" ++ d.displayName ++ "</body></html>")⟩

/-- Renders nothing. -/
def failing : Renderer := ⟨fun d _ => .failure ("Render failed for " ++ d.fileId ++ ".")⟩

end Renderer

end Tagging
