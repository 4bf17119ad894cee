import Stencil.Proofs.Html.Parsing
import Stencil.Proofs.Html.Plain

/-!
# Proofs/Html/RoundTrip — what is written is what is read

    nodes ──write──▸ characters ──parser──▸ parts ──nodes──▸ nodes

What is written for plain nodes is a plain fragment that spells them (`Plain.spelled`), and a parser is assumed
to read plain fragments as they are spelled.  So no text or attribute value, whatever it looks like, becomes
markup.

One thing is lost on the way: where the parser begins anew, a mark of the byte order is no part of a text to
it.  It begins anew in front of everything, and perhaps behind elements of some tags, such as scripts; that is
for the dialect to say.
-/

namespace Stencil.Html

variable {parser : Parser} {d : Dialect} {nodes : List Node}

/-- **Written nodes are read as they were**, without the marks that the parser passes over. -/
theorem read_ofNodes_eq_unmarked (hparser : parser.Reads d) (h : Plain d [] nodes) :
    read parser (ofNodes nodes) = unmarked d true nodes := by
  obtain ⟨parts, hspelled, hnodes, -⟩ := h.spelled true
  rw [read, ofNodes, hparser.spelled hspelled, hnodes]

/-- **Reading written HTML gives the nodes back.**  Only marks of the byte order are lost, in front of texts
where the parser begins anew. -/
theorem read_ofNodes (hparser : parser.Reads d) (h : Plain d [] nodes) :
    (marked d true nodes = false → read parser (ofNodes nodes) = nodes) ∧
      read parser (ofNodes nodes) = unmarked d true nodes :=
  ⟨fun hmarked => (read_ofNodes_eq_unmarked hparser h).trans (h.unmarked_eq hmarked),
    read_ofNodes_eq_unmarked hparser h⟩

/-- Paragraphs that are not inside one another, with emphasis, line breaks and scripts. -/
def Dialect.paragraphs : Dialect where
  element around tag := tag ∈ ["em", "br", "script"] ∨ tag = "p" ∧ "p" ∉ around
  text _ := True
  resumes _ := false

theorem Dialect.simple_paragraphs : Dialect.paragraphs.Simple where
  element around tag h := by
    rcases h with h | ⟨rfl, -⟩
    · exact (by decide : ∀ tag ∈ ["em", "br", "script"], tag ∉ specialTags) tag h
    · decide
  resumes _ := rfl

/-- Data that looks like markup, in a value, a text and a script. -/
theorem read_ofNodes_page :
    let page : List Node :=
      [.mk (.element "p") [("title", "\"5 < 6\" & &#65;"), ("data-id", "1")]
          [.text "if a < b && c > d, &amp; &#65;\u00a0<br>", .mk (.element "br") [] [],
            .mk (.element "em") [] []],
        .mk (.element "script") [] [.text "a && b > c &lt;"], .text "\n"]
    parse.Reads .paragraphs ∧ Plain .paragraphs [] page ∧ marked .paragraphs true page = false ∧
      read parse (ofNodes page) = page := by
  intro page
  have hinside : Plain .paragraphs ["p"]
      [.text "if a < b && c > d, &amp; &#65;\u00a0<br>", .mk (.element "br") [] [],
        .mk (.element "em") [] []] :=
    .text trivial (by decide) (by decide) rfl <| .void (.inl (by decide)) (by decide) (by decide) <|
      .element (.inl (by decide)) (by decide) (by decide) .nil .nil
  have hpage : Plain .paragraphs [] page :=
    .element (.inr ⟨rfl, by decide⟩) (by decide) (by decide) hinside <|
      .raw (.inl (by decide)) (by decide) (by decide) (.text (by decide) (by decide) (by decide)) <|
        .text trivial (by decide) (by decide) rfl .nil
  have hreads := parse_reads Dialect.simple_paragraphs
  exact ⟨hreads, hpage, rfl, (read_ofNodes hreads hpage).1 rfl⟩

/-- A text with a mark in front is plain like any other, but is not read as it was. -/
theorem read_ofNodes_mark :
    parse.Reads .paragraphs ∧ Plain .paragraphs [] [.text "\ufeffa"] ∧
      read parse (ofNodes [.text "\ufeffa"]) = [.text "a"] ∧
      read parse (ofNodes [.text "\ufeffa"]) ≠ [.text "\ufeffa"] := by
  have hreads := parse_reads Dialect.simple_paragraphs
  have hplain : Plain .paragraphs [] [.text "\ufeffa"] := .text trivial (by decide) (by decide) rfl .nil
  have hread : read parse (ofNodes [.text "\ufeffa"]) = [.text "a"] :=
    read_ofNodes_eq_unmarked hreads hplain
  exact ⟨hreads, hplain, hread, hread ▸ by decide⟩

end Stencil.Html
