import DocLint.Text.Slice

/-!
# The extent of a document

A document covers its whole source: it starts at the origin and ends on the line and column that the
line feeds and the last line of the source count out.
-/

namespace DocLint.Document

/-- The text after the last line feed; the whole text if there is none. -/
def lastLine : List Char → List Char
  | [] => []
  | c :: cs => if '\n' ∈ cs then lastLine cs else if c = '\n' then cs else c :: cs

/-- Where a source ends: one line for each line feed, and one column for each character after the
last of them. -/
def extentEnd (source : List Char) : Position :=
  ⟨source.count '\n' + 1, (lastLine source).length + 1, Text.byteSize source⟩

/-- The span of a whole source. -/
def extent (source : List Char) : Span := ⟨Position.origin, extentEnd source⟩

end DocLint.Document
