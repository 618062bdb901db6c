import DocLint.Markdown.Glyph

/-!
# Rows

A row is a line of glyphs, or what is left of it after the marks of the containers around it. A line
ending belongs to the row it ends; a source that ends with a line ending has no row after it.
-/

namespace DocLint.Markdown

/-- What is left of a line: its glyphs, the point where they end, and the line ending if there is
one. -/
structure Row where
  glyphs : List Glyph
  stop : Point
  ending : Option Glyph
deriving DecidableEq, Repr, Inhabited

namespace Row

/-- Where a row starts. -/
def start (r : Row) : Point :=
  match r.glyphs with
  | g :: _ => g.start
  | [] => r.stop

/-- The point after a row and its line ending. -/
def next (r : Row) : Point := (r.ending.map (·.stop)).getD r.stop

/-- Whether a row has nothing but blanks. -/
def isBlank (r : Row) : Bool := allSpaces r.glyphs

/-- The row with other glyphs left of it. -/
def withGlyphs (r : Row) (glyphs : List Glyph) : Row := { r with glyphs }

/-- The glyphs of a row and its line ending. -/
def full (r : Row) : List Glyph := r.glyphs ++ r.ending.toList

/-- The text of a row and its line ending. -/
def text (s : Source) (r : Row) : List Char :=
  s.slice r.start r.stop ++ (r.ending.map fun e => s.slice e.start e.stop).getD []

end Row

/-- The rows of a text that starts at a point. -/
def rowsFrom : List Glyph → List Row
  | [] => []
  | g :: gs =>
    if g.char = '\n' then ⟨[], g.start, some g⟩ :: rowsFrom gs
    else
      match gs with
      | [] => [⟨[g], g.stop, none⟩]
      | _ =>
        match rowsFrom gs with
        | [] => [⟨[g], g.stop, none⟩]
        | r :: rs => r.withGlyphs (g :: r.glyphs) :: rs

/-- The content of rows that follow each other: all their glyphs but the last line ending. -/
def joinRows : List Row → List Glyph
  | [] => []
  | [r] => r.glyphs
  | r :: rs => r.full ++ joinRows rs

end DocLint.Markdown
