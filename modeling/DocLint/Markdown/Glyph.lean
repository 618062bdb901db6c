import DocLint.Text.Position

/-!
# Glyphs

Markdown is read as a sequence of glyphs. A glyph is a character together with the points before and
after it. Two things are not one glyph for each character: a line ending is one glyph whether it is
written with one character or with two, and a tab fills the line up to the next multiple of four
columns, so that it is a tab glyph followed by as many filling blanks as columns remain.

* `glyphs` — the glyphs of a source;
* `Source.slice` — the text between two points, where a point may lie inside a tab.
-/

namespace DocLint.Markdown

/-- A place in a source. Columns count bytes, tabs apart. -/
structure Point where
  line : Nat
  column : Nat
  /-- the bytes before the point -/
  offset : Nat
  /-- the characters before the point -/
  index : Nat
  /-- how many columns of the tab at `index` lie before the point -/
  fill : Nat := 0
deriving DecidableEq, Repr, Inhabited

/-- The position of a point. -/
def Point.position (p : Point) : Position := ⟨p.line, p.column, p.offset⟩

/-- The span between two points. -/
def Point.spanTo (a b : Point) : Span := ⟨a.position, b.position⟩

/-- A character and the points before and after it; a line ending is a line feed. -/
structure Glyph where
  char : Char
  start : Point
  stop : Point
deriving DecidableEq, Repr, Inhabited

/-- Tabs stop at every fourth column. -/
def tabSize : Nat := 4

/-- The blanks that fill a tab, after the tab glyph itself. `left` columns remain. -/
def filling (tab : Point) (column fill : Nat) : Nat → List Glyph
  | 0 => []
  | left + 1 =>
    let start : Point := { tab with column := column, fill := fill }
    let stop : Point :=
      if left = 0 then ⟨tab.line, column + 1, tab.offset + 1, tab.index + 1, 0⟩
      else { tab with column := column + 1, fill := fill + 1 }
    ⟨' ', start, stop⟩ :: filling tab (column + 1) (fill + 1) left

/-- The glyphs of a tab at a point. -/
def tabGlyphs (p : Point) : List Glyph :=
  let width := tabSize - (p.column - 1) % tabSize
  let stop : Point :=
    if width = 1 then ⟨p.line, p.column + 1, p.offset + 1, p.index + 1, 0⟩
    else { p with column := p.column + 1, fill := 1 }
  ⟨'\t', p, stop⟩ :: filling p (p.column + 1) 1 (width - 1)

/-- The point after a tab that starts at `p`. -/
def Point.afterTab (p : Point) : Point :=
  ⟨p.line, p.column + (tabSize - (p.column - 1) % tabSize), p.offset + 1, p.index + 1, 0⟩

/-- The point after a line ending of `n` characters. -/
def Point.afterEnding (p : Point) (n : Nat) : Point := ⟨p.line + 1, 1, p.offset + n, p.index + n, 0⟩

/-- The point after any other character. -/
def Point.after (p : Point) (c : Char) : Point :=
  ⟨p.line, p.column + c.utf8Size, p.offset + c.utf8Size, p.index + 1, 0⟩

/-- The glyphs of a text that starts at a point. -/
def glyphsFrom (p : Point) : List Char → List Glyph
  | [] => []
  | '\r' :: '\n' :: cs => ⟨'\n', p, p.afterEnding 2⟩ :: glyphsFrom (p.afterEnding 2) cs
  | c :: cs =>
    if c = '\n' ∨ c = '\r' then ⟨'\n', p, p.afterEnding 1⟩ :: glyphsFrom (p.afterEnding 1) cs
    else if c = '\t' then tabGlyphs p ++ glyphsFrom p.afterTab cs
    else ⟨c, p, p.after c⟩ :: glyphsFrom (p.after c) cs

/-- The mark that may come before a text and is not part of it. -/
def byteOrderMark : Char := Char.ofNat 0xFEFF

/-- The glyphs of a source, after a byte order mark if there is one. -/
def glyphs (source : List Char) : List Glyph :=
  let start : Point := ⟨1, 1, 0, 0, 0⟩
  match source with
  | [] => []
  | c :: cs =>
    if c = byteOrderMark then glyphsFrom (start.after c) cs else glyphsFrom start (c :: cs)

/-! ## Text between points -/

/-- The characters of a source, by index. -/
abbrev Source := Array Char

/-- The text between two points. A start inside a tab stands for the blanks up to a full tab; a stop
inside a tab stands for the tab and the blanks before the stop but one. -/
def Source.slice (s : Source) (start stop : Point) : List Char :=
  let first := if start.fill = 0 then start.index else start.index + 1
  let last := if stop.fill = 0 then stop.index else stop.index + 1
  let before := if start.fill = 0 then 0 else tabSize - start.fill
  List.replicate before ' ' ++ (s.extract first last).toList ++ List.replicate (stop.fill - 1) ' '

/-- The length in bytes of the text between two points. -/
def sliceSize (start stop : Point) : Nat :=
  let first := if start.fill = 0 then start.offset else start.offset + 1
  let last := if stop.fill = 0 then stop.offset else stop.offset + 1
  (if start.fill = 0 then 0 else tabSize - start.fill) + (last - first) + (stop.fill - 1)

/-- The text of glyphs in a row. -/
def Source.text (s : Source) (gs : List Glyph) : List Char :=
  match gs, gs.getLast? with
  | first :: _, some last => s.slice first.start last.stop
  | _, _ => []

/-! ## Blanks -/

/-- Whether a character is a blank or a tab. -/
def isSpace (c : Char) : Bool := c == ' ' || c == '\t'

/-- Whether a glyph is a blank or a tab. -/
def Glyph.isSpace (g : Glyph) : Bool := Markdown.isSpace g.char

/-- Drop at most `max` blanks. -/
def dropSpaces : Nat → List Glyph → List Glyph
  | 0, gs => gs
  | _ + 1, [] => []
  | max + 1, g :: gs => if g.isSpace then dropSpaces max gs else g :: gs

/-- Drop all blanks. -/
def skipSpaces (gs : List Glyph) : List Glyph := gs.dropWhile Glyph.isSpace

/-- How many blanks come first. -/
def countSpaces (gs : List Glyph) : Nat := (gs.takeWhile Glyph.isSpace).length

/-- Whether there are only blanks. -/
def allSpaces (gs : List Glyph) : Bool := gs.all Glyph.isSpace

end DocLint.Markdown
