import DocLint.Markdown.Row

/-!
# Headings

A heading is a row that starts with one to six number signs, or a paragraph with a row of equals
signs or hyphens under it.
-/

namespace DocLint.Markdown

/-- How far the text of a heading goes: the number of glyphs up to the end of its last word. A run
of number signs after a blank is no word. `inWord` says whether a word comes right before, `read`
how many glyphs have been read, and `last` how far the text went so far. -/
def headingLength (inWord : Bool) (read last : Nat) : List Glyph → Nat
  | [] => last
  | g :: gs =>
    if g.isSpace then headingLength false (read + 1) last gs
    else if inWord || g.char != '#' then headingLength true (read + 1) (read + 1) gs
    else headingLength false (read + 1) last gs

/-- The text of a heading that is all in its row. -/
def heading? (gs : List Glyph) : Option (List Glyph) :=
  let marked := dropSpaces (tabSize - 1) gs
  let level := (marked.takeWhile (·.char == '#')).length
  let rest := marked.drop level
  if level = 0 ∨ 6 < level ∨ !rest.head?.all Glyph.isSpace then none
  else
    let text := rest.dropWhile fun g => g.isSpace || g.char == '#'
    some (text.take (headingLength false 0 0 text))

/-- Whether a row can stand under a heading. -/
def isUnderline (gs : List Glyph) : Bool :=
  match dropSpaces (tabSize - 1) gs with
  | [] => false
  | g :: gs => (g.char == '=' || g.char == '-') && allSpaces (gs.dropWhile (·.char == g.char))

end DocLint.Markdown
