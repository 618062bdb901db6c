import DocLint.Markdown.Row

/-!
# Containers

A container holds blocks: a block quote, a list item or a footnote definition. It starts with a mark
at the start of a row, and goes on in the rows after it as long as they show that they belong to it:
a quote by its mark, the others by indentation.

* `Container.start?` — a container that starts in a row, and what is left of the row;
* `Container.continue?` — what is left of a row that belongs to an open container.
-/

namespace DocLint.Markdown

/-- Blocks that contain blocks. -/
inductive Container where
  | quote
  /-- an item of a list: the character that marks it, the indentation of its content, and whether it
  has only had blank rows so far -/
  | item (mark : Char) (size : Nat) (blank : Bool)
  | footnote
deriving DecidableEq, Repr, Inhabited

/-- A mark may be indented by less than a tab. -/
def maxIndent : Nat := tabSize - 1

/-- Whether a row is a thematic break: three or more of one mark, with blanks as one likes. -/
def isThematicBreak (gs : List Glyph) : Bool :=
  match dropSpaces maxIndent gs with
  | [] => false
  | g :: rest =>
    (g.char == '*' || g.char == '-' || g.char == '_') &&
      rest.all (fun h => h.char == g.char || h.isSpace) &&
      2 ≤ rest.countP (·.char == g.char)

/-- What follows the mark of a block quote. -/
def quoteMark? (gs : List Glyph) : Option (List Glyph) :=
  match dropSpaces maxIndent gs with
  | g :: rest => if g.char = '>' then some (dropSpaces 1 rest) else none
  | [] => none

/-! ## List items -/

/-- What follows the mark of a list item, with the character that tells lists apart. A number may
have at most nine digits, and one that interrupts a paragraph must be one. -/
def itemMark? (interrupting : Bool) (gs : List Glyph) : Option (Char × List Glyph) :=
  match dropSpaces maxIndent gs with
  | [] => none
  | g :: rest =>
    if g.char = '+' then some (g.char, rest)
    else if g.char = '*' ∨ g.char = '-' then
      if isThematicBreak (g :: rest) then none else some (g.char, rest)
    else if g.char.isDigit then
      let digits := (g :: rest).takeWhile (·.char.isDigit)
      if 9 < digits.length ∨ interrupting && (g.char != '1' || digits.length != 1) then none
      else
        match (g :: rest).drop digits.length with
        | m :: rest => if m.char = '.' ∨ m.char = ')' then some (m.char, rest) else none
        | [] => none
    else none

/-- The blanks between the mark of an item and its content: one to four of them, or one if there are
more, which then belong to the content. -/
def itemPadding (gs : List Glyph) : Option (List Glyph) :=
  match countSpaces gs with
  | 0 => none
  | n => if n ≤ tabSize then some (gs.drop n) else some (gs.drop 1)

/-- A list item that starts in a row. Its content is indented to the column after the padding; an
item that starts blank is indented by one more than its mark, and interrupts nothing. -/
def itemStart? (interrupting : Bool) (r : Row) : Option (Container × Row) :=
  (itemMark? interrupting r.glyphs).bind fun (mark, rest) =>
    let marked := r.withGlyphs rest
    if marked.isBlank then
      if interrupting then none
      else some (.item mark (sliceSize r.start marked.start + 1) true, marked)
    else
      (itemPadding rest).map fun padded =>
        let inner := r.withGlyphs padded
        (.item mark (sliceSize r.start inner.start) false, inner)

/-! ## Footnote definitions -/

/-- The most bytes a label may have. -/
def maxLabel : Nat := 999

/-- Whether a backslash makes a character plain inside a label. -/
def isLabelEscape (c : Char) : Bool := c == '[' || c == '\\' || c == ']'

/-- What follows the label of a footnote that `gs` is inside of, up to and with the bracket. `size`
is the number of bytes read so far, and `escaped` says whether a backslash comes right before. -/
def footnoteLabelEnd? (size : Nat) (escaped : Bool) : List Glyph → Option (List Glyph)
  | [] => none
  | g :: gs =>
    if escaped && isLabelEscape g.char then footnoteLabelEnd? (size + 1) false gs
    else if maxLabel < size ∨ g.isSpace ∨ g.char = '[' then none
    else if g.char = ']' then if size = 0 then none else some gs
    else footnoteLabelEnd? (size + g.char.utf8Size) (g.char == '\\') gs

/-- The glyphs of the label of a footnote definition that starts in a row, and what is left of it.
-/
def footnoteMark? (gs : List Glyph) : Option (List Glyph × List Glyph) :=
  match dropSpaces maxIndent gs with
  | a :: b :: inside =>
    if a.char = '[' ∧ b.char = '^' then
      (footnoteLabelEnd? 0 false inside).bind fun after =>
        match after with
        | colon :: rest =>
          if colon.char = ':' then
            some (inside.take (inside.length - after.length - 1), skipSpaces rest)
          else none
        | [] => none
    else none
  | _ => none

/-! ## Starting and going on -/

/-- A container that starts in a row, what is left of the row, and the label of a footnote. -/
def Container.start? (interrupting : Bool) (r : Row) :
    Option (Container × Row × Option (List Glyph)) :=
  match quoteMark? r.glyphs with
  | some rest => some (.quote, r.withGlyphs rest, none)
  | none =>
    match itemStart? interrupting r with
    | some (c, rest) => some (c, rest, none)
    | none =>
      (footnoteMark? r.glyphs).map fun (label, rest) => (.footnote, r.withGlyphs rest, some label)

/-- What is left of a row that belongs to an open container, and the container after it. -/
def Container.continue? (r : Row) : Container → Option (Container × Row)
  | .quote => (quoteMark? r.glyphs).map fun rest => (.quote, r.withGlyphs rest)
  | .item mark size blank =>
    if r.isBlank then
      if blank then none else some (.item mark size blank, r.withGlyphs (dropSpaces size r.glyphs))
    else if size ≤ countSpaces r.glyphs then
      some (.item mark size false, r.withGlyphs (r.glyphs.drop size))
    else none
  | .footnote =>
    if r.isBlank then some (.footnote, r.withGlyphs (dropSpaces tabSize r.glyphs))
    else if tabSize ≤ countSpaces r.glyphs then
      some (.footnote, r.withGlyphs (r.glyphs.drop tabSize))
    else none

end DocLint.Markdown
