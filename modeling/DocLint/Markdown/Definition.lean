import DocLint.Markdown.Label
import DocLint.Markdown.Target

/-!
# Definitions

A definition gives a label a destination. Definitions stand at the start of a paragraph, one after
the other, each at the end of a line.

* `definition?` — a definition at the start of some text;
* `definitions` — all definitions at the start of a text, and the text after them.
-/

namespace DocLint.Markdown

/-- A definition: its extent and the key of its label. -/
structure Definition where
  start : Point
  stop : Point
  key : List Char
deriving Repr, Inhabited

/-- Whether a line ends here. -/
def atLineEnd (gs : List Glyph) : Bool := gs.head?.all (·.char == '\n')

/-- What follows a title and the blanks after it, if that is the end of a line. -/
def definitionTitle? (gs : List Glyph) : Option (List Glyph) :=
  if startsWithGap gs then
    (titleEnd? (skipGap gs)).bind fun rest =>
      if atLineEnd (skipSpaces rest) then some rest else none
  else none

/-- A definition at the start of a text that ends at `last`, and what follows it: a line ending and
more, or nothing. -/
def definition? (s : Source) (last : Point) (gs : List Glyph) :
    Option (Definition × List Glyph) :=
  match gs, skipSpaces gs with
  | first :: _, bracket :: inside =>
    if bracket.char != '[' then none
    else
      match labelEnd? inside with
      | some (closing :: colon :: rest) =>
        if colon.char != ':' then none
        else
          (destinationEnd? none (skipGap rest)).bind fun after =>
            let after := skipSpaces ((definitionTitle? after).getD after)
            if atLineEnd after then
              let stop := (after.head?.map (·.start)).getD last
              some (⟨first.start, stop, labelKey (labelText s inside (closing :: colon :: rest))⟩,
                after)
            else none
      | _ => none
  | _, _ => none

/-- The definitions at the start of a text, at most `fuel` of them, and the text after them. -/
def definitionsFrom (s : Source) (last : Point) : Nat → List Glyph → List Definition × List Glyph
  | 0, gs => ([], gs)
  | fuel + 1, gs =>
    match definition? s last gs with
    | some (d, rest) =>
      let (ds, text) := definitionsFrom s last fuel rest.tail
      (d :: ds, text)
    | none => ([], gs)

/-- The definitions at the start of a text, and the text after them. -/
def definitions (s : Source) (last : Point) (gs : List Glyph) : List Definition × List Glyph :=
  definitionsFrom s last gs.length gs

end DocLint.Markdown
