import DocLint.Markdown.FrontMatter
import DocLint.Markdown.Inline
import DocLint.Markdown.Reader

/-!
# Markdown documents

A Markdown source becomes a tree in four steps: its glyphs are cut into rows, the rows make up an
outline, the outline is put together to blocks, and the text in the blocks is read.

* `tree` — the constructs of a source;
* `parse` — its document tree.
-/

namespace DocLint.Markdown

/-- Text that is not read any further. -/
def plainText (s : Source) (gs : List Glyph) : List Tree :=
  match gs, gs.getLast? with
  | g :: _, some h =>
    [.node .text (some (g.start.spanTo h.stop)) (some (String.ofList (s.text gs))) []]
  | _, _ => []

/-! ## Tasks -/

/-- The position after the first character of a text, which is a blank or a line ending, and what
comes after it. -/
def afterFirst (p : Position) : List Char → Position × List Char
  | '\r' :: '\n' :: cs => (⟨p.line + 1, 1, p.offset + 2⟩, cs)
  | c :: cs =>
    if c = '\n' ∨ c = '\r' then (⟨p.line + 1, 1, p.offset + 1⟩, cs)
    else (⟨p.line, p.column + 1, p.offset + 1⟩, cs)
  | [] => (p, [])

/-- The trees after a check box, without the blank that sets them off, and the position that their
paragraph starts at, which was `start`. -/
def dropLead (start : Position) : List Tree → Position × List Tree
  | .node .text (some span) (some value) children :: ts =>
    let (p, cs) := afterFirst span.start value.toList
    (p, if cs = [] then ts
      else .node .text (some { span with start := p }) (some (String.ofList cs)) children :: ts)
  | ts => (start, ts)

/-- A paragraph that may start with a check box. -/
def taskTree (c : Inline.Setting) (place : TaskPlace) (construct : Construct) (start stop : Point)
    (content : List Glyph) : Tree :=
  let box := if place = .never then none else Inline.afterCheckBox? content
  match box, place with
  | some rest, .first =>
    let (p, ts) := dropLead start.position (Inline.trees c false rest)
    .node construct (some ⟨p, stop.position⟩) none ts
  | some rest, _ => .node construct (some (start.spanTo stop)) none (Inline.trees c false rest)
  | none, _ => .node construct (some (start.spanTo stop)) none (Inline.trees c true content)

/-! ## Blocks -/

/-- A cell of a table. -/
def cellTree (c : Inline.Setting) (cell : Table.Cell) : Tree :=
  .node .tableCell (some (cell.start.spanTo cell.stop)) none
    (Inline.trees { c with inTable := true } true cell.text)

/-- A row of a table. -/
def rowTree (c : Inline.Setting) (r : TableRow) : Tree :=
  .node .tableRow (some (r.start.spanTo r.stop)) none (r.cells.map (cellTree c))

mutual

/-- The tree of a block. -/
def Block.tree (c : Inline.Setting) : Block → Tree
  | .leaf construct start stop value =>
    .node construct (some (start.spanTo stop)) (value.map String.ofList) []
  | .text construct start stop plain task content =>
    if plain then .node construct (some (start.spanTo stop)) none (plainText c.source content)
    else taskTree c task construct start stop content
  | .table start stop rows =>
    .node .table (some (start.spanTo stop)) none (rows.map (rowTree c))
  | .group construct start stop _ children =>
    .node construct (some (start.spanTo stop)) none (Block.trees c children)

def Block.trees (c : Inline.Setting) : List Block → List Tree
  | [] => []
  | b :: bs => Block.tree c b :: Block.trees c bs

end

/-! ## Documents -/

/-- The constructs of a source. -/
def tree (source : List Char) : Tree :=
  let s : Source := source.toArray
  let (rows, nesting) := dropMatter (rowsFrom (glyphs source))
  let entries := outline s nesting rows
  let definitions : Definitions := ⟨Outline.definitionKeys s entries, Outline.footnoteKeys entries⟩
  .node .root none none
    (Block.trees { source := s, definitions } (Outline.blocks s entries))

/-- The document tree of a source. -/
def parse (source : List Char) : Node := (tree source).document source

end DocLint.Markdown
