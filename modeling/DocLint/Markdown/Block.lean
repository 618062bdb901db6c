import DocLint.Markdown.Definition
import DocLint.Markdown.Row
import DocLint.Markdown.Table
import DocLint.Markdown.Tree

/-!
# Blocks

The blocks of a document before the text in them is read. A block is a leaf, whose text is final; a
piece of text still to be read; a table; or a group of other blocks.

* `Block` — a block of any sort;
* `Block.ofRows` — the rows of a table as a block.
-/

namespace DocLint.Markdown

/-- A row of a table. -/
structure TableRow where
  start : Point
  stop : Point
  cells : List Table.Cell
deriving Repr, Inhabited

/-- Whether a paragraph may start with a check box. -/
inductive TaskPlace where
  | never
  /-- it is the first block of its item -/
  | first
  /-- only definitions come before it in its item -/
  | later
deriving DecidableEq, Repr, Inhabited

/-- A block whose text is still to be read. -/
inductive Block where
  | leaf (construct : Construct) (start stop : Point) (value : Option (List Char))
  /-- a paragraph or a heading; `plain` says that its text is not read any further -/
  | text (construct : Construct) (start stop : Point) (plain : Bool) (task : TaskPlace)
      (content : List Glyph)
  | table (start stop : Point) (rows : List TableRow)
  /-- other blocks; a list has the mark of its items -/
  | group (construct : Construct) (start stop : Point) (mark : Option Char) (children : List Block)
deriving Inhabited

namespace Block

/-- A definition as a block. -/
def ofDefinition (d : Definition) : Block := leaf .definition d.start d.stop none

/-- Whether a block is a definition. -/
def isDefinition : Block → Bool
  | leaf .definition _ _ _ => true
  | _ => false

/-- A row of a table, with its cells. -/
def tableRow (r : Row) : TableRow := ⟨r.start, r.stop, Table.cells r⟩

/-- A table of some rows that ends at a point. -/
def ofRows (rows : List Row) (stop : Point) : List Block :=
  match rows with
  | first :: _ => [table first.start stop (rows.map tableRow)]
  | [] => []

end Block

end DocLint.Markdown
