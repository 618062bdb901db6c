import DocLint.Markdown.Block
import DocLint.Markdown.Container

/-!
# Outlines

An outline lists what the rows of a document say, in order: where containers start and end, and the
leaves between. From it the blocks are put together.

* `Entry` — one item of an outline;
* `Outline.blocks` — the blocks of an outline;
* `Outline.definitionKeys`, `Outline.footnoteKeys` — the keys of the labels it defines.
-/

namespace DocLint.Markdown

/-- An item of an outline. -/
inductive Entry where
  /-- a container starts; a footnote has a key -/
  | enter (container : Container) (start : Point) (key : Option (List Char))
  /-- the innermost container ends -/
  | exit (stop : Point)
  /-- a finished block -/
  | block (b : Block)
  /-- rows of text: definitions and a paragraph -/
  | content (rows : List Row)
  /-- a row of equals signs or hyphens under what came before -/
  | underline (row : Row)
deriving Inhabited

namespace Outline

/-- A container that has not ended, or the document itself. -/
structure Frame where
  container : Option Container := none
  start : Point
  /-- the blocks so far, last one first -/
  blocks : List Block := []
  /-- an underline that came last and is a paragraph of its own -/
  lone : Option Row := none
deriving Inhabited

namespace Frame

/-- A frame with one more block. -/
def add (f : Frame) (b : Block) : Frame := { f with blocks := b :: f.blocks, lone := none }

/-- Put an item into the list before it if that has the same mark, else into a list of its own. -/
def addItem (f : Frame) (mark : Char) (item : Block) (start stop : Point) : Frame :=
  let alone := f.add (.group .list start stop (some mark) [item])
  match f.blocks with
  | .group .list first _ (some m) items :: bs =>
    if m = mark then
      { f with blocks := .group .list first stop (some mark) (items ++ [item]) :: bs, lone := none }
    else alone
  | _ => alone

/-- The frame around one that ends, with the group that the latter becomes. -/
def addGroup (around f : Frame) (stop : Point) : Frame :=
  let group (c : Construct) : Block := .group c f.start stop none f.blocks.reverse
  match f.container with
  | some .quote => around.add (group .blockQuote)
  | some (.item mark _ _) => around.addItem mark (group .listItem) f.start stop
  | some .footnote => around.add (group .footnoteDefinition)
  | none => around

/-- Whether a frame is a quote. -/
def isQuote (f : Frame) : Bool := f.container == some .quote

/-- Whether a paragraph may start with a check box: it is the first one in its item, and the mark of
a quote around the item has not come again since. -/
def taskPlace (f : Frame) (around : List Frame) (start : Point) : TaskPlace :=
  match f.container with
  | some (.item _ _ _) =>
    if f.start.line != start.line && around.any isQuote then .never
    else if f.blocks.isEmpty then .first
    else if f.blocks.all Block.isDefinition then .later
    else .never
  | _ => .never

/-- Add the blocks of some rows of text. Right after an underline that is a paragraph of its own at
the outermost level, the text goes on with that paragraph. -/
def addContent (s : Source) (f : Frame) (around : List Frame) (rows : List Row) : Frame :=
  match rows, rows.getLast? with
  | first :: _, some last =>
    let (ds, text) := definitions s last.stop (joinRows rows)
    let f' : Frame :=
      { f with blocks := (ds.map Block.ofDefinition).reverse ++ f.blocks, lone := none }
    match text with
    | [] => f'
    | g :: gs =>
      match f.lone, ds, f.blocks with
      | some u, [], _ :: bs =>
        if around.isEmpty && u.next.line == first.start.line then
          { f with
            blocks := .text .paragraph u.start last.stop false .never (u.full ++ g :: gs) :: bs
            lone := none }
        else f'.add (.text .paragraph g.start last.stop false .never (g :: gs))
      | _, _, _ =>
        f'.add (.text .paragraph g.start last.stop false (f'.taskPlace around g.start) (g :: gs))
  | _, _ => f

/-- Add an underline: the paragraph before it becomes a heading, or it is a paragraph itself. -/
def addUnderline (f : Frame) (u : Row) : Frame :=
  match f.blocks with
  | .text .paragraph start _ plain _ content :: bs =>
    { f with blocks := .text .heading start u.stop plain .never content :: bs, lone := none }
  | bs =>
    { f with
      blocks := .text .paragraph u.start u.stop true .never u.glyphs :: bs
      lone := some u }

end Frame

/-- The frames after one more item of an outline, innermost first. -/
def step (s : Source) : List Frame → Entry → List Frame
  | [], _ => []
  | f :: fs, .enter c start _ => { container := some c, start } :: { f with lone := none } :: fs
  | [f], .exit _ => [f]
  | f :: g :: fs, .exit stop => g.addGroup f stop :: fs
  | f :: fs, .block b => f.add b :: fs
  | f :: fs, .content rows => f.addContent s fs rows :: fs
  | f :: fs, .underline u => f.addUnderline u :: fs

/-- The blocks of an outline. -/
def blocks (s : Source) (entries : List Entry) : List Block :=
  match entries.foldl (step s) [{ start := ⟨1, 1, 0, 0, 0⟩ }] with
  | f :: _ => f.blocks.reverse
  | [] => []

/-- The keys of the definitions in an outline. -/
def definitionKeys (s : Source) (entries : List Entry) : List (List Char) :=
  entries.flatMap fun
    | .content rows =>
      (definitions s default (joinRows rows)).1.map (·.key)
    | _ => []

/-- The keys of the footnotes in an outline. -/
def footnoteKeys (entries : List Entry) : List (List Char) :=
  entries.filterMap fun
    | .enter _ _ key => key
    | _ => none

end Outline

end DocLint.Markdown
