import DocLint.Markdown.Row

/-!
# Fenced code

A fence is a run of three or more of one mark. It opens a block of code that goes on until a fence
of the same mark that is at least as long. The rows between are kept as they are, less the
indentation of the opening fence.
-/

namespace DocLint.Markdown

/-- The fence that opens a block of code. -/
structure Fence where
  mark : Char
  /-- the length of the run -/
  size : Nat
  /-- the indentation, which the rows of the code lose -/
  indent : Nat
  start : Point
deriving DecidableEq, Repr, Inhabited

namespace Fence

/-- The least length of a fence. -/
def minSize : Nat := 3

/-- The fence that a row opens a block with. What follows a fence of backticks has none. -/
def open? (r : Row) : Option Fence :=
  match dropSpaces (tabSize - 1) r.glyphs with
  | [] => none
  | g :: gs =>
    let size := ((g :: gs).takeWhile (·.char == g.char)).length
    let info := gs.drop (size - 1)
    if g.char != '\x60' && g.char != '~' || size < minSize then none
    else if g.char == '\x60' && info.any (·.char == '\x60') then none
    else some ⟨g.char, size, sliceSize r.start g.start, g.start⟩

/-- Whether a row closes the block. -/
def closes (f : Fence) (gs : List Glyph) : Bool :=
  let gs := dropSpaces (tabSize - 1) gs
  f.size ≤ (gs.takeWhile (·.char == f.mark)).length &&
    allSpaces (gs.dropWhile (·.char == f.mark))

end Fence

/-- The text without one line ending at its start, if `atStart`, and without one at its end. -/
def trimEndings (atStart : Bool) (cs : List Char) : List Char :=
  let cs := match atStart, cs with
    | true, '\r' :: '\n' :: rest => rest
    | true, '\r' :: rest | true, '\n' :: rest => rest
    | _, _ => cs
  match cs.reverse with
  | '\n' :: '\r' :: rest | '\n' :: rest | '\r' :: rest => rest.reverse
  | _ => cs

end DocLint.Markdown
