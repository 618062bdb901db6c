import DocLint.Markdown.Tree
import DocLint.Markdown.Glyph

/-!
# Pieces of text

Text is cut into pieces: plain data, line endings, characters that were written in another way,
marks that may turn out to be emphasis or brackets, and the constructs that have been found.
Brackets become links as soon as they close; marks of emphasis are paired once the pieces are
complete, each within the link it lies in.
-/

namespace DocLint.Markdown

/-- A run of marks that may open or close emphasis. -/
structure Run where
  mark : Char
  start : Point
  stop : Point
  opens : Bool
  closes : Bool
deriving Repr, Inhabited

/-- The number of marks in a run. -/
def Run.size (r : Run) : Nat := r.stop.index - r.start.index

/-- A piece of text. -/
inductive Piece where
  /-- plain characters of one row -/
  | data (start stop : Point)
  | ending (start stop : Point)
  /-- characters written in another way -/
  | literal (start stop : Point) (value : List Char)
  /-- a hard break, up to the line ending that belongs to it -/
  | hardBreak (start stop : Point)
  | run (r : Run)
  /-- an opening bracket, with a number that tells it from the others -/
  | bracket (id : Nat) (start stop : Point)
  /-- a construct without pieces in it -/
  | leaf (construct : Construct) (start stop : Point) (value : Option (List Char))
  /-- a construct around other pieces -/
  | group (construct : Construct) (start stop : Point) (pieces : List Piece)
deriving Inhabited

namespace Piece

mutual

/-- A piece with what turned out to be nothing made data. -/
def settle : Piece → Piece
  | run r => data r.start r.stop
  | bracket _ start stop => data start stop
  | group construct start stop pieces => group construct start stop (settleAll pieces)
  | data start stop => data start stop
  | ending start stop => ending start stop
  | literal start stop value => literal start stop value
  | hardBreak start stop => hardBreak start stop
  | leaf construct start stop value => leaf construct start stop value

/-- Some pieces with what turned out to be nothing made data, and data joined. -/
def settleAll : List Piece → List Piece
  | [] => []
  | p :: ps =>
    match settle p, settleAll ps with
    | data start _, data _ stop :: qs => data start stop :: qs
    | q, qs => q :: qs

end

end Piece

/-! ## Blanks around lines -/

/-- The characters between two points, without the blanks that fill up a tab. -/
def Source.raw (s : Source) (start stop : Point) : List Char :=
  let first := if start.fill = 0 then start.index else start.index + 1
  let last := if stop.fill = 0 then stop.index else stop.index + 1
  (s.extract first last).toList

/-- The least number of blanks that make a hard break. -/
def hardBreakSize : Nat := 2

/-- Data without the blanks at its start, if anything else is left. -/
def trimDataStart (s : Source) (start stop : Point) : List Piece :=
  let blanks := (s.raw start stop).takeWhile isSpace
  if blanks.length = (s.raw start stop).length then []
  else
    let n := blanks.length
    if n = 0 ∧ start.fill = 0 then [.data start stop]
    else
      [.data ⟨start.line, start.column + n, start.offset + n, start.index + n, 0⟩ stop]

/-- Data without the blanks at its end; those before a line ending make a hard break if there are
enough of them. `atStart` says that blanks at the start go too. -/
def trimData (s : Source) (atStart atEnd breaking : Bool) (start stop : Point) : List Piece :=
  let blanks := if atEnd then (s.raw start stop).reverse.takeWhile isSpace else []
  let n := blanks.length
  let cut : Point :=
    if n = 0 ∧ stop.fill = 0 then stop
    else if atEnd then ⟨stop.line, stop.column - n, stop.offset - n, stop.index - n, 0⟩
    else stop
  let whole := n = (s.raw start stop).length
  let tail : List Piece :=
    if breaking && hardBreakSize ≤ n && blanks.all (· == ' ') && stop.fill == 0 then
      [.hardBreak (if whole then start else cut) stop]
    else []
  if atEnd && whole then tail
  else (if atStart then trimDataStart s start cut else [.data start cut]) ++ tail

/-- Trim the data next to line endings and at both ends of the text. `first` says that no piece
comes before, and `afterEnding` that a line ending does. -/
def trimPieces (s : Source) (outer first afterEnding : Bool) : List Piece → List Piece
  | [] => []
  | .data start stop :: ps =>
    let beforeEnding := match ps with
      | .ending _ _ :: _ => true
      | _ => false
    let atEnd := beforeEnding || outer && ps.isEmpty
    trimData s (first || afterEnding) atEnd beforeEnding start stop ++
      trimPieces s outer false false ps
  | .ending start stop :: ps => .ending start stop :: trimPieces s outer false true ps
  | p :: ps => p :: trimPieces s outer false false ps

mutual

/-- Trim the data inside a piece. -/
def trimInside (s : Source) : Piece → Piece
  | .group construct start stop pieces =>
    .group construct start stop (trimPieces s false false false (trimInsideAll s pieces))
  | .data start stop => .data start stop
  | .ending start stop => .ending start stop
  | .literal start stop value => .literal start stop value
  | .hardBreak start stop => .hardBreak start stop
  | .run r => .run r
  | .bracket id start stop => .bracket id start stop
  | .leaf construct start stop value => .leaf construct start stop value

def trimInsideAll (s : Source) : List Piece → List Piece
  | [] => []
  | p :: ps => trimInside s p :: trimInsideAll s ps

end

/-- The pieces of a text with the blanks around its lines trimmed. `first` says that nothing has
been cut off before them. -/
def trimText (s : Source) (first : Bool) (ps : List Piece) : List Piece :=
  trimPieces s true first false (trimInsideAll s ps)

end DocLint.Markdown
