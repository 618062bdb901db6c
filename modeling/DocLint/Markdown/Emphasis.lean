import DocLint.Markdown.Piece
import DocLint.Text.Blank
import DocLint.Text.Punctuation

/-!
# Emphasis

A run of stars or underscores may open emphasis, close it, or both, depending on the characters
around it; so may a run of tildes, which strikes text out. Each closing run is paired with the
nearest run before it that can open and fits. Pairs of two marks make strong emphasis.

* `Run.of` — a run with what it can do;
* `pairRuns` — the pieces of a text with its runs paired.
-/

namespace DocLint.Markdown

/-- What a character is to a run next to it. -/
inductive Neighbour where
  | blank
  | punctuation
  | other
deriving DecidableEq, Repr

/-- What a character is; the ends of a source are blank. -/
def Neighbour.of : Option Char → Neighbour
  | none => blank
  | some c =>
    if Text.isBlank c then blank else if Text.isPunctuation c then punctuation else other

/-- A mark of emphasis. -/
def isRunMark (c : Char) : Bool := c == '*' || c == '_' || c == '~'

/-- The run between two points of a source. A run is open to a side where there is a character that
is neither blank nor punctuation, or where there is punctuation while the other side has none of
that. Stars and underscores are open to the side of any other mark. An underscore inside a word is
not open to both sides. -/
def Run.of (s : Source) (mark : Char) (start stop : Point) : Run :=
  let before := if start.index = 0 then none else s[start.index - 1]?
  let after := s[stop.index]?
  let left := Neighbour.of before
  let right := Neighbour.of after
  let opens := right = .other || right = .punctuation && left ≠ .other ||
    mark ≠ '~' && after.any isRunMark
  let closes := left = .other || left = .punctuation && right ≠ .other ||
    mark ≠ '~' && before.any isRunMark
  if mark = '_' then
    ⟨mark, start, stop, opens && (left ≠ .other || !closes), closes && (right ≠ .other || !opens)⟩
  else ⟨mark, start, stop, opens, closes⟩

/-- Whether two runs make a pair. If one of them can do both, their sizes must not add up to a
multiple of three, unless the size of the second is itself a multiple of three. Tildes pair in equal
runs of one or two. -/
def Run.pairs (first second : Run) : Bool :=
  first.opens && first.mark == second.mark &&
    !((first.closes || second.opens) && second.size % 3 != 0 &&
      (first.size + second.size) % 3 == 0) &&
    (second.mark != '~' || second.size == first.size && second.size ≤ 2)

/-- A point some columns on. -/
def Point.forth (p : Point) (n : Nat) : Point :=
  { p with column := p.column + n, offset := p.offset + n, index := p.index + n }

/-- A point some columns back. -/
def Point.back (p : Point) (n : Nat) : Point :=
  { p with column := p.column - n, offset := p.offset - n, index := p.index - n }

/-- The run as a piece, if any of it is left. -/
def Run.rest (r : Run) : List Piece := if r.size = 0 then [] else [.run r]

/-- The nearest run before a closing one that makes a pair with it, the pieces between, first one
first, and the pieces before, last one first. -/
def findOpener (second : Run) (between : List Piece) :
    List Piece → Option (Run × List Piece × List Piece)
  | [] => none
  | .run r :: ps =>
    if r.pairs second then some (r, between, ps) else findOpener second (.run r :: between) ps
  | p :: ps => findOpener second (p :: between) ps

/-- The construct that a pair of `n` marks makes. -/
def pairConstruct (mark : Char) (n : Nat) : Construct :=
  if mark = '~' then .delete else if n = 1 then .emphasis else .strong

/-- Pair the runs of some pieces, in at most `fuel` steps. `done` are the pieces before, last one
first. -/
def pairFrom : Nat → List Piece → List Piece → List Piece
  | 0, done, ps => done.reverse ++ ps
  | _ + 1, done, [] => done.reverse
  | fuel + 1, done, .run second :: ps =>
    match if second.closes then findOpener second [] done else none with
    | none => pairFrom fuel (.run second :: done) ps
    | some (first, between, before) =>
      let n := if 1 < first.size ∧ 1 < second.size then 2 else 1
      let first' := { first with stop := first.stop.back n }
      let second' := { second with start := second.start.forth n }
      let pair := Piece.group (pairConstruct first.mark n) first'.stop second'.start between
      pairFrom fuel (pair :: first'.rest ++ before) (second'.rest ++ ps)
  | fuel + 1, done, p :: ps => pairFrom fuel (p :: done) ps

/-- How many steps pairing may take. -/
def pairSteps : List Piece → Nat
  | [] => 1
  | .run r :: ps => r.size + 1 + pairSteps ps
  | _ :: ps => 1 + pairSteps ps

/-- Pair the runs of some pieces that lie next to each other. -/
def pairLevel (ps : List Piece) : List Piece := pairFrom (pairSteps ps) [] ps

mutual

/-- Pair the runs inside a piece. -/
def pairInside : Piece → Piece
  | .group construct start stop pieces =>
    .group construct start stop (pairLevel (pairInsideAll pieces))
  | .data start stop => .data start stop
  | .ending start stop => .ending start stop
  | .literal start stop value => .literal start stop value
  | .hardBreak start stop => .hardBreak start stop
  | .run r => .run r
  | .bracket id start stop => .bracket id start stop
  | .leaf construct start stop value => .leaf construct start stop value

def pairInsideAll : List Piece → List Piece
  | [] => []
  | p :: ps => pairInside p :: pairInsideAll ps

end

/-- Pair the runs of a text, each within the link it lies in. -/
def pairRuns (ps : List Piece) : List Piece := pairLevel (pairInsideAll ps)

end DocLint.Markdown
