import DocLint.Markdown.Row

/-!
# Tables

A table is a head row, a delimiter row with as many cells, and any number of body rows. Pipes divide
cells, except after a backslash; the first and the last pipe of a row may be left out.

* `headCells?` — how many cells a head row has;
* `delimiterCells?` — how many cells a delimiter row has;
* `cells` — the cells of a row.
-/

namespace DocLint.Markdown.Table

/-- A word of a row: a pipe, or a run of other glyphs. Blanks divide words. -/
inductive Word where
  | pipe (glyph : Glyph)
  | data (first last : Glyph)
deriving Repr

/-- The words of a row. `word` is the run being read, and `escaped` says whether a backslash comes
right before. -/
def wordsFrom (word : Option (Glyph × Glyph)) (escaped : Bool) : List Glyph → List Word
  | [] => word.toList.map fun (a, b) => .data a b
  | g :: gs =>
    if escaped && (g.char == '\\' || g.char == '|') then
      wordsFrom (word.map fun (a, _) => (a, g)) false gs
    else if g.isSpace then
      (word.toList.map fun (a, b) => .data a b) ++ wordsFrom none false gs
    else if g.char = '|' then
      (word.toList.map fun (a, b) => .data a b) ++ .pipe g :: wordsFrom none false gs
    else wordsFrom (some ((word.map (·.1)).getD g, g)) (g.char == '\\') gs

/-- The words of a row. -/
def words (gs : List Glyph) : List Word := wordsFrom none false gs

/-- The number of cells in some words: every word opens a cell if `fresh`, that is if a pipe or the
start of a row without one comes before. -/
def countCells (fresh : Bool) : List Word → Nat
  | [] => 0
  | .pipe _ :: ws => (if fresh then 1 else 0) + countCells true ws
  | .data _ _ :: ws => (if fresh then 1 else 0) + countCells false ws

/-- How many cells a head row has; a row with nothing but one pipe is none. -/
def headCells? (gs : List Glyph) : Option Nat :=
  let gs := dropSpaces (tabSize - 1) gs
  match gs, words gs with
  | g :: _, ws =>
    if g.isSpace then none
    else
      match ws with
      | [.pipe _] => none
      | .pipe _ :: ws => some (countCells true ws)
      | ws => some (countCells true ws)
  | [], _ => none

/-! ## The delimiter row -/

/-- Where a reader is in a delimiter row. -/
inductive DelimiterState where
  /-- at the start of the row or of a cell, after its pipe if `opened` -/
  | opening (opened : Bool)
  /-- after the colon at the start of a cell -/
  | left
  /-- in the hyphens of a cell -/
  | hyphens
  /-- after the hyphens, and after the colon at the end of a cell -/
  | after
deriving DecidableEq, Repr

/-- Read a delimiter row: the number of cells, and whether there is a colon or a pipe at all. -/
def delimiterFrom (s : DelimiterState) (count : Nat) (seen : Bool) :
    List Glyph → Option (Nat × Bool)
  | [] =>
    match s with
    | .opening false | .left => none
    | _ => some (count, seen)
  | g :: gs =>
    match s with
    | .opening opened =>
      if g.char = '-' then delimiterFrom .hyphens (count + 1) seen gs
      else if g.char = ':' then delimiterFrom .left (count + 1) true gs
      else if g.char = '|' ∧ !opened then delimiterFrom (.opening true) count true gs
      else if g.isSpace ∧ opened then delimiterFrom (.opening true) count seen gs
      else none
    | .left => if g.char = '-' then delimiterFrom .hyphens count seen gs else none
    | .hyphens =>
      if g.char = '-' then delimiterFrom .hyphens count seen gs
      else if g.char = ':' then delimiterFrom .after count true gs
      else if g.isSpace then delimiterFrom .after count seen gs
      else if g.char = '|' then delimiterFrom (.opening true) count true gs
      else none
    | .after =>
      if g.isSpace then delimiterFrom .after count seen gs
      else if g.char = '|' then delimiterFrom (.opening true) count true gs
      else none

/-- How many cells a delimiter row has. -/
def delimiterCells? (gs : List Glyph) : Option Nat :=
  match delimiterFrom (.opening false) 0 false (dropSpaces (tabSize - 1) gs) with
  | some (count, true) => some count
  | _ => none

/-! ## Cells -/

/-- A cell: where it starts and ends, and the glyphs from its first word to its last. -/
structure Cell where
  start : Point
  stop : Point
  text : List Glyph
deriving Repr, Inhabited

/-- A cell under construction: where it starts, and its first and last glyph that is no blank. -/
structure Draft where
  start : Point
  words : Option (Glyph × Glyph) := none

/-- Whether the pipe before a cell has been read, and the cells, last one first. -/
def draft (s : Bool × List Draft) (w : Word) : Bool × List Draft :=
  match s.2, w with
  | d :: ds, .pipe g => if s.1 then (false, d :: ds) else (false, ⟨g.start, none⟩ :: d :: ds)
  | d :: ds, .data a b =>
    (false, { d with words := some ((d.words.map (·.1)).getD a, b) } :: ds)
  | [], _ => s

/-- The drafts of a row, first one first. A last cell without a word is none, unless it is the only
one. -/
def drafts (r : Row) : List Draft :=
  match ((words r.glyphs).foldl draft (true, [⟨r.start, none⟩])).2 with
  | ⟨_, none⟩ :: d :: ds => (d :: ds).reverse
  | ds => ds.reverse

/-- The glyphs from one to another. -/
def between (a b : Glyph) (gs : List Glyph) : List Glyph :=
  let rest := gs.dropWhile (·.start != a.start)
  rest.take ((rest.takeWhile (·.start != b.start)).length + 1)

/-- Cells that end where the next one starts, the last one at the end of the row. -/
def finish (r : Row) : List Draft → List Cell
  | [] => []
  | d :: ds =>
    let stop := match ds with
      | e :: _ => e.start
      | [] => r.stop
    ⟨d.start, stop, (d.words.map fun (a, b) => between a b r.glyphs).getD []⟩ :: finish r ds

/-- The cells of a row. -/
def cells (r : Row) : List Cell := finish r (drafts r)

end DocLint.Markdown.Table
