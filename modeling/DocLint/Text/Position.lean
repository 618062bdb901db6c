/-!
# Positions

A position is where a reader stands in a text: the line and the column, both counted from one, and
the byte offset, counted from zero. Reading one character moves the position (`Position.next`), and
reading a text moves it along every character (`Position.advance`).

* `Position.advance_append` — reading two texts after each other is reading them joined;
* `Span.range` — the bytes a span covers, from its start up to its end.
-/

namespace DocLint

/-- A place in a text. -/
structure Position where
  /-- the line, counted from one -/
  line : Nat := 0
  /-- the column, counted from one -/
  column : Nat := 0
  /-- the byte offset, counted from zero -/
  offset : Nat := 0
deriving DecidableEq, Repr, Inhabited

namespace Position

/-- The start of every text. -/
def origin : Position := ⟨1, 1, 0⟩

/-- The position after reading `c`: a line feed opens a new line, every other character is one
column. -/
def next (p : Position) (c : Char) : Position :=
  if c = '\n' then ⟨p.line + 1, 1, p.offset + c.utf8Size⟩
  else ⟨p.line, p.column + 1, p.offset + c.utf8Size⟩

/-- The position after reading a whole text. -/
def advance (p : Position) (cs : List Char) : Position := cs.foldl next p

@[simp] theorem advance_nil (p : Position) : p.advance [] = p := rfl

@[simp] theorem advance_cons (p : Position) (c : Char) (cs : List Char) :
    p.advance (c :: cs) = (p.next c).advance cs := rfl

/-- Reading a text and then another is reading the two joined. -/
theorem advance_append (p : Position) (a b : List Char) :
    p.advance (a ++ b) = (p.advance a).advance b := by
  simp [advance]

/-- Shown as `line:column`. -/
def display (p : Position) : String := s!"{p.line}:{p.column}"

end Position

/-- A half-open stretch of source: the end is one past the last character. -/
structure Span where
  start : Position := {}
  stop : Position := {}
deriving DecidableEq, Repr, Inhabited

namespace Span

/-- The first byte offset and the one past the last. -/
def range (s : Span) : Nat × Nat := (s.start.offset, s.stop.offset)

/-- A span without bytes; one whose end comes first is empty too. -/
def isEmpty (s : Span) : Bool := s.stop.offset ≤ s.start.offset

end Span

end DocLint
