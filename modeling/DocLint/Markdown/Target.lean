import DocLint.Markdown.Glyph

/-!
# Destinations and titles

What a link or a definition points to: a destination, in angle brackets or not, and perhaps a title
in quotes or parentheses. Only how far they go matters here.

* `destinationEnd?`, `titleEnd?` — the glyphs after a destination or a title;
* `skipGap` — over blanks with at most one line ending among them.
-/

namespace DocLint.Markdown

/-- The glyphs after some blanks, at most one line ending, and some more blanks. -/
def skipGap (gs : List Glyph) : List Glyph :=
  match skipSpaces gs with
  | g :: rest => if g.char = '\n' then skipSpaces rest else g :: rest
  | [] => []

/-- Whether there is a blank or a line ending first. -/
def startsWithGap (gs : List Glyph) : Bool := gs.head?.any fun g => g.isSpace || g.char == '\n'

/-- A control character of ASCII, other than the null character. -/
def isControl (c : Char) : Bool := (1 ≤ c.toNat && c.toNat < 32) || c.toNat == 127

/-- What follows a destination in angle brackets that `gs` is inside of. -/
def bracketedEnd? (escaped : Bool) : List Glyph → Option (List Glyph)
  | [] => none
  | g :: gs =>
    if escaped && (g.char == '<' || g.char == '>' || g.char == '\\') then bracketedEnd? false gs
    else if g.char = '>' then some gs
    else if g.char = '<' ∨ g.char = '\n' then none
    else bracketedEnd? (g.char == '\\') gs

/-- What follows a destination without brackets that `gs` is inside of. Parentheses must be in
balance, and at most `limit` of them may be open; `depth` of them are. -/
def plainEnd? (limit : Option Nat) (depth : Nat) (escaped : Bool) :
    List Glyph → Option (List Glyph)
  | [] => if depth = 0 then some [] else none
  | g :: gs =>
    if escaped && (g.char == '(' || g.char == ')' || g.char == '\\') then
      plainEnd? limit depth false gs
    else if depth = 0 && (g.isSpace || g.char == '\n' || g.char == ')') then some (g :: gs)
    else if g.char = '(' then
      if limit.all (depth < ·) then plainEnd? limit (depth + 1) false gs else none
    else if g.char = ' ' ∨ isControl g.char then none
    else if g.char = ')' then plainEnd? limit (depth - 1) false gs
    else plainEnd? limit depth (g.char == '\\') gs

/-- What follows a destination. -/
def destinationEnd? (limit : Option Nat) (gs : List Glyph) : Option (List Glyph) :=
  match gs with
  | [] => none
  | g :: rest =>
    if g.char = '<' then bracketedEnd? false rest
    else if g.char = ' ' ∨ g.char = ')' ∨ isControl g.char then none
    else plainEnd? limit 0 false gs

/-- What follows a title that `gs` is inside of, closed by `mark`. -/
def titleRest? (mark : Char) (escaped : Bool) : List Glyph → Option (List Glyph)
  | [] => none
  | g :: gs =>
    if escaped && (g.char == '"' || g.char == '\x27' || g.char == ')' || g.char == '\\') then
      titleRest? mark false gs
    else if g.char = mark then some gs
    else titleRest? mark (g.char == '\\') gs

/-- What follows a title. -/
def titleEnd? (gs : List Glyph) : Option (List Glyph) :=
  match gs with
  | [] => none
  | g :: rest =>
    if g.char = '"' ∨ g.char = '\x27' then titleRest? g.char false rest
    else if g.char = '(' then titleRest? ')' false rest
    else none

end DocLint.Markdown
