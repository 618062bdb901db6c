import DocLint.Config.Color

/-!
# Coloured text

A terminal changes its colours at an escape character with a bracket and some codes, and goes back
to plain text at the code zero. Text that is painted may go back to plain itself; then its colour
starts again right after.

* `paint` — a text in a bold colour.
-/

namespace DocLint

namespace Paint

/-- What makes a terminal write on in plain text. -/
def reset : List Char := ['\x1b', '[', '0', 'm']

/-- What makes a terminal write on in a bold colour. -/
def start (c : Color) : List Char :=
  '\x1b' :: '[' :: '1' :: ';' :: (toString c.code).toList ++ ['m']

/-- Start a colour again wherever a text goes back to plain. -/
def restart (style : List Char) : List Char → List Char
  | '\x1b' :: '[' :: '0' :: 'm' :: cs => reset ++ style ++ restart style cs
  | c :: cs => c :: restart style cs
  | [] => []

end Paint

/-- A text in a bold colour. -/
def paint (c : Color) (text : String) : String :=
  let style := Paint.start c
  String.ofList (style ++ Paint.restart style text.toList ++ Paint.reset)

end DocLint
