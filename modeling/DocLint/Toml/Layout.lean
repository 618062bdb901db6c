/-!
# Blanks, comments and line endings

What may stand between the parts of a document. A comment runs from a hash sign to the end of its
line. A line ends with a line feed, perhaps after a carriage return; a carriage return elsewhere is
a control character, and no control character other than the tab may stand in a comment or a string.

* `skipBlanks` — within a line;
* `lineEnd?` — to the next line, if nothing but blanks and a comment is left of this one;
* `skipLayout?` — over any number of line endings, between the elements of an array.
-/

namespace DocLint.Toml

/-- A blank within a line. -/
def isBlank (c : Char) : Bool := c = ' ' || c = '\t'

/-- A character that may stand neither in a comment nor in a string. -/
def isControl (c : Char) : Bool := (c.toNat < 32 && c != '\t') || c.toNat == 127

/-- The text without blanks at its start. -/
def skipBlanks (cs : List Char) : List Char := cs.dropWhile isBlank

/-- What follows a line ending. -/
def newline? : List Char → Option (List Char)
  | '\n' :: cs => some cs
  | '\r' :: '\n' :: cs => some cs
  | _ => none

/-- What follows the line whose remaining text has nothing that counts; at the end of the document
nothing follows. -/
def lineEnd? (cs : List Char) : Option (List Char) :=
  let rest :=
    match skipBlanks cs with
    | '#' :: comment => comment.dropWhile fun c => !isControl c
    | rest => rest
  if rest.isEmpty then some [] else newline? rest

/-- What follows blanks, line endings and comments. A comment that `inComment` says the text starts
in must end well. -/
def skipLayout? (inComment : Bool) : List Char → Option (List Char)
  | [] => some []
  | '\n' :: cs => skipLayout? false cs
  | '\r' :: '\n' :: cs => skipLayout? false cs
  | c :: cs =>
    if inComment then if isControl c then none else skipLayout? true cs
    else if isBlank c then skipLayout? false cs
    else if c = '#' then skipLayout? true cs
    else some (c :: cs)

end DocLint.Toml
