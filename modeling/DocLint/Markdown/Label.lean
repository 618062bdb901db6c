import DocLint.Markdown.Container
import DocLint.Text.Fold

/-!
# Labels

A label stands between brackets and names a definition. Two labels name the same definition if they
have the same key: the text of the label with its blanks closed up and its letter case folded.

* `labelEnd?` — where a label ends;
* `labelKey` — the key of the text of a label.
-/

namespace DocLint.Markdown

/-- What follows the text of a label that `gs` is inside of: the closing bracket and the rest.
`size` is the number of bytes so far, `visible` says whether there was more than blanks, `escaped`
whether a backslash comes right before, and `leading` whether nothing but blanks has come since the
line started. -/
def labelEndFrom? (size : Nat) (visible escaped leading : Bool) :
    List Glyph → Option (List Glyph)
  | [] => none
  | g :: gs =>
    if escaped && isLabelEscape g.char then labelEndFrom? (size + 1) true false false gs
    else if leading && g.isSpace then labelEndFrom? size visible false true gs
    else if maxLabel < size ∨ g.char = '[' then none
    else if g.char = ']' then if visible then some (g :: gs) else none
    else if g.char = '\n' then labelEndFrom? size visible false true gs
    else
      labelEndFrom? (size + g.char.utf8Size) (visible || !g.isSpace) (g.char == '\\') false gs

/-- What follows the text of a label that `gs` starts: the closing bracket and the rest. -/
def labelEnd? (gs : List Glyph) : Option (List Glyph) := labelEndFrom? 0 false false false gs

/-- The text of a label, from where `gs` starts to where `rest` does. -/
def labelText (s : Source) (gs rest : List Glyph) : List Char :=
  match gs, rest with
  | g :: _, h :: _ => s.slice g.start h.start
  | _, _ => []

/-- A blank inside a label. -/
def isLabelBlank (c : Char) : Bool := c == ' ' || c == '\t' || c == '\n' || c == '\r'

/-- The words of a label with one blank between two of them. `first` says that the word before is
the first one: no blank comes after that. -/
def closeWords (first : Bool) : List Char → List Char
  | [] => []
  | c :: cs =>
    if isLabelBlank c then
      match cs with
      | [] => []
      | d :: _ =>
        if isLabelBlank d then closeWords first cs
        else if first then closeWords false cs
        else ' ' :: closeWords false cs
    else c :: closeWords first cs

/-- The key of a label. Blanks at the ends are dropped and blanks between words are made one, except
between the first two words of a label that starts with a word: these are joined. -/
def labelKey (cs : List Char) : List Char :=
  Text.fold (closeWords (!cs.head?.any isLabelBlank) (cs.dropWhile isLabelBlank))

end DocLint.Markdown
