import DocLint.Markdown.Glyph
import DocLint.Markdown.Named
import DocLint.Text.Digit

/-!
# Character references

A character may be written as an ampersand, its name or number, and a semicolon.

* `characterReference?` — the characters a reference stands for, and what follows it.
-/

namespace DocLint.Markdown

open Text

/-- What stands for a character that cannot be referred to. -/
def replacementCharacter : Char := Char.ofNat 0xFFFD

/-- Whether a code point may be referred to by number: it is that of a character, and of no control
but the blank ones. -/
def isReferable (n : Nat) : Bool :=
  decide n.isValidChar && !(n < 9 || n == 11 || (13 < n && n < 32) || (126 < n && n < 160))

/-- The character with a number. -/
def numbered (n : Nat) : Char := if isReferable n then Char.ofNat n else replacementCharacter

/-- What a reference stands for, and what follows it. It has one to `max` characters that satisfy
`p`. -/
def referenceBody? (max : Nat) (p : Char → Bool) (read : List Char → Option (List Char))
    (gs : List Glyph) : Option (List Char × List Glyph) :=
  let body := (gs.takeWhile (p ·.char)).map (·.char)
  match gs.drop body.length with
  | g :: rest =>
    if g.char = ';' ∧ body ≠ [] ∧ body.length ≤ max then (read body).map fun cs => (cs, rest)
    else none
  | [] => none

/-- What a reference stands for whose ampersand has been read, and what follows it. -/
def characterReference? (gs : List Glyph) : Option (List Char × List Glyph) :=
  match gs with
  | g :: rest =>
    if g.char = '#' then
      match rest with
      | h :: digits =>
        if h.char = 'x' ∨ h.char = 'X' then
          referenceBody? 6 isHexDigit (fun cs => some [numbered (numberValue 16 cs)]) digits
        else referenceBody? 7 Char.isDigit (fun cs => some [numbered (numberValue 10 cs)]) rest
      | [] => none
    else referenceBody? 31 Char.isAlphanum (fun cs => named? (String.ofList cs)) gs
  | [] => none

end DocLint.Markdown
