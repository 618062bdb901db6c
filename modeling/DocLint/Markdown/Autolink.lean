import DocLint.Markdown.Target

/-!
# Autolinks

A link may be written as its address between angle brackets: a scheme, a colon and anything without
blanks, or an email address.

* `autolinkEnd?` — the closing bracket of an autolink and what follows it.
-/

namespace DocLint.Markdown

/-- What a scheme is made of, after its first letter. -/
def isSchemeRest (c : Char) : Bool := c.isAlphanum || c == '+' || c == '-' || c == '.'

/-- The most characters a scheme may have. -/
def maxScheme : Nat := 32

/-- What the name of a mailbox is made of. -/
def isMailbox (c : Char) : Bool :=
  c.isAlphanum || "#$%&\x27*+-./=?^_\x60\x7b|\x7d~".toList.contains c

/-- The most characters a part of a host name may have. -/
def maxHostPart : Nat := 63

/-- The closing bracket after an address with a scheme, whose colon has been read. -/
def addressEnd? : List Glyph → Option (List Glyph)
  | [] => none
  | g :: gs =>
    if g.char = '>' then some (g :: gs)
    else if g.char = ' ' ∨ g.char = '<' ∨ g.char.toNat < 32 ∨ g.char.toNat = 127 then none
    else addressEnd? gs

/-- The closing bracket after an address with a scheme. -/
def schemeAddressEnd? (gs : List Glyph) : Option (List Glyph) :=
  let scheme := gs.takeWhile (isSchemeRest ·.char)
  match gs.drop scheme.length with
  | colon :: rest =>
    if gs.head?.any (·.char.isAlpha) ∧ 2 ≤ scheme.length ∧ scheme.length ≤ maxScheme ∧
        colon.char = ':' then addressEnd? rest
    else none
  | [] => none

/-- The closing bracket after the host name of an email address. `size` counts the characters of the
part of the name being read, and `hyphen` says whether the last of them is a hyphen. -/
def hostEnd? (size : Nat) (hyphen : Bool) : List Glyph → Option (List Glyph)
  | [] => none
  | g :: gs =>
    if g.char.isAlphanum ∨ g.char = '-' ∧ size ≠ 0 then
      if size < maxHostPart then hostEnd? (size + 1) (g.char == '-') gs else none
    else if size = 0 ∨ hyphen then none
    else if g.char = '.' then hostEnd? 0 false gs
    else if g.char = '>' then some (g :: gs)
    else none

/-- The closing bracket after an email address. -/
def mailAddressEnd? (gs : List Glyph) : Option (List Glyph) :=
  let mailbox := gs.takeWhile (isMailbox ·.char)
  match gs.drop mailbox.length with
  | sign :: rest => if mailbox.length ≠ 0 ∧ sign.char = '@' then hostEnd? 0 false rest else none
  | [] => none

/-- The closing bracket of an autolink whose opening one has been read, and what follows. -/
def autolinkEnd? (gs : List Glyph) : Option (List Glyph) :=
  match schemeAddressEnd? gs with
  | some rest => some rest
  | none => mailAddressEnd? gs

end DocLint.Markdown
