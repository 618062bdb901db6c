import DocLint.Markdown.Glyph
import DocLint.Text.Blank
import DocLint.Text.Punctuation

/-!
# Bare addresses

An address in text is a link without any marks around it: one that starts with `www.`, one that
starts with `http://` or `https://`, or an email address. Punctuation at its end is not part of it.

* `webAddressEnd?` — what follows an address at the start of a text;
* `mailAddresses` — the email addresses in a text.
-/

namespace DocLint.Markdown

/-- Punctuation that is no part of an address it ends. -/
def isTrailing (c : Char) : Bool := "!\"\x27)*,.:;?_~".toList.contains c

/-- Where a reader is in what may be the trail of an address. -/
inductive TrailState where
  | plain
  /-- after an ampersand -/
  | ampersand
  /-- in the name of a character reference -/
  | name
  /-- after a closing bracket -/
  | bracket
deriving DecidableEq, Repr

/-- Whether what follows is only the trail of an address: punctuation, character references and
closing brackets up to a blank, an opening angle bracket, or what may go on with a link. -/
def isTrail : TrailState → List Glyph → Bool
  | .plain, [] | .bracket, [] => true
  | .ampersand, [] | .name, [] => false
  | s, g :: gs =>
    let c := g.char
    match s with
    | .ampersand => c.isAlpha && isTrail .name gs
    | .name => if c.isAlpha then isTrail .name gs else c == ';' && isTrail .plain gs
    | s =>
      if s = .bracket ∧ (isSpace c ∨ c = '\n' ∨ c = '(' ∨ c = '[') then true
      else if isTrailing c then isTrail .plain gs
      else if c = '&' then isTrail .ampersand gs
      else if c = ']' then isTrail .bracket gs
      else c == '<' || Text.isBlank c

/-- What follows a host name. `visible` says whether it has a letter or a digit so far, and the
other two whether its last part and the one before have an underscore, which they must not. -/
def hostNameEnd? (visible underscore underscoreBefore : Bool) : List Glyph → Option (List Glyph)
  | [] => if !visible || underscore || underscoreBefore then none else some []
  | g :: gs =>
    let c := g.char
    let stop := if !visible || underscore || underscoreBefore then none else some (g :: gs)
    if c = '.' ∨ c = '_' then
      if isTrail .plain (g :: gs) then stop
      else if c = '_' then hostNameEnd? visible true underscoreBefore gs
      else hostNameEnd? visible false underscore gs
    else if c = '-' then hostNameEnd? visible underscore underscoreBefore gs
    else if Text.isBlank c || Text.isPunctuation c then stop
    else hostNameEnd? true underscore underscoreBefore gs

/-- What follows the rest of an address. A closing parenthesis that one inside the address opens is
part of it. -/
def pathEnd (opened closed : Nat) : List Glyph → List Glyph
  | [] => []
  | g :: gs =>
    let c := g.char
    if c = '(' then pathEnd (opened + 1) closed gs
    else if isTrailing c || c == '&' || c == '<' || c == ']' then
      if c = ')' ∧ closed < opened ∨ !isTrail .plain (g :: gs) then
        pathEnd opened (if c = ')' then closed + 1 else closed) gs
      else g :: gs
    else if Text.isBlank c then g :: gs
    else pathEnd opened closed gs

/-- What follows an address whose scheme has been read. -/
def addressRest? (gs : List Glyph) : Option (List Glyph) :=
  (hostNameEnd? false false false gs).map (pathEnd 0 0)

/-- Whether an address without a scheme may come after a character. -/
def allowsWww (before : Option Char) : Bool :=
  before.all fun c => isSpace c || c == '\n' || "(*_[]~".toList.contains c

/-- Whether a text starts with some characters, in whatever letter case. -/
def startsWith (mark : String) (gs : List Glyph) : Bool :=
  (gs.take mark.length).map (·.char.toLower) == mark.toList

/-- What follows a web address at the start of a text, which comes after `before`. -/
def webAddressEnd? (before : Option Char) (gs : List Glyph) : Option (List Glyph) :=
  if startsWith "www." gs then
    if allowsWww before && 4 < gs.length then addressRest? gs else none
  else if before.any Char.isAlpha then none
  else if startsWith "http://" gs then addressRest? (gs.drop 7)
  else if startsWith "https://" gs then addressRest? (gs.drop 8)
  else none

/-! ## Email addresses -/

/-- What the name of a mailbox is made of, in an address without marks. -/
def isBareMailbox (c : Char) : Bool := c.isAlphanum || c == '+' || c == '-' || c == '.' || c == '_'

/-- How far back an email address starts, given the characters before its sign, last one first, and
whether a chat scheme comes before it. -/
def mailboxLength? (before : List Char) : Option (Nat × Bool) :=
  let size := (before.takeWhile isBareMailbox).length
  match before.drop size with
  | '/' :: _ => none
  | ':' :: rest =>
    let scheme := rest.takeWhile Char.isAlphanum
    let name := String.ofList (scheme.reverse.map Char.toLower)
    if size = 0 then none
    else if name = "xmpp" ∨ name = "mailto" then
      some (size + 1 + scheme.length, name == "xmpp")
    else some (size, false)
  | _ => if size = 0 then none else some (size, false)

/-- The length of the host name of an email address. `size` characters have been read, `dotted` says
whether there was a dot, and `last` is the last of them. -/
def mailHostLength? (chat : Bool) (size : Nat) (dotted : Bool) (last : Option Char) :
    List Char → Option Nat
  | [] => if dotted && last.any Char.isAlpha then some size else none
  | c :: cs =>
    if c.isAlphanum || c == '-' || c == '_' || chat && c == '/' then
      mailHostLength? chat (size + 1) dotted (some c) cs
    else if c == '.' && cs.head?.any Char.isAlphanum then
      mailHostLength? chat (size + 1) true (some c) cs
    else if dotted && last.any Char.isAlpha then some size
    else none

/-- The email addresses in a text, as pairs of how many characters come before each, after the one
before it, and how long it is. `before` are the characters since the last address, last one first,
and `skip` is how many characters of an address are still to be passed over. -/
def mailAddressesFrom (before : List Char) (skip : Nat) : List Char → List (Nat × Nat)
  | [] => []
  | c :: cs =>
    if skip ≠ 0 then mailAddressesFrom [] (skip - 1) cs
    else if c = '@' then
      match mailboxLength? before with
      | none => mailAddressesFrom (c :: before) 0 cs
      | some (size, chat) =>
        match mailHostLength? chat 0 false none cs with
        | none => mailAddressesFrom (c :: before) 0 cs
        | some host =>
          (before.length - size, size + 1 + host) :: mailAddressesFrom [] host cs
    else mailAddressesFrom (c :: before) 0 cs

/-- The email addresses in a text: how many characters come before each, after the one before it,
and how long it is. -/
def mailAddresses (cs : List Char) : List (Nat × Nat) := mailAddressesFrom [] 0 cs

end DocLint.Markdown
