import DocLint.Markdown.Glyph
import DocLint.Markdown.Tag

/-!
# Raw HTML in text

Comments, tags, declarations, instructions and character data inside a paragraph. They may go over
line endings.

* `htmlSpanEnd?` — what follows raw HTML at the start of a text.
-/

namespace DocLint.Markdown

/-- Where a reader is inside a piece of raw HTML. -/
inductive SpanState where
  /-- in a comment, after so many hyphens in a row: none, one, or two and more -/
  | comment (hyphens : Nat)
  /-- in character data, after so many closing brackets in a row -/
  | cdata (brackets : Nat)
  | declaration
  /-- in an instruction; `marked` says that a question mark comes right before -/
  | instruction (marked : Bool)
  /-- in the name of a closing tag -/
  | closingName
  /-- after the name of a closing tag -/
  | closing
  /-- in the name of an opening tag -/
  | openingName
  | tag (state : TagState)
  | done
deriving DecidableEq, Repr

namespace SpanState

/-- The state after one more character. -/
def next? (s : SpanState) (c : Char) : Option SpanState :=
  match s with
  | comment n =>
    if n = 2 ∧ c = '>' then some done
    else if c = '-' then some (comment (min 2 (n + 1)))
    else some (comment 0)
  | cdata n =>
    if n = 2 ∧ c = '>' then some done
    else if c = ']' then some (cdata (min 2 (n + 1)))
    else some (cdata 0)
  | declaration => if c = '>' then some done else some declaration
  | instruction marked => if marked && c == '>' then some done else some (instruction (c == '?'))
  | closingName =>
    if isNameRest c then some closingName
    else if c = '>' then some done
    else if TagState.isGap true c then some closing
    else none
  | closing =>
    if c = '>' then some done else if TagState.isGap true c then some closing else none
  | openingName =>
    if isNameRest c then some openingName
    else if TagState.isGap true c || c == '/' || c == '>' then
      (TagState.atBetween true c).map fun t => if t = .done then done else tag t
    else none
  | tag t => (t.next? true c).map fun t => if t = .done then done else tag t
  | done => none

end SpanState

/-- What follows raw HTML that a text is inside of. -/
def spanRest? : SpanState → List Glyph → Option (List Glyph)
  | .done, gs => some gs
  | _, [] => none
  | s, g :: gs =>
    match s.next? g.char with
    | some t => spanRest? t gs
    | none => none

/-- Drop some characters that a text must start with. -/
def dropText? : List Char → List Glyph → Option (List Glyph)
  | [], gs => some gs
  | _ :: _, [] => none
  | c :: cs, g :: gs => if g.char = c then dropText? cs gs else none

/-- What follows raw HTML, after its opening bracket. -/
def htmlSpanEnd? (gs : List Glyph) : Option (List Glyph) :=
  match gs with
  | [] => none
  | g :: rest =>
    let second := rest.head?.map (·.char)
    if g.char = '!' then
      if second = some '-' then (dropText? ['-', '-'] rest).bind (spanRest? (.comment 2))
      else if second = some '[' then (dropText? "[CDATA[".toList rest).bind (spanRest? (.cdata 0))
      else if second.any isNameStart then spanRest? .declaration rest.tail
      else none
    else if g.char = '/' then
      if second.any isNameStart then spanRest? .closingName rest.tail else none
    else if g.char = '?' then spanRest? (.instruction false) rest
    else if isNameStart g.char then spanRest? .openingName rest
    else none

end DocLint.Markdown
