import DocLint.Markdown.Label
import DocLint.Markdown.Piece
import DocLint.Markdown.Target

/-!
# Links and images

A closing bracket ends the label of a link or an image if an opening one is left and something says
where the link goes: a resource in parentheses, another label that has a definition, or a definition
of its own label.

* `resourceEnd?` — what follows a resource;
* `labelTarget?` — what a label that has just been closed stands for;
* `labelPiece` — the piece that a closed label becomes.
-/

namespace DocLint.Markdown

/-- The most parentheses that may be open in the destination of a resource. -/
def maxParentheses : Nat := 32

/-- What follows a resource whose opening parenthesis has been read. -/
def resourceEnd? (gs : List Glyph) : Option (List Glyph) :=
  let close (gs : List Glyph) : Option (List Glyph) :=
    match gs with
    | g :: rest => if g.char = ')' then some rest else none
    | [] => none
  match close (skipGap gs) with
  | some rest => some rest
  | none =>
    (destinationEnd? (some maxParentheses) (skipGap gs)).bind fun after =>
      let between := skipGap after
      let titled := if startsWithGap after then titleEnd? between else none
      match between.head?.map (·.char), startsWithGap after with
      | some '"', true | some '\x27', true | some '(', true =>
        titled.bind fun rest => close (skipGap rest)
      | _, _ => close between

/-- What a label stands for. -/
inductive Target where
  /-- a link or an image with a resource, or by reference to a definition -/
  | media (reference : Bool)
  | footnote
deriving DecidableEq, Repr

/-- What an opening bracket opens. -/
inductive BracketKind where
  | link
  | image
  /-- the call of a footnote -/
  | footnote
deriving DecidableEq, Repr, Inhabited

/-- An opening bracket that has not been closed. -/
structure Bracket where
  id : Nat
  kind : BracketKind
  start : Point
  stop : Point
  /-- a link that another link lies in cannot be closed any more -/
  active : Bool := true
deriving Repr, Inhabited

/-- The definitions that a document has. -/
structure Definitions where
  /-- the keys of the labels that have a definition -/
  labels : List (List Char)
  /-- the keys of the footnotes that have a definition -/
  footnotes : List (List Char)

namespace Definitions

/-- Whether a label has a definition. -/
def hasLabel (d : Definitions) (text : List Char) : Bool := d.labels.contains (labelKey text)

/-- Whether a footnote has a definition. -/
def hasFootnote (d : Definitions) (text : List Char) : Bool := d.footnotes.contains (labelKey text)

end Definitions

/-- What follows a label that has a definition, whose opening bracket has been read. -/
def referenceEnd? (s : Source) (d : Definitions) (gs : List Glyph) : Option (List Glyph) :=
  (labelEnd? gs).bind fun rest =>
    if d.hasLabel (labelText s gs rest) then some rest.tail else none

/-- What a label stands for whose closing bracket has just been read, and what follows. `text` is
the text of the label, and `rest` is what follows the bracket. -/
def labelTarget? (s : Source) (d : Definitions) (b : Bracket) (text : List Char)
    (rest : List Glyph) : Option (Target × List Glyph) :=
  if b.kind = .footnote ∧ d.hasFootnote text then some (.footnote, rest)
  else
    let defined :=
      if b.kind = .footnote then d.labels.contains ('^' :: labelKey text) else d.hasLabel text
    let own : Option (Target × List Glyph) :=
      if defined then some (.media true, rest) else none
    match rest with
    | g :: inside =>
      if g.char = '(' then
        match resourceEnd? inside with
        | some after => some (.media false, after)
        | none => own
      else if g.char = '[' then
        match referenceEnd? s d inside with
        | some after => some (.media true, after)
        | none =>
          match inside with
          | h :: after => if defined ∧ h.char = ']' then some (.media true, after) else own
          | [] => own
      else own
    | [] => own

/-- The construct that a label becomes. -/
def mediaConstruct (image reference : Bool) : Construct :=
  match image, reference with
  | true, true => .imageReference
  | true, false => .image
  | false, true => .linkReference
  | false, false => .link

/-- The pieces since an opening bracket, first one first, and the pieces before it, last one first.
-/
def splitAtBracket (id : Nat) (since : List Piece) : List Piece → List Piece × List Piece
  | [] => (since, [])
  | .bracket other start stop :: ps =>
    if other = id then (since, ps) else splitAtBracket id (.bracket other start stop :: since) ps
  | p :: ps => splitAtBracket id (p :: since) ps

/-- The piece that a closed label becomes. The caret of a footnote without a definition is text. -/
def labelPiece (b : Bracket) (target : Target) (inside : List Piece) (stop : Point) : Piece :=
  match target, b.kind with
  | .footnote, _ => .leaf .footnoteReference b.start stop none
  | .media reference, .image => .leaf (mediaConstruct true reference) b.start stop none
  | .media reference, .link => .group (mediaConstruct false reference) b.start stop inside
  | .media reference, .footnote =>
    let caret := Piece.data
      { b.start with
        column := b.start.column + 1, offset := b.start.offset + 1, index := b.start.index + 1 }
      b.stop
    .group (mediaConstruct false reference) b.start stop (caret :: inside)

/-- The brackets that are still open after a label has been closed: links around a link cannot be
closed any more. -/
def deactivate (b : Bracket) (bs : List Bracket) : List Bracket :=
  if b.kind = .image then bs
  else bs.map fun o => if o.kind = .image then o else { o with active := false }

end DocLint.Markdown
