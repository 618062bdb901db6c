import DocLint.Markdown.Address
import DocLint.Markdown.Autolink
import DocLint.Markdown.CharacterReference
import DocLint.Markdown.Emphasis
import DocLint.Markdown.HtmlSpan
import DocLint.Markdown.Link

/-!
# Reading text

The text of a paragraph, a heading or a cell is cut into pieces from left to right. What starts at a
character is decided by that character; if nothing does, the character is data.

* `Inline.pieces` — the pieces of a text, its links closed and its runs not yet paired;
* `Inline.trees` — the constructs of a text.
-/

namespace DocLint.Markdown

/-- The extents of the stretches of glyphs that lie in one row each, and of the line endings between
them. -/
def stretches : List Glyph → List (Point × Point)
  | [] => []
  | g :: gs =>
    match gs, stretches gs with
    | h :: _, (_, stop) :: rest =>
      if g.char = '\n' ∨ h.char = '\n' then (g.start, g.stop) :: stretches gs
      else (g.start, stop) :: rest
    | _, _ => [(g.start, g.stop)]

/-- The text of glyphs, which may lie in several rows. -/
def Source.textOf (s : Source) (gs : List Glyph) : List Char :=
  (stretches gs).flatMap fun (start, stop) => s.slice start stop

/-- Glyphs without the blanks after line endings. -/
def dropIndents (leading : Bool) : List Glyph → List Glyph
  | [] => []
  | g :: gs =>
    if leading && g.isSpace then dropIndents true gs
    else g :: dropIndents (g.char == '\n') gs

/-- Where some glyphs end, or a point if there are none. -/
def stopOf (gs : List Glyph) (other : Point) : Point := (gs.getLast?.map (·.stop)).getD other

namespace Inline

/-- The glyphs read when `rest` is left of `gs`. -/
def consumed (gs rest : List Glyph) : List Glyph := gs.take (gs.length - rest.length)

/-! ## Code -/

/-- The text of code that is closed by a run of `n` backticks, and what follows. `run` backticks
come right before, and `content` is what has been read, last glyph first. -/
def codeRest? (n run : Nat) (content : List Glyph) : List Glyph → Option (List Glyph × List Glyph)
  | [] => if run = n then some ((content.drop n).reverse, []) else none
  | g :: gs =>
    if g.char = '\x60' then codeRest? n (run + 1) (g :: content) gs
    else if run = n then some ((content.drop n).reverse, g :: gs)
    else codeRest? n 0 (g :: content) gs

/-- The text of code without one blank at each end, unless it is all blank. -/
def padlessCode (cs : List Char) : List Char :=
  if 2 < cs.length ∧ cs.head? = some ' ' ∧ cs.getLast? = some ' ' ∧ !cs.all (· == ' ') then
    (cs.drop 1).dropLast
  else cs

/-- The text of code in a table, where a backslash before a pipe only keeps it from ending a cell.
-/
def unescapePipes : List Char → List Char
  | '\\' :: '|' :: cs => '|' :: unescapePipes cs
  | c :: cs => c :: unescapePipes cs
  | [] => []

/-! ## One step -/

/-- What is known while a text is read. -/
structure Setting where
  source : Source
  definitions : Definitions
  /-- whether the text is in a table -/
  inTable : Bool := false

/-- A text under way. -/
structure State where
  /-- the pieces so far, last one first -/
  pieces : List Piece := []
  /-- the opening brackets that may still be closed, last one first -/
  brackets : List Bracket := []
  /-- the number of the next bracket -/
  nextId : Nat := 0
  /-- the character that comes right before -/
  before : Option Char := none
  /-- whether that character was escaped -/
  escaped : Bool := false
deriving Inhabited

namespace State

/-- A state with one more piece, read from the glyphs up to `rest`. -/
def push (st : State) (p : Piece) (read : List Glyph) : State :=
  { st with
    pieces := p :: st.pieces
    before := (read.getLast?.map (·.char)).or st.before
    escaped := false }

/-- A state with one more opening bracket, made of some glyphs. -/
def openBracket (st : State) (kind : BracketKind) (first last : Glyph) : State :=
  { st with
    pieces := .bracket st.nextId first.start last.stop :: st.pieces
    brackets := ⟨st.nextId, kind, first.start, last.stop, true⟩ :: st.brackets
    nextId := st.nextId + 1
    before := some last.char
    escaped := false }

/-- A state with one more plain character. -/
def data (st : State) (g : Glyph) : State := st.push (.data g.start g.stop) [g]

end State

/-- What may start at a glyph: the state after it and what is left. -/
abbrev Attempt := Option (State × List Glyph)

variable (c : Setting)

/-- A construct without pieces in it, whose text is that of the glyphs it takes. -/
def leafOf (construct : Construct) (value : List Char) (st : State) (gs rest : List Glyph)
    (g : Glyph) : State :=
  let read := consumed gs rest
  st.push (.leaf construct g.start (stopOf read g.stop) (some value)) read

/-- Code. A backtick right after another one starts none, unless that one was escaped. -/
def code? (st : State) (g : Glyph) (gs : List Glyph) : Attempt :=
  if st.before = some '\x60' ∧ !st.escaped then none
  else
    let n := ((g :: gs).takeWhile (·.char == '\x60')).length
    (codeRest? n 0 [] ((g :: gs).drop n)).map fun (content, rest) =>
      let text := c.source.textOf content
      let text := if c.inTable then unescapePipes text else text
      (leafOf .inlineCode (padlessCode text) st (g :: gs) rest g, rest)

/-- A character reference. -/
def reference? (st : State) (g : Glyph) (gs : List Glyph) : Attempt :=
  (characterReference? gs).map fun (value, rest) =>
    let read := consumed (g :: gs) rest
    (st.push (.literal g.start (stopOf read g.stop) value) read, rest)

/-- A link that is its own text, which lies between two points. -/
def selfLink (start first last stop : Point) : Piece :=
  .group .link start stop [.literal first last (c.source.slice first last)]

/-- An autolink or raw HTML. -/
def angle? (st : State) (g : Glyph) (gs : List Glyph) : Attempt :=
  match autolinkEnd? gs with
  | some (closing :: rest) =>
    let link := selfLink c g.start g.stop closing.start closing.stop
    some (st.push link (consumed (g :: gs) rest), rest)
  | _ =>
    (htmlSpanEnd? gs).map fun rest =>
      let text := c.source.textOf (dropIndents false (consumed (g :: gs) rest))
      (leafOf .html text st (g :: gs) rest g, rest)

/-- A web address without marks. -/
def address? (st : State) (g : Glyph) (gs : List Glyph) : Attempt :=
  (webAddressEnd? st.before (g :: gs)).map fun rest =>
    let read := consumed (g :: gs) rest
    let stop := stopOf read g.stop
    (st.push (selfLink c g.start g.start stop stop) read, rest)

/-- A run of marks of emphasis. -/
def run? (st : State) (g : Glyph) (gs : List Glyph) : Attempt :=
  let read := (g :: gs).takeWhile (·.char == g.char)
  let run := Run.of c.source g.char g.start (stopOf read g.stop)
  some (st.push (.run run) read, (g :: gs).drop read.length)

/-- An escaped character, or a hard break. -/
def escape? (st : State) (g : Glyph) : List Glyph → Attempt
  | [] => none
  | h :: rest =>
    if Text.isAsciiPunctuation h.char then
      some ({ st.push (.literal h.start h.stop [h.char]) [h] with escaped := true }, rest)
    else if h.char = '\n' then some (st.push (.hardBreak g.start g.stop) [g], h :: rest)
    else none

/-- The bracket of a link or of the call of a footnote. -/
def openLink? (st : State) (g : Glyph) : List Glyph → Attempt
  | h :: rest =>
    if h.char = '^' then some (st.openBracket .footnote g h, rest)
    else some (st.openBracket .link g g, h :: rest)
  | [] => some (st.openBracket .link g g, [])

/-- The bracket of an image. A caret after it makes it none. -/
def openImage? (st : State) (g : Glyph) : List Glyph → Attempt
  | h :: rest =>
    if h.char = '[' ∧ rest.head?.map (·.char) ≠ some '^' then some (st.openBracket .image g h, rest)
    else none
  | [] => none

/-- A closing bracket. One that closes nothing is data, and the bracket before it that it would have
closed is, too. -/
def close? (st : State) (g : Glyph) (gs : List Glyph) : Attempt :=
  match st.brackets with
  | [] => none
  | b :: bs =>
    let nothing : Attempt := some ({ st with brackets := bs }.data g, gs)
    if !b.active then nothing
    else
      match labelTarget? c.source c.definitions b (c.source.slice b.stop g.start) gs with
      | none => nothing
      | some (target, rest) =>
        let read := consumed (g :: gs) rest
        let (inside, before) := splitAtBracket b.id [] st.pieces
        let st := { st with pieces := before, brackets := deactivate b bs }
        some (st.push (labelPiece b target inside (stopOf read g.stop)) read, rest)

/-- What starts at a glyph. -/
def start? (st : State) (g : Glyph) (gs : List Glyph) : Attempt :=
  match g.char with
  | '!' => openImage? st g gs
  | '\x60' => code? c st g gs
  | '&' => reference? st g gs
  | '*' | '_' | '~' => run? c st g gs
  | '<' => angle? c st g gs
  | 'h' | 'H' | 'w' | 'W' => address? c st g gs
  | '[' => openLink? st g gs
  | ']' => close? c st g gs
  | '\\' => escape? st g gs
  | '\n' => some (st.push (.ending g.start g.stop) [g], gs)
  | _ => none

/-- Read a text, in at most `fuel` steps. -/
def readFrom : Nat → State → List Glyph → State
  | 0, st, _ => st
  | _ + 1, st, [] => st
  | fuel + 1, st, g :: gs =>
    match start? c st g gs with
    | some (st, rest) => readFrom fuel st rest
    | none => readFrom fuel (st.data g) gs

/-- The pieces of a text. -/
def pieces (gs : List Glyph) : List Piece := (readFrom c gs.length {} gs).pieces.reverse

/-! ## Constructs -/

/-- Text that is still growing: where it starts and ends, and what it says. -/
abbrev Growing := Option (Point × Point × List Char)

/-- Text that is complete. -/
def grown (t : Growing) : List Tree :=
  t.toList.map fun (start, stop, cs) =>
    .node .text (some (start.spanTo stop)) (some (String.ofList cs)) []

/-- The constructs of some pieces. -/
structure Output where
  /-- what is complete, last one first -/
  trees : List Tree := []
  /-- the text that is still growing -/
  text : Growing := none
  /-- where a hard break starts that the next line ending completes -/
  breaking : Option Point := none

namespace Output

/-- More text. -/
def grow (o : Output) (start stop : Point) (value : List Char) : Output :=
  match o.text with
  | some (first, _, cs) => { o with text := some (first, stop, cs ++ value) }
  | none => { o with text := some (start, stop, value) }

/-- One more construct, after the text before it. -/
def add (o : Output) (construct : Construct) (start stop : Point) (value : Option (List Char))
    (children : List Tree) : Output :=
  { trees :=
      .node construct (some (start.spanTo stop)) (value.map String.ofList) children ::
        (grown o.text ++ o.trees) }

/-- Everything, first one first. -/
def all (o : Output) : List Tree := (grown o.text ++ o.trees).reverse

/-- A line ending: text, or the end of a hard break. -/
def endLine (s : Source) (o : Output) (start stop : Point) : Output :=
  match o.breaking with
  | some first => o.add .lineBreak first stop none []
  | none => o.grow start stop (s.slice start stop)

end Output

/-- The point after some characters of a row. -/
def Point.over (p : Point) (cs : List Char) : Point :=
  cs.foldl (fun p c => if c = '\t' then p.afterTab else p.after c) p

/-- Data that is cut at the email addresses in it. -/
def addMails (o : Output) (start stop : Point) (cs : List Char) : List (Nat × Nat) → Output
  | [] => if cs = [] then o else o.grow start stop cs
  | (gap, size) :: rest =>
    let before := cs.take gap
    let mail := (cs.drop gap).take size
    let first := Point.over start before
    let last := Point.over first mail
    let o := if before = [] then o else o.grow start first before
    let link := o.add .link first last none (grown (some (first, last, mail)))
    addMails link last stop (cs.drop (gap + size)) rest

/-- Data, cut at the email addresses in it unless it is in a link. -/
def addData (s : Source) (linked : Bool) (o : Output) (start stop : Point) : Output :=
  let raw := s.raw start stop
  match if linked then [] else mailAddresses raw with
  | [] => o.grow start stop (s.slice start stop)
  | mails => addMails o start stop raw mails

mutual

/-- The constructs of some pieces and one more. `linked` says that it is in a link, where no address
is one. -/
def addPiece (s : Source) (linked : Bool) (o : Output) : Piece → Output
  | .data start stop => addData s linked o start stop
  | .literal start stop value => o.grow start stop value
  | .ending start stop => o.endLine s start stop
  | .hardBreak start _ => { o with breaking := some start }
  | .run _ | .bracket _ _ _ => o
  | .leaf construct start stop value => o.add construct start stop value []
  | .group construct start stop inside =>
    let linked := linked || construct == .link || construct == .linkReference
    o.add construct start stop none (addPieces s linked {} inside).all

def addPieces (s : Source) (linked : Bool) (o : Output) : List Piece → Output
  | [] => o
  | p :: ps => addPieces s linked (addPiece s linked o p) ps

end

/-- The constructs of a text. `first` says that nothing has been cut off before it. -/
def trees (first : Bool) (gs : List Glyph) : List Tree :=
  let settled := Piece.settleAll (pairRuns (pieces c gs))
  (addPieces c.source false {} (trimText c.source first settled)).all

/-! ## Check boxes -/

/-- The text after the check box of a task. Something else must follow in the paragraph. -/
def afterCheckBox? : List Glyph → Option (List Glyph)
  | a :: b :: d :: rest =>
    let filled := b.isSpace || b.char == '\n' || b.char == 'x' || b.char == 'X'
    if a.char = '[' ∧ filled ∧ d.char = ']' then
      match rest with
      | g :: gs =>
        if g.char = '\n' ∨ g.isSpace ∧ skipSpaces gs ≠ [] then some (g :: gs) else none
      | [] => none
    else none
  | _ => none

end Inline

end DocLint.Markdown
