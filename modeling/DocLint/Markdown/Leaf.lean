import DocLint.Markdown.Fence
import DocLint.Markdown.Heading
import DocLint.Markdown.HtmlBlock
import DocLint.Markdown.Outline

/-!
# Open leaves

A leaf that is open at the end of a row may go on in the next one. A concrete leaf (fenced code, raw
HTML) keeps containers from starting inside it.

* `Leaf.entries` — what a leaf comes to when it ends;
* `Leaf.take?` — how a leaf takes the next row;
* `RowStart.of` — what a row starts that no leaf has taken.
-/

namespace DocLint.Markdown

/-- A leaf that the next row may go on with. -/
inductive Leaf where
  /-- nothing to go on with -/
  | closed
  /-- rows of text; `cells` counts the cells if the last row may be the head of a table -/
  | content (rows : List Row) (cells : Option Nat)
  /-- a row under a heading, which is not quite closed -/
  | underline
  /-- a table up to a point: its rows, without the delimiter row -/
  | table (rows : List Row) (stop : Point)
  | fenced (fence : Fence) (opening : Row) (rows : List Row)
  | html (kind : HtmlBlock) (rows : List Row)
  /-- rows of indented code, and blank rows that more code may follow -/
  | indented (start : Point) (rows blanks : List Row)
deriving Inhabited

namespace Leaf

/-- Whether containers cannot start inside a leaf. -/
def isConcrete : Leaf → Bool
  | fenced _ _ _ | html _ _ => true
  | _ => false

/-- Whether a row that lacks the marks of its containers may go on with a leaf. -/
def isAccepting : Leaf → Bool
  | content _ _ | underline => true
  | _ => false

/-- The text of rows with the line endings between them, and the one after them if `whole`. -/
def rowsText (s : Source) (whole : Bool) : List Row → List Char
  | [] => []
  | [r] => if whole then r.text s else s.slice r.start r.stop
  | r :: rs => r.text s ++ rowsText s whole rs

/-- Where rows end, after the last line ending if `whole`. -/
def rowsStop (whole : Bool) (rows : List Row) (other : Point) : Point :=
  match rows.getLast? with
  | some r => if whole then r.next else r.stop
  | none => other

/-- Fenced code that ends at a point. The text has the line ending after it if `whole`. -/
def codeBlock (s : Source) (f : Fence) (opening : Row) (rows : List Row) (whole : Bool)
    (stop : Point) : Entry :=
  let ending : Row := opening.withGlyphs []
  .block (.leaf .code f.start stop (some (trimEndings true (rowsText s whole (ending :: rows)))))

/-- What a leaf comes to when it ends after its last row. A concrete leaf takes the line ending of
that row if `whole`. -/
def entries (s : Source) (whole : Bool) : Leaf → List Entry
  | closed | underline => []
  | content rows _ => [.content rows]
  | table rows stop => (Block.ofRows rows stop).map .block
  | fenced f opening rows =>
    [codeBlock s f opening rows whole (rowsStop whole (opening :: rows) f.start)]
  | html kind rows =>
    let whole := whole && kind.isMarked
    match rows with
    | [] => []
    | r :: _ =>
      [.block (.leaf .html r.start (rowsStop whole rows r.start)
        (some (rowsText s whole rows)))]
  | indented start rows _ =>
    [.block (.leaf .code start (rowsStop false rows start)
      (some (trimEndings false (rowsText s false rows))))]

/-- How a leaf takes a row: what has ended with it, and the leaf that is open after it. A leaf that
leaves the row alone ends before it. `lazy` says that marks of containers are missing, and `pierced`
that a container starts in the row. -/
def take? (s : Source) (lazy pierced : Bool) (r : Row) : Leaf → Option (List Entry × Leaf)
  | fenced f opening rows =>
    if lazy then none
    else if f.closes r.glyphs then some ([codeBlock s f opening rows true r.stop], closed)
    else some ([], fenced f opening (rows ++ [r.withGlyphs (dropSpaces f.indent r.glyphs)]))
  | html kind rows =>
    if lazy || (!kind.isMarked && r.isBlank) then none
    else if kind.closes (r.glyphs.map (·.char)) then
      some ((html kind (rows ++ [r])).entries s false, closed)
    else some ([], html kind (rows ++ [r]))
  | indented start rows blanks =>
    if lazy || pierced then none
    else if tabSize ≤ countSpaces r.glyphs then
      some ([], indented start (rows ++ blanks ++ [r.withGlyphs (r.glyphs.drop tabSize)]) [])
    else if r.isBlank then some ([], indented start rows (blanks ++ [r.withGlyphs []]))
    else none
  | content rows (some cells) =>
    if lazy || pierced || Table.delimiterCells? r.glyphs != some cells then none
    else
      match rows.getLast?, rows.dropLast with
      | some head, [] => some ([], table [head] r.stop)
      | some head, before => some ([.content before], table [head] r.stop)
      | none, _ => none
  | _ => none

end Leaf

/-! ## What a row starts -/

/-- What a row starts that no leaf has taken. -/
inductive RowStart where
  | blank
  | indented
  | fenced (fence : Fence)
  /-- raw HTML, which may end in the row -/
  | html (kind : HtmlBlock) (ended : Bool)
  | heading (text : List Glyph)
  | underline
  | thematicBreak
  | tableRow
  /-- text; `cells` counts the cells if the row may be the head of a table -/
  | content (cells : Option Nat)
deriving Repr

namespace RowStart

/-- Whether a row is text. -/
def isContent : RowStart → Bool
  | content _ => true
  | _ => false

/-- What a row starts, where its first glyph does not settle it. -/
def ofAny (leaf : Leaf) (interrupting lazy pierced : Bool) (r : Row) : RowStart :=
  if r.isBlank then blank
  else if !interrupting && tabSize ≤ countSpaces r.glyphs then indented
  else
    match Fence.open? r, HtmlBlock.start? (interrupting && !lazy) r.glyphs, heading? r.glyphs with
    | some f, _, _ => fenced f
    | _, some (kind, ended), _ => html kind ended
    | _, _, some text => heading text
    | none, none, none =>
      if leaf.isAccepting && !lazy && !pierced && isUnderline r.glyphs then underline
      else if isThematicBreak r.glyphs then thematicBreak
      else
        match leaf with
        | .table _ _ => if lazy then content none else tableRow
        | _ => content (if r.ending.isSome then Table.headCells? r.glyphs else none)

/-- What a row starts. A row that starts with a mark of headings, fences or thematic breaks is that
or text; one that starts with certain letters or a brace is text. -/
def of (leaf : Leaf) (interrupting lazy pierced : Bool) (r : Row) : RowStart :=
  match r.glyphs.head?.map (·.char) with
  | some '#' => ((heading? r.glyphs).map heading).getD (content none)
  | some '\x60' | some '~' | some '$' => ((Fence.open? r).map fenced).getD (content none)
  | some '*' | some '_' => if isThematicBreak r.glyphs then thematicBreak else content none
  | some 'e' | some 'i' | some '\x7b' => content none
  | _ => ofAny leaf interrupting lazy pierced r

end RowStart

end DocLint.Markdown
