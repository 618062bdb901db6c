import DocLint.Document.Extent
import DocLint.Text.Blank
import DocLint.Tree.Basic

/-!
# Plain text

Plain text knows nothing but paragraphs: runs of lines that are not blank. A paragraph holds one
`Str` for each of its lines and a `Break` between two of them, so that its children cover it without
a gap. Line feeds end lines; carriage returns before a line feed belong to the break.

* `lines` — the source cut after each line feed;
* `Reader.read` — one line: it joins the paragraph under way, or ends it if it is blank;
* `parse` — the document with a paragraph node for each run of lines.
-/

namespace DocLint.Document.Plain

/-- The lines of a text, each with its line feed; a text that ends with one has no line after it. -/
def lines : List Char → List (List Char)
  | [] => []
  | c :: cs =>
    if c = '\n' then [c] :: lines cs
    else
      match lines cs with
      | [] => [[c]]
      | l :: ls => (c :: l) :: ls

/-- A line without the carriage returns and the line feed that end it. -/
def content (line : List Char) : List Char :=
  Text.dropTrailing (fun c => c == '\r' || c == '\n') line

/-- A line of a source: where it starts and what it says. -/
structure Line where
  start : Position
  content : List Char
deriving DecidableEq, Repr

namespace Line

/-- Where the content of a line ends. -/
def stop (l : Line) : Position := l.start.advance l.content

/-- Whether a line has nothing to see. -/
def isBlank (l : Line) : Bool := (Text.trim l.content).isEmpty

/-- The text of a line as a node. -/
def node (l : Line) : Node := Node.leaf .str ⟨l.start, l.stop⟩ (String.ofList l.content)

end Line

/-- What lies between two lines of a paragraph. -/
def breakBetween (l m : Line) : Node := Node.leaf .lineBreak ⟨l.stop, m.start⟩ "\n"

/-- The children of a paragraph: its lines with breaks between them. -/
def children : List Line → List Node
  | [] => []
  | [l] => [l.node]
  | l :: m :: ls => l.node :: breakBetween l m :: children (m :: ls)

/-- A run of lines as a paragraph, from the start of its first line to the end of its last. -/
def paragraph (ls : List Line) : Node :=
  Node.parent .paragraph
    ⟨(ls.head?.map Line.start).getD {}, (ls.getLast?.map Line.stop).getD {}⟩ (children ls)

/-- The reader between two lines. -/
structure Reader where
  /-- where the next line starts -/
  start : Position := Position.origin
  /-- the lines of the paragraph under way -/
  pending : List Line := []
  /-- the paragraphs that are complete -/
  paragraphs : List Node := []

namespace Reader

/-- End the paragraph under way, if there is one. -/
def flush (r : Reader) : Reader :=
  if r.pending.isEmpty then r
  else { r with pending := [], paragraphs := r.paragraphs ++ [paragraph r.pending] }

/-- Take a line in: a blank one ends the paragraph under way, any other joins it. -/
def take (r : Reader) (l : Line) : Reader :=
  if l.isBlank then r.flush else { r with pending := r.pending ++ [l] }

/-- Read the next line, which is given with what ends it. -/
def read (r : Reader) (line : List Char) : Reader :=
  { r.take ⟨r.start, content line⟩ with
    start := ⟨r.start.line + 1, 1, r.start.offset + Text.byteSize line⟩ }

end Reader

/-- The tree of a plain text. -/
def parse (source : List Char) : Node :=
  Node.parent .document (extent source) ((lines source).foldl Reader.read {}).flush.paragraphs

end DocLint.Document.Plain
