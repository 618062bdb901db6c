import DocLint.Document.Extent
import DocLint.Tree.Basic

/-!
# Markdown trees

What Markdown is read into: a tree of constructs. A document tree keeps most constructs as nodes of
their own; the others are dropped, and what they contain takes their place.

* `Construct.kind?` — the kind of node a construct becomes, if any;
* `Tree.lower` — the nodes a tree becomes;
* `Tree.document` — the document tree of a source and the constructs in it.
-/

namespace DocLint.Markdown

/-- The constructs of Markdown. -/
inductive Construct where
  | root
  | paragraph
  | heading
  | blockQuote
  | list
  | listItem
  | code
  /-- a formula in a block of its own -/
  | math
  | html
  | thematicBreak
  | definition
  | footnoteDefinition
  /-- data in front of the document, in one format or another -/
  | frontMatter
  | table
  | tableRow
  | tableCell
  | text
  | lineBreak
  | emphasis
  | strong
  | delete
  | link
  | linkReference
  | image
  | imageReference
  | inlineCode
  /-- a formula inside a line -/
  | inlineMath
  | footnoteReference
  /-- an element of MDX, a block of its own or inside a line -/
  | mdxElement
  /-- an expression of MDX, a block of its own or inside a line -/
  | mdxExpression
  /-- imports and exports of MDX -/
  | mdxModule
deriving DecidableEq, Repr, Inhabited

namespace Construct

/-- The kind of node a construct becomes. Formulas become code; footnotes, front matter and MDX are
of no kind. -/
def kind? : Construct → Option NodeKind
  | root => some .document
  | paragraph => some .paragraph
  | heading => some .header
  | blockQuote => some .blockQuote
  | list => some .list
  | listItem => some .listItem
  | code | math => some .codeBlock
  | html => some .html
  | thematicBreak => some .horizontalRule
  | definition => some .definition
  | table => some .table
  | tableRow => some .tableRow
  | tableCell => some .tableCell
  | text => some .str
  | lineBreak => some .lineBreak
  | emphasis => some .emphasis
  | strong => some .strong
  | delete => some .delete
  | link => some .link
  | linkReference => some .linkReference
  | image => some .image
  | imageReference => some .imageReference
  | inlineCode | inlineMath => some .code
  | footnoteDefinition | frontMatter | footnoteReference => none
  | mdxElement | mdxExpression | mdxModule => none

/-- Whether a construct stands for text, so that its node has a value. -/
def isLiteral : Construct → Bool
  | text | inlineCode | inlineMath | code | math | html => true
  | _ => false

end Construct

/-- A tree of constructs, each with the span it covers, if that is known, and its text. -/
inductive Tree where
  | node (construct : Construct) (span : Option Span) (value : Option String) (children : List Tree)
deriving Inhabited

namespace Tree

/-- The children of a tree. -/
def children : Tree → List Tree
  | node _ _ _ cs => cs

/-- A node of a construct over the given children. -/
def wrap (construct : Construct) (span : Option Span) (value : Option String)
    (children : List Node) : List Node :=
  match construct.kind? with
  | some kind =>
    [⟨kind, span.getD {}, if construct.isLiteral then value else none, children⟩]
  | none => children

mutual

/-- The nodes that a tree becomes: one over those of its children, or just those. -/
def lower : Tree → List Node
  | node construct span value children => wrap construct span value (lowerAll children)

def lowerAll : List Tree → List Node
  | [] => []
  | t :: ts => lower t ++ lowerAll ts

end

/-- The document tree of a source, given the tree its constructs make up. -/
def document (source : List Char) (tree : Tree) : Node :=
  Node.parent .document (Document.extent source) (lowerAll tree.children)

end Tree

end DocLint.Markdown
