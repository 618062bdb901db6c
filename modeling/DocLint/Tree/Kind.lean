/-!
# Node kinds

The kinds of node a document tree is made of, in one fixed order, with the names that configuration
and reports use for them.

* `ofName?_name` — every name reads back as its kind;
* `mem_all` — the listing `all` is complete.
-/

namespace DocLint

/-- What a node of a document tree stands for. -/
inductive NodeKind where
  | document
  | paragraph
  | blockQuote
  | list
  | listItem
  | header
  | codeBlock
  /-- raw markup, a block of its own or inside a line -/
  | html
  | horizontalRule
  /-- plain text -/
  | str
  | lineBreak
  | emphasis
  | strong
  | link
  | linkReference
  | image
  | imageReference
  | definition
  /-- code inside a line -/
  | code
  | delete
  | table
  | tableRow
  | tableCell
  /-- a comment of the host format itself; its value is the text without delimiters -/
  | comment
deriving DecidableEq, Repr, Inhabited

namespace NodeKind

/-- Every kind, in order. -/
def all : List NodeKind :=
  [document, paragraph, blockQuote, list, listItem, header, codeBlock, html, horizontalRule, str,
    lineBreak, emphasis, strong, link, linkReference, image, imageReference, definition, code,
    delete, table, tableRow, tableCell, comment]

/-- The name of a kind. -/
def name : NodeKind → String
  | document => "Document"
  | paragraph => "Paragraph"
  | blockQuote => "BlockQuote"
  | list => "List"
  | listItem => "ListItem"
  | header => "Header"
  | codeBlock => "CodeBlock"
  | html => "Html"
  | horizontalRule => "HorizontalRule"
  | str => "Str"
  | lineBreak => "Break"
  | emphasis => "Emphasis"
  | strong => "Strong"
  | link => "Link"
  | linkReference => "LinkReference"
  | image => "Image"
  | imageReference => "ImageReference"
  | definition => "Definition"
  | code => "Code"
  | delete => "Delete"
  | table => "Table"
  | tableRow => "TableRow"
  | tableCell => "TableCell"
  | comment => "Comment"

/-- The kind with the given name. -/
def ofName? (s : String) : Option NodeKind := all.find? (·.name == s)

/-- What is said of a name that no kind has. -/
def unknownMessage (s : String) : String := s!"unknown node type '{s}'"

/-- The place of a kind in the order. -/
def index (k : NodeKind) : Nat := all.idxOf k

theorem mem_all (k : NodeKind) : k ∈ all := by
  cases k <;> decide

/-- Every name reads back as its kind. -/
theorem ofName?_name (k : NodeKind) : ofName? k.name = some k := by
  cases k <;> decide

end NodeKind

/-! ## Roles -/

/-- What a node means to a directive that waits for the next node. -/
inductive Role where
  /-- content that can be the next node -/
  | content
  /-- raw markup, which may carry comments and is content otherwise -/
  | markup
  /-- a comment whose value may be a directive -/
  | comment
  /-- passed over -/
  | skipped
deriving DecidableEq, Repr, Inhabited

namespace Role

/-- The name of a role. -/
def name : Role → String
  | content => "Content"
  | markup => "Markup"
  | comment => "Comment"
  | skipped => "Skipped"

end Role

/-- The role of a kind. A table cell is skipped: the row that holds it comes first. -/
def NodeKind.role : NodeKind → Role
  | .html => .markup
  | .comment => .comment
  | .tableCell => .skipped
  | _ => .content

end DocLint
