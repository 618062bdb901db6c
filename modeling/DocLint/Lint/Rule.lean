import DocLint.Lint.Diagnostic
import DocLint.Text.Blank
import DocLint.Text.Word
import DocLint.Tree.Basic

/-!
# Rules

A rule has an id, and reads a document to report diagnostics. A linter takes rules of any make; the
two below look at one node at a time, in document order.

* the marker rule reports each `TODO:` that starts a word in plain text;
* a kind rule reports each node of the kinds it was given, under an id of its own.
-/

namespace DocLint

namespace TodoMarker

/-- Whether a text starts with the five characters of the marker, in whatever letter case. -/
def startsHere : List Char → Bool
  | a :: b :: c :: d :: e :: _ =>
    a.toLower = 't' && b.toLower = 'o' && c.toLower = 'd' && d.toLower = 'o' && e = ':'
  | _ => false

/-- The markers in a text, each with its position and the text from there on. `before` is the
character before the text, if any: a marker after a word character is none. -/
def scan (p : Position) (before : Option Char) : List Char → List (Position × List Char)
  | [] => []
  | c :: cs =>
    let rest := scan (p.next c) (some c) cs
    if startsHere (c :: cs) && !before.any Text.isWord then (p, c :: cs) :: rest else rest

/-- The message for a marker: what is left of the text from it on, without trailing blanks. -/
def message (rest : List Char) : String :=
  "Found TODO: '" ++ String.ofList (Text.trimEnd rest) ++ "'"

end TodoMarker

/-- What a document is checked for. -/
structure Rule where
  /-- the id, which reports show and directives name -/
  name : String
  category : String
  description : String
  /-- what is reported of a source and its document -/
  check : List Char → Node → List Diagnostic
deriving Inhabited

namespace Rule

/-- The name of the marker rule. -/
def todoName : String := "no-todo"

/-- The id a kind rule has in configurations. -/
def nodeKindsName : String := "report-node-types"

end Rule

/-- A rule that looks at one node at a time. -/
inductive NodeRule where
  /-- markers of work left to do -/
  | todoMarkers
  /-- nodes of certain kinds -/
  | nodeKinds (id : String) (kinds : List NodeKind)
deriving DecidableEq, Repr, Inhabited

namespace NodeRule

/-- The id of a rule. -/
def name : NodeRule → String
  | todoMarkers => Rule.todoName
  | nodeKinds id _ => id

/-- The category of a rule. -/
def category : NodeRule → String
  | todoMarkers => "content"
  | nodeKinds _ _ => "debug"

/-- What a rule does. -/
def description : NodeRule → String
  | todoMarkers => "Disallow TODO: markers in text"
  | nodeKinds _ _ => "Report nodes of the configured types"

/-- The diagnostics of a rule for one node. -/
def checkNode (source : List Char) (node : Node) (r : NodeRule) : List Diagnostic :=
  match r with
  | todoMarkers =>
    if node.kind = .str then
      (TodoMarker.scan node.span.start none (node.raw source)).map fun (p, rest) =>
        { rule := r.name, category := r.category
          message := TodoMarker.message rest, severity := .warning : Diagnostic }.place p
    else []
  | nodeKinds _ kinds =>
    if node.kind ∈ kinds then
      [{ rule := r.name, category := r.category
         message := s!"found {node.kind.name} node", severity := .error : Diagnostic }.place
          node.span.start]
    else []

/-- The diagnostics of a rule for a document. -/
def check (r : NodeRule) (source : List Char) (document : Node) : List Diagnostic :=
  document.preorder.flatMap fun node => r.checkNode source node

/-- A rule that looks at one node at a time, among the others. -/
def toRule (r : NodeRule) : Rule := ⟨r.name, r.category, r.description, r.check⟩

end NodeRule

namespace Rule

/-- The rule that reports markers of work left to do. -/
def todoMarkers : Rule := NodeRule.todoMarkers.toRule

/-- The rule that reports the nodes of certain kinds under an id. -/
def nodeKinds (id : String) (kinds : List NodeKind) : Rule := (NodeRule.nodeKinds id kinds).toRule

end Rule

end DocLint
