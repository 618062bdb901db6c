import DocLint.Directive.Basic
import DocLint.Directive.Comments
import DocLint.Lint.IgnoreRange
import DocLint.Tree.Basic

/-!
# Next-node suppression

A directive suppresses the node that is visited next. The suppressor reads the nodes of a document
in order and holds at most one directive. Each node it does not skip first takes the directive that
is pending, which marks the whole span of the node as ignored; only then is the node itself read for
directives. Each directive found takes the place of the one before it.

* `Pending.arm`, `Pending.take` — a directive starts to wait, and is spent;
* `Suppressor.visit` — one node: spend what is pending, then read the node;
* `Suppressor.run` — a sequence of nodes;
* `Suppressor.Event` — what happened, for the log.
-/

namespace DocLint

/-- A directive that waits for the next node, or none. -/
structure Pending where
  /-- whether a directive waits -/
  active : Bool := false
  /-- the rules it is meant for, ascending; empty means every rule -/
  ruleIds : List String := []
deriving DecidableEq, Repr, Inhabited

namespace Pending

/-- Let a directive wait, in place of any other. -/
def arm (p : Pending) (d : Directive) : Pending :=
  { p with active := true, ruleIds := d.ruleIds }

/-- Spend the directive that waits: its rule ids, and what is pending after that. -/
def take (p : Pending) : Option (List String) × Pending :=
  if p.active then (some p.ruleIds, { p with active := false, ruleIds := [] }) else (none, p)

end Pending

/-- The suppressor between two nodes. -/
structure Suppressor where
  /-- the source the nodes were read from -/
  source : List Char
  keyword : String
  pending : Pending := {}
  /-- the ranges marked so far, in order -/
  ranges : List IgnoreRange := []
deriving DecidableEq, Repr

namespace Suppressor

/-- What the suppressor does, in the words of its log. -/
inductive Event where
  /-- a waiting directive is spent on a node -/
  | suppressing (kind : NodeKind) (place : Position) (directive : Directive)
  /-- a directive is found in a node -/
  | armed (keyword : String) (place : Position)
  /-- the document ends while a directive waits -/
  | discarding (keyword : String) (directive : Directive)
deriving DecidableEq, Repr

/-- The text of an event. -/
def Event.message : Event → String
  | suppressing kind p d =>
    let rules := if d.ruleIds.isEmpty then "all rules" else ", ".intercalate d.ruleIds
    s!"suppressing {kind.name} at {p.display} for {rules}"
  | armed keyword p => s!"{keyword} directive at {p.display}"
  | discarding keyword d =>
    s!"discarding {keyword} directive at end of document ({d.ruleIds.length} rule id(s))"

/-- The directive that waits for the next node. -/
def waiting (s : Suppressor) : Option Directive :=
  if s.pending.active then some ⟨s.pending.ruleIds⟩ else none

/-- Mark a span for a scope. -/
def ignore (s : Suppressor) (span : Span) (scope : Scope) : Suppressor :=
  { s with ranges := s.ranges ++ [IgnoreRange.ofSpan span scope] }

/-- Spend what is pending on a node: its span is marked for every rule, or for one named rule after
the other. -/
def consume (s : Suppressor) (node : Node) : Suppressor :=
  match s.pending.take with
  | (none, pending) => { s with pending }
  | (some [], pending) => ({ s with pending } : Suppressor).ignore node.span .all
  | (some ids, pending) =>
    ids.foldl (fun s id => s.ignore node.span (.rule id)) { s with pending }

/-- Let the directive in a comment body wait, if there is one. -/
def armFrom (s : Suppressor) (body : List Char) : Suppressor :=
  match Directive.parse? s.keyword body with
  | some d => { s with pending := s.pending.arm d }
  | none => s

/-- The text of a value; empty if a node has none. -/
def valueText (node : Node) : List Char := (node.value.getD "").toList

/-- The text of raw markup. Markup that covers no source is read from its value. -/
def markupText (source : List Char) (node : Node) : List Char :=
  if (node.raw source).isEmpty then valueText node else node.raw source

/-- Read the comments in raw markup, one after the other. -/
def scanMarkup (s : Suppressor) (node : Node) : Suppressor :=
  let text := markupText s.source node
  if Comments.hasComment text then (Comments.bodies text).foldl armFrom s else s

/-- Read the next node: what is pending is spent on it before it is read itself. -/
def visit (s : Suppressor) (node : Node) : Suppressor :=
  match node.kind.role with
  | .skipped => s
  | .markup => (s.consume node).scanMarkup node
  | .comment => (s.consume node).armFrom (valueText node)
  | .content => s.consume node

/-- Read some nodes in order. -/
def run (s : Suppressor) (nodes : List Node) : Suppressor := nodes.foldl visit s

/-- The texts of a node that may be directives: the bodies of the comments in raw markup, or the
value of a comment node. -/
def candidates (source : List Char) (node : Node) : List (List Char) :=
  match node.kind.role with
  | .markup => Comments.bodies (markupText source node)
  | .comment => [valueText node]
  | .content | .skipped => []

/-- The directives in a node, in order. -/
def directives (source : List Char) (keyword : String) (node : Node) : List Directive :=
  (candidates source node).filterMap (Directive.parse? keyword)

/-- What happens when the next node is read. -/
def events (s : Suppressor) (node : Node) : List Event :=
  if node.kind.role = .skipped then []
  else
    (s.waiting.toList.map fun d => Event.suppressing node.kind node.span.start d) ++
      (directives s.source s.keyword node).map fun _ => Event.armed s.keyword node.span.start

/-- What happens while some nodes are read. -/
def runEvents (s : Suppressor) : List Node → List Event
  | [] => []
  | n :: ns => events s n ++ runEvents (s.visit n) ns

/-- What happens at the end of the document. -/
def finish (s : Suppressor) : List Event :=
  s.waiting.toList.map fun d => Event.discarding s.keyword d

@[simp] theorem run_nil (s : Suppressor) : s.run [] = s := rfl

@[simp] theorem run_cons (s : Suppressor) (n : Node) (ns : List Node) :
    s.run (n :: ns) = (s.visit n).run ns := rfl

end Suppressor

/-! ## The filter -/

/-- A filter that suppresses the node after each directive with its keyword. -/
structure NextNodeFilter where
  keyword : String
deriving DecidableEq, Repr, Inhabited

namespace NextNodeFilter

/-- The name of the filter, which configurations use. -/
def name : String := "disable-next-line"

/-- What the filter does. -/
def description : String :=
  "Ignore diagnostics on the node following a disable-next-line comment"

/-- The filter for a keyword that may be empty. -/
def ofKeyword (keyword : String) : NextNodeFilter := ⟨Directive.effectiveKeyword keyword⟩

/-- The suppressor before a document is read, when some ranges are marked already. -/
def start (f : NextNodeFilter) (source : List Char) (marked : List IgnoreRange := []) :
    Suppressor :=
  { source := source, keyword := f.keyword, ranges := marked }

/-- Add the ranges that the directives of a document mark to those that are marked already. -/
def apply (f : NextNodeFilter) (source : List Char) (document : Node)
    (marked : List IgnoreRange) : List IgnoreRange :=
  ((f.start source marked).run document.preorder).ranges

/-- The ranges that the directives of a document mark. -/
def ranges (f : NextNodeFilter) (source : List Char) (document : Node) : List IgnoreRange :=
  f.apply source document []

/-- What happens while a document is read. -/
def events (f : NextNodeFilter) (source : List Char) (document : Node) :
    List Suppressor.Event :=
  let s := f.start source
  s.runEvents document.preorder ++ (s.run document.preorder).finish

end NextNodeFilter

end DocLint
