import DocLint.Text.Slice
import DocLint.Tree.Kind

/-!
# Document trees

A node has a kind, the span of source it covers, a value if it is a leaf that stands for text, and
its children in document order.

* `Node.preorder` — the node and everything below it, parents before children;
* `Node.flat` — the same listing with depths;
* `Node.raw` — the source a node covers, empty if its span is no slice of that source.
-/

namespace DocLint

/-- A node of a document tree. -/
structure Node where
  kind : NodeKind
  span : Span
  value : Option String := none
  children : List Node := []
deriving Inhabited

/-- One line of a flat listing: a node without its children, and how deep it lies. -/
structure FlatEntry where
  depth : Nat
  kind : NodeKind
  span : Span
  value : Option String
deriving DecidableEq, Repr, Inhabited

namespace Node

/-- A leaf that stands for text. -/
def leaf (kind : NodeKind) (span : Span) (value : String) : Node := ⟨kind, span, some value, []⟩

/-- A node that groups others. -/
def parent (kind : NodeKind) (span : Span) (children : List Node) : Node :=
  ⟨kind, span, none, children⟩

/-- The source a node covers; empty if the span is no slice of `source`. -/
def raw (node : Node) (source : List Char) : List Char :=
  (Text.slice? source node.span.start.offset node.span.stop.offset).getD []

mutual

/-- A node followed by everything below it. -/
def preorder : Node → List Node
  | ⟨kind, span, value, children⟩ => ⟨kind, span, value, children⟩ :: preorderAll children

/-- The listings of several trees, joined. -/
def preorderAll : List Node → List Node
  | [] => []
  | n :: ns => preorder n ++ preorderAll ns

end

@[simp] theorem preorderAll_nil : preorderAll [] = [] := by simp [preorderAll]

@[simp] theorem preorderAll_cons (n : Node) (ns : List Node) :
    preorderAll (n :: ns) = n.preorder ++ preorderAll ns := by simp [preorderAll]

/-- A listing starts with its root and goes on with the listings of the children. -/
theorem preorder_eq (n : Node) : n.preorder = n :: preorderAll n.children := by
  cases n
  simp [preorder]

mutual

/-- The pre-order listing of a tree whose root lies at the given depth. -/
def flatAt (depth : Nat) : Node → List FlatEntry
  | ⟨kind, span, value, children⟩ => ⟨depth, kind, span, value⟩ :: flatAll (depth + 1) children

def flatAll (depth : Nat) : List Node → List FlatEntry
  | [] => []
  | n :: ns => flatAt depth n ++ flatAll depth ns

end

/-- The pre-order listing of a tree, its root at depth zero. -/
def flat (node : Node) : List FlatEntry := flatAt 0 node

end Node

end DocLint
