import DocLint.Markdown.Tree

/-!
# What a document tree keeps of the constructs

Constructs without a kind of node are dropped, and what they contain takes their place. So the
pre-order listing of the document tree is the pre-order listing of the constructs with some entries
left out, and an entry lies as deep as it has kept constructs around it. As a listing with depths
belongs to one tree only, this says where each node hangs.

* `Tree.occurrences` — the pre-order listing of a tree, with the constructs around each one;
* `Tree.flatAll_lowerAll` — the listing of what some trees become, at any depth;
* `Node.flat_injective` — a listing with depths determines its tree;
* `Tree.map_preorder_document` — what a walk over the document tree meets;
* `Tree.flat_document` — the listing of the document tree, and that no other tree has it.
-/

namespace DocLint

/-! ## Listings with depths

A tree is told by its listing if each node is listed with its depth: what lies below a node is what
follows it as long as the depths are greater. So it is enough to compare listings. -/

namespace Node

theorem flatAll_cons (depth : Nat) (kind : NodeKind) (span : Span) (value : Option String)
    (children ns : List Node) :
    flatAll depth (⟨kind, span, value, children⟩ :: ns) =
      ⟨depth, kind, span, value⟩ :: (flatAll (depth + 1) children ++ flatAll depth ns) := by
  rw [flatAll, flatAt, List.cons_append]

theorem flatAll_singleton (depth : Nat) (n : Node) : flatAll depth [n] = flatAt depth n := by
  rw [flatAll, flatAll, List.append_nil]

theorem flatAll_append (depth : Nat) (a b : List Node) :
    flatAll depth (a ++ b) = flatAll depth a ++ flatAll depth b := by
  induction a with
  | nil => rw [flatAll, List.nil_append, List.nil_append]
  | cons n ns ih => rw [List.cons_append, flatAll, flatAll, ih, List.append_assoc]

/-- Without the depths, a listing names the nodes that a walk in pre-order meets. They tell apart
trees that a walk does not. -/
theorem map_flatAll (depth : Nat) (ns : List Node) :
    ((flatAll depth ns).map fun e => (e.kind, e.span, e.value)) =
      (preorderAll ns).map fun n => (n.kind, n.span, n.value) := by
  match ns with
  | [] => rfl
  | ⟨kind, span, value, children⟩ :: ns =>
    rw [flatAll_cons, preorderAll_cons, preorder_eq, List.map_cons, List.map_append,
      map_flatAll (depth + 1) children, map_flatAll depth ns, ← List.map_append, List.cons_append,
      List.map_cons]
termination_by ns

/-- Nothing in a listing lies higher than its roots. So what lies deeper belongs to the root before
it. -/
theorem le_depth_of_mem_flatAll {depth : Nat} {ns : List Node} {e : FlatEntry}
    (he : e ∈ flatAll depth ns) : depth ≤ e.depth := by
  match ns with
  | [] => exact absurd he (by rw [flatAll]; exact List.not_mem_nil)
  | ⟨kind, span, value, children⟩ :: ns =>
    rw [flatAll_cons, List.mem_cons, List.mem_append] at he
    rcases he with rfl | hbelow | hnext
    · exact Nat.le_refl _
    · exact Nat.le_of_succ_le (le_depth_of_mem_flatAll hbelow)
    · exact le_depth_of_mem_flatAll hnext
termination_by ns

/-- What lies below the first of some siblings ends where the next entry is no deeper than them. -/
theorem takeWhile_flatAll (depth : Nat) (children ns : List Node) :
    (flatAll (depth + 1) children ++ flatAll depth ns).takeWhile (depth < ·.depth) =
      flatAll (depth + 1) children := by
  have hbelow : ∀ e ∈ flatAll (depth + 1) children, decide (depth < e.depth) = true :=
    fun e he => decide_eq_true (le_depth_of_mem_flatAll he)
  have hnext : (flatAll depth ns).takeWhile (depth < ·.depth) = [] := by
    match ns with
    | [] => rw [flatAll, List.takeWhile_nil]
    | ⟨kind, span, value, cs⟩ :: ns =>
      rw [flatAll_cons, List.takeWhile_cons_of_neg]
      simp
  rw [List.takeWhile_append_of_pos hbelow, hnext, List.append_nil]

theorem flatAll_injective {depth : Nat} {a b : List Node}
    (h : flatAll depth a = flatAll depth b) : a = b := by
  match a, b with
  | [], [] => rfl
  | [], ⟨kind, span, value, children⟩ :: ns =>
    rw [flatAll_cons, flatAll] at h
    cases h
  | ⟨kind, span, value, children⟩ :: ns, [] =>
    rw [flatAll_cons, flatAll] at h
    cases h
  | ⟨kind, span, value, cs⟩ :: ns, ⟨kind', span', value', cs'⟩ :: ns' =>
    rw [flatAll_cons, flatAll_cons, List.cons.injEq, FlatEntry.mk.injEq] at h
    obtain ⟨⟨-, rfl, rfl, rfl⟩, hrest⟩ := h
    -- depths alone tell where the children of the first node end in what is left
    have hbelow : flatAll (depth + 1) cs = flatAll (depth + 1) cs' := by
      rw [← takeWhile_flatAll depth cs ns, hrest, takeWhile_flatAll]
    have hnext : flatAll depth ns = flatAll depth ns' := by
      rw [hbelow] at hrest
      exact List.append_cancel_left hrest
    rw [flatAll_injective hbelow, flatAll_injective hnext]
termination_by a

/-- **A listing with depths determines its tree.** Where a tree of the list ends, the next one
begins with a node that lies no deeper than its root. -/
theorem flat_injective {a b : Node} (h : a.flat = b.flat) : a = b := by
  have hall : flatAll 0 [a] = flatAll 0 [b] := by
    rw [flatAll_singleton, flatAll_singleton]
    exact h
  exact List.singleton_inj.1 (flatAll_injective hall)

end Node

namespace Markdown

/-! ## Constructs in place

A construct that has no kind of its own leaves its children to the node around it. In the listing
this is to count, of the constructs around another one, those that are kept. -/

/-- A construct in a tree, and the constructs around it below the root, innermost first. -/
structure Occurrence where
  construct : Construct
  span : Option Span
  value : Option String
  above : List Construct

/-- How deep a node lies that is inside these constructs: those that are kept are above it, and so
is the document. -/
def depthBelow (above : List Construct) : Nat := 1 + above.countP fun c => c.kind?.isSome

/-- The entry of the listing that a construct becomes, if it is kept. Its depth counts the
constructs around it that are kept, as the others leave no node behind. -/
def Occurrence.entry? (o : Occurrence) : Option FlatEntry :=
  o.construct.kind?.map fun kind =>
    { depth := depthBelow o.above
      kind
      span := o.span.getD {}
      value := if o.construct.isLiteral then o.value else none }

namespace Tree

mutual

/-- The pre-order listing of a tree that lies inside some constructs. -/
def occurrences (above : List Construct) : Tree → List Occurrence
  | node construct span value children =>
    ⟨construct, span, value, above⟩ :: occurrencesAll (construct :: above) children

def occurrencesAll (above : List Construct) : List Tree → List Occurrence
  | [] => []
  | t :: ts => occurrences above t ++ occurrencesAll above ts

end

mutual

/-- What a tree becomes lists its kept constructs. By induction on the tree: a kept construct puts
one more node above those of its children, a dropped one leaves them at its own depth. -/
theorem flatAll_lower (above : List Construct) :
    ∀ t : Tree, Node.flatAll (depthBelow above) (lower t) =
      (occurrences above t).filterMap Occurrence.entry?
  | node construct span value children => by
    have hchildren := flatAll_lowerAll (construct :: above) children
    rw [lower, wrap, occurrences, List.filterMap_cons, Occurrence.entry?]
    cases hkind : construct.kind? with
    | none =>
      -- nothing is put above the children, and for them nothing more is counted
      have hdepth : depthBelow (construct :: above) = depthBelow above := by
        rw [depthBelow, List.countP_cons_of_neg (by rw [hkind]; decide), depthBelow]
      rw [hdepth] at hchildren
      exact hchildren
    | some kind =>
      have hdepth : depthBelow (construct :: above) = depthBelow above + 1 := by
        rw [depthBelow, List.countP_cons_of_pos (by rw [hkind]; rfl), depthBelow, Nat.add_assoc]
      rw [hdepth] at hchildren
      rw [Node.flatAll_singleton, Node.flatAt, hchildren]
      rfl

/-- What some trees become, one after the other, lists their kept constructs. By induction with the
trees themselves, one of which is put in front of the others at each step. -/
theorem flatAll_lowerAll (above : List Construct) :
    ∀ ts : List Tree, Node.flatAll (depthBelow above) (lowerAll ts) =
      (occurrencesAll above ts).filterMap Occurrence.entry?
  | [] => rfl
  | t :: ts => by
    rw [lowerAll, Node.flatAll_append, flatAll_lower above t, flatAll_lowerAll above ts,
      occurrencesAll, List.filterMap_append]

end

/-- A walk over the document tree meets the document and then the kept constructs, in order. -/
theorem map_preorder_document (source : List Char) (tree : Tree) :
    ((document source tree).preorder.map fun n => (n.kind, n.span, n.value)) =
      (.document, Document.extent source, none) ::
        ((occurrencesAll [] tree.children).filterMap Occurrence.entry?).map fun e =>
          (e.kind, e.span, e.value) := by
  rw [← flatAll_lowerAll, Node.map_flatAll, Node.preorder_eq, List.map_cons]
  rfl

/-- **The document tree keeps the constructs that have a kind, each in its place**: its listing is
an entry for the document and one for each kept construct below the root, in order, as deep as there
are kept constructs around it. No other tree has this listing. -/
theorem flat_document (source : List Char) (tree : Tree) :
    (document source tree).flat =
        ⟨0, .document, Document.extent source, none⟩ ::
          (occurrencesAll [] tree.children).filterMap Occurrence.entry? ∧
      ∀ n : Node, n.flat = (document source tree).flat → n = document source tree := by
  refine ⟨?_, fun n h => Node.flat_injective h⟩
  have hbelow : Node.flatAll 1 (lowerAll tree.children) = _ := flatAll_lowerAll [] tree.children
  rw [document, Node.parent, Node.flat, Node.flatAt, hbelow]

end Tree

end Markdown

end DocLint
