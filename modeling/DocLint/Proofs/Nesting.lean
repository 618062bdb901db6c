import DocLint.Tree.Basic

/-!
# Trees whose spans nest

In a well-formed tree spans nest as the nodes do: a child lies inside its parent, and siblings
follow each other without overlap. The pre-order listing then has a simple geometry: of two nodes of
it, the later one lies below the earlier one and inside its span, or it starts where the earlier one
ends or further on.

* `Node.WellFormed` — every node of the tree is framed;
* `WellFormed.inside` — what lies below a node lies inside its span;
* `WellFormed.pairwise_preorder` — below or behind, for any two nodes of the listing;
* `WellFormed.nodup_preorder` — so no node is listed twice, and a node stands for its place.
-/

namespace DocLint

namespace Node

/-! ## Listings -/

/-- Induction over trees: a node may be assumed right as soon as its children are. So nothing has to
be said of lists of children on the side. -/
@[elab_as_elim] theorem induct {motive : Node → Prop}
    (step : ∀ n : Node, (∀ c ∈ n.children, motive c) → motive n) (n : Node) : motive n :=
  step n fun c _hc => induct step c
termination_by sizeOf n
decreasing_by
  have h := List.sizeOf_lt_of_mem _hc
  cases n
  simp only [Node.mk.sizeOf_spec] at h ⊢
  omega

theorem preorderAll_eq_flatMap (ns : List Node) : preorderAll ns = ns.flatMap preorder := by
  induction ns with
  | nil => simp
  | cons n ns ih => simp [ih]

theorem self_mem_preorder (n : Node) : n ∈ n.preorder := by
  rw [preorder_eq]
  exact List.mem_cons_self ..

/-- Below a node lie the listings of its children. Membership is all that most proofs need to know
of a listing. -/
theorem mem_preorder_iff {m n : Node} :
    m ∈ n.preorder ↔ m = n ∨ ∃ c ∈ n.children, m ∈ c.preorder := by
  rw [preorder_eq, List.mem_cons, preorderAll_eq_flatMap, List.mem_flatMap]

/-- What is listed below a node is listed below every node above that one. By induction on the node
at the top, of which only the child in between matters. -/
theorem mem_preorder_trans {a b c : Node} (hab : a ∈ b.preorder) (hbc : b ∈ c.preorder) :
    a ∈ c.preorder := by
  induction c using induct with
  | step c ih =>
    rcases mem_preorder_iff.1 hbc with rfl | ⟨d, hd, hbd⟩
    · exact hab
    · exact mem_preorder_iff.2 (.inr ⟨d, hd, ih d hd hbd⟩)

theorem sizeOf_le_of_mem_preorder {m n : Node} (h : m ∈ n.preorder) : sizeOf m ≤ sizeOf n := by
  induction n using induct with
  | step n ih =>
    rcases mem_preorder_iff.1 h with rfl | ⟨c, hc, hm⟩
    · exact Nat.le_refl _
    · have hle := ih c hc hm
      have hlt := List.sizeOf_lt_of_mem hc
      cases n
      simp only [Node.mk.sizeOf_spec] at hlt ⊢
      omega

/-- No node lies below itself, as it would be smaller than itself. -/
theorem not_mem_preorderAll_children (n : Node) : n ∉ preorderAll n.children := by
  intro h
  rw [preorderAll_eq_flatMap] at h
  obtain ⟨c, hc, hn⟩ := List.mem_flatMap.1 h
  have hle := sizeOf_le_of_mem_preorder hn
  have hlt := List.sizeOf_lt_of_mem hc
  cases n
  simp only [Node.mk.sizeOf_spec] at hle hlt
  omega

/-! ## Well-formed trees

What is asked of a node is about itself and its children. By induction over the tree it comes to any
two nodes of the listing: the later one lies below the other, or behind it. -/

/-- A node is framed if its span is not empty, its children lie inside it, follow each other without
overlap, and are missing if it stands for text, raw markup or a comment. -/
structure Framed (n : Node) : Prop where
  /-- the span is not empty -/
  nonempty : n.span.start.offset < n.span.stop.offset
  /-- children lie inside -/
  inside : ∀ c ∈ n.children,
    n.span.start.offset ≤ c.span.start.offset ∧ c.span.stop.offset ≤ n.span.stop.offset
  /-- children are in order and do not overlap -/
  inOrder : n.children.Pairwise fun a b => a.span.stop.offset ≤ b.span.start.offset
  /-- what stands for text, raw markup or a comment has no children -/
  leaf : n.kind = .str ∨ n.kind = .html ∨ n.kind = .comment → n.children = []

theorem framed_iff {n : Node} : n.Framed ↔
    n.span.start.offset < n.span.stop.offset ∧
    (∀ c ∈ n.children,
      n.span.start.offset ≤ c.span.start.offset ∧ c.span.stop.offset ≤ n.span.stop.offset) ∧
    (n.children.Pairwise fun a b => a.span.stop.offset ≤ b.span.start.offset) ∧
    (n.kind = .str ∨ n.kind = .html ∨ n.kind = .comment → n.children = []) :=
  ⟨fun h => ⟨h.nonempty, h.inside, h.inOrder, h.leaf⟩, fun h => ⟨h.1, h.2.1, h.2.2.1, h.2.2.2⟩⟩

instance (n : Node) : Decidable n.Framed := decidable_of_iff _ framed_iff.symm

/-- A tree is well formed if each of its nodes is framed. Nothing more is asked of the trees that
suppression is said to be exact for. -/
def WellFormed (root : Node) : Prop := ∀ n ∈ root.preorder, n.Framed

instance (root : Node) : Decidable root.WellFormed :=
  inferInstanceAs (Decidable (∀ n ∈ root.preorder, n.Framed))

namespace WellFormed

theorem framed {root : Node} (h : root.WellFormed) : root.Framed := h root (self_mem_preorder root)

/-- Every part of a well-formed tree is well formed, since its listing is a part of the listing of
the tree. -/
theorem of_mem {root n : Node} (h : root.WellFormed) (hn : n ∈ root.preorder) : n.WellFormed :=
  fun m hm => h m (mem_preorder_trans hm hn)

theorem child {root c : Node} (h : root.WellFormed) (hc : c ∈ root.children) : c.WellFormed :=
  h.of_mem (mem_preorder_iff.2 (.inr ⟨c, hc, self_mem_preorder c⟩))

/-- What lies below a node lies inside its span: each child does, and what lies below a child lies
inside the span of the child. -/
theorem inside {n m : Node} (h : n.WellFormed) (hm : m ∈ n.preorder) :
    n.span.start.offset ≤ m.span.start.offset ∧ m.span.stop.offset ≤ n.span.stop.offset := by
  induction n using induct with
  | step n ih =>
    rcases mem_preorder_iff.1 hm with rfl | ⟨c, hc, hmc⟩
    · exact ⟨Nat.le_refl _, Nat.le_refl _⟩
    · obtain ⟨hstart, hstop⟩ := h.framed.inside c hc
      obtain ⟨hcs, hct⟩ := ih c hc (h.child hc) hmc
      exact ⟨Nat.le_trans hstart hcs, Nat.le_trans hct hstop⟩

/-- **Below or behind**: of two nodes of the listing, the later one lies below the earlier one, or
does not start before that one has ended. -/
theorem pairwise_preorder {root : Node} (h : root.WellFormed) :
    root.preorder.Pairwise fun a b =>
      b ∈ preorderAll a.children ∨ a.span.stop.offset ≤ b.span.start.offset := by
  induction root using induct with
  | step n ih =>
    rw [preorder_eq]
    refine List.pairwise_cons.2 ⟨fun b hb => .inl hb, ?_⟩
    rw [preorderAll_eq_flatMap, List.pairwise_flatMap]
    refine ⟨fun c hc => ih c hc (h.child hc), ?_⟩
    -- nodes of different children: the spans between them keep them apart
    refine h.framed.inOrder.imp_of_mem fun hc hd hcd a ha b hb => .inr ?_
    have hstop := ((h.child hc).inside ha).2
    have hstart := ((h.child hd).inside hb).1
    omega

/-- No node is listed twice: of two nodes in the listing, one lies below the other or their spans
are apart and not empty. -/
theorem nodup_preorder {root : Node} (h : root.WellFormed) : root.preorder.Nodup := by
  refine h.pairwise_preorder.imp_of_mem fun ha _ hab => ?_
  rintro rfl
  rcases hab with hbelow | hbehind
  · exact not_mem_preorderAll_children _ hbelow
  · have hne := (h _ ha).nonempty
    omega

end WellFormed

end Node

end DocLint
