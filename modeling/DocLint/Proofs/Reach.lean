import DocLint.Proofs.Filtering
import DocLint.Proofs.Nesting

/-!
# How far a directive reaches

Ranges know bytes, directives mean nodes. On a well-formed tree the two agree: a directive drops the
diagnostics of the next visited node and of everything below it, and no others. Three facts carry
this.

* `NodeRule.offset_of_mem_checkNode` — a diagnostic lies inside the node it is raised for, and at
  the very start of it unless that node is text;
* `NextNodeFilter.drops_iff_nextVisited` — in bytes: some directive meant for the rule has a next
  node whose span holds the offset;
* `Node.WellFormed.holds_iff_mem_preorder` — the span of the next node after a leaf holds the offset
  of a diagnostic exactly if that diagnostic is raised for the node itself or below it.

The third one is where leaks would be. A container may start where the next node starts, but then it
starts before the directive does, and the directive lies inside it with at least one byte.
-/

namespace DocLint

/-! ## Where diagnostics lie -/

/-- A marker lies in the text it is found in, where the text before it ends. That text is gone
through one character at a time, and the position with it. -/
theorem TodoMarker.of_mem_scan {p q : Position} {before : Option Char} {cs rest : List Char}
    (h : (q, rest) ∈ scan p before cs) :
    ∃ gap, cs = gap ++ rest ∧ rest ≠ [] ∧ q = p.advance gap := by
  induction cs generalizing p before with
  | nil => simp [scan] at h
  | cons c cs ih =>
    have hlater : (q, rest) ∈ scan (p.next c) (some c) cs →
        ∃ gap, c :: cs = gap ++ rest ∧ rest ≠ [] ∧ q = p.advance gap := by
      intro hrest
      obtain ⟨gap, rfl, hne, rfl⟩ := ih hrest
      exact ⟨c :: gap, rfl, hne, rfl⟩
    simp only [scan] at h
    split at h
    · rcases List.mem_cons.1 h with he | hrest
      · obtain ⟨rfl, rfl⟩ := Prod.mk.inj he
        exact ⟨[], rfl, List.cons_ne_nil _ _, rfl⟩
      · exact hlater hrest
    · exact hlater h

theorem Text.byteSize_pos {cs : List Char} (h : cs ≠ []) : 0 < byteSize cs := by
  cases cs with
  | nil => exact absurd rfl h
  | cons c cs =>
    have hc : 0 < c.utf8Size := Char.utf8Size_pos c
    rw [byteSize_cons]
    omega

/-- The raw text of a node has the bytes of its span, unless it is empty. It is empty, too, if the
span does not fit the source. -/
theorem Node.byteSize_raw {node : Node} {source : List Char} (h : node.raw source ≠ []) :
    Text.byteSize (node.raw source) = node.span.stop.offset - node.span.start.offset := by
  rw [raw] at h ⊢
  cases hs : Text.slice? source node.span.start.offset node.span.stop.offset with
  | none =>
    rw [hs] at h
    exact absurd rfl h
  | some part => exact Text.byteSize_of_slice? hs

namespace NodeRule

/-- **A diagnostic lies inside the node it is raised for**, and at its start unless the node is
text. It carries the id of its rule. -/
theorem offset_of_mem_checkNode {r : NodeRule} {source : List Char} {node : Node} {d : Diagnostic}
    (hnode : node.span.start.offset < node.span.stop.offset) (hd : d ∈ r.checkNode source node) :
    d.rule = r.name ∧ ∃ offset, d.offset = some offset ∧
      node.span.start.offset ≤ offset ∧ offset < node.span.stop.offset ∧
      (node.kind = .str ∨ offset = node.span.start.offset) := by
  cases r with
  | todoMarkers =>
    simp only [checkNode] at hd
    split at hd
    · rename_i hstr
      obtain ⟨⟨q, rest⟩, hmem, rfl⟩ := List.mem_map.1 hd
      obtain ⟨gap, hraw, hne, rfl⟩ := TodoMarker.of_mem_scan hmem
      have hpos := Text.byteSize_pos hne
      have hrawne : node.raw source ≠ [] := by simp [hraw, hne]
      -- the marker is inside what the node covers, as bytes of it are left behind the gap
      have hsize := Node.byteSize_raw hrawne
      rw [hraw, Text.byteSize_append] at hsize
      refine ⟨rfl, _, rfl, ?_, ?_, .inl hstr⟩
      · rw [Position.offset_advance]
        omega
      · rw [Position.offset_advance]
        omega
    · cases hd
  | nodeKinds id kinds =>
    simp only [checkNode] at hd
    split at hd
    · obtain rfl := List.mem_singleton.1 hd
      exact ⟨rfl, _, rfl, Nat.le_refl _, hnode, .inr rfl⟩
    · cases hd

end NodeRule

/-! ## The next visited node

Directives are handed along the nodes that are visited, each to its neighbour in a list. In the
listing of the tree, neighbours have nothing but table cells in between. -/

/-- Of the nodes listed, `v` is the first one after `u` that is no table cell. Between the two there
may be any number of cells, which are passed over. -/
def NextVisited (nodes : List Node) (u v : Node) : Prop :=
  ∃ before between after, nodes = before ++ u :: (between ++ v :: after) ∧
    (∀ n ∈ between, n.kind = .tableCell) ∧ v.kind ≠ .tableCell

theorem NodeKind.role_eq_skipped_iff {k : NodeKind} : k.role = .skipped ↔ k = .tableCell := by
  cases k <;> simp [role]

/-- Two elements are neighbours if the list can be cut around them. Pairs of neighbours are what a
run hands directives along. -/
theorem mem_zip_tail_iff {α : Type} {l : List α} {u v : α} :
    (u, v) ∈ l.zip l.tail ↔ ∃ before after, l = before ++ u :: v :: after := by
  induction l with
  | nil => simp
  | cons x xs ih =>
    cases xs with
    | nil =>
      simp only [List.tail_cons, List.zip_nil_right, List.not_mem_nil, false_iff, not_exists]
      intro before after h
      have hlen := congrArg List.length h
      simp at hlen
      omega
    | cons y ys =>
      rw [List.tail_cons, List.zip_cons_cons, List.mem_cons, Prod.mk.injEq]
      rw [List.tail_cons] at ih
      rw [ih]
      constructor
      · rintro (⟨rfl, rfl⟩ | ⟨before, after, h⟩)
        · exact ⟨[], ys, rfl⟩
        · exact ⟨x :: before, after, by rw [h]; rfl⟩
      · rintro ⟨before, after, h⟩
        cases before with
        | nil =>
          obtain ⟨rfl, rfl, -⟩ : x = u ∧ y = v ∧ ys = after := by simpa using h
          exact .inl ⟨rfl, rfl⟩
        | cons b before =>
          obtain ⟨-, htail⟩ := List.cons.inj h
          exact .inr ⟨before, after, htail⟩

/-- Neighbours among the visited nodes are a node and the next visited one. -/
theorem mem_visited_pairs_iff {nodes : List Node} {u v : Node} :
    (u, v) ∈ (Suppressor.visited nodes).zip (Suppressor.visited nodes).tail ↔
      u.kind ≠ .tableCell ∧ NextVisited nodes u v := by
  rw [mem_zip_tail_iff]
  constructor
  · rintro ⟨before, after, h⟩
    obtain ⟨front, back, rfl, -, hback⟩ := List.filter_eq_append_iff.1 h
    obtain ⟨gap, back, rfl, -, hu, hrest⟩ := List.filter_eq_cons_iff.1 hback
    obtain ⟨between, after', rfl, hbetween, hv, -⟩ := List.filter_eq_cons_iff.1 hrest
    simp only [decide_not, Bool.not_eq_true', decide_eq_false_iff_not, Decidable.not_not,
      NodeKind.role_eq_skipped_iff] at hu hv hbetween
    exact ⟨hu, front ++ gap, between, after', by simp, hbetween, hv⟩
  · rintro ⟨hu, before, between, after, rfl, hbetween, hv⟩
    refine ⟨Suppressor.visited before, Suppressor.visited after, ?_⟩
    simpa [Suppressor.visited, NodeKind.role_eq_skipped_iff, hu, hv] using hbetween

/-! ## In bytes

A directive becomes ranges of bytes, and a diagnostic has an offset. Whether the one covers the
other is told by the span of the node that was marked. -/

namespace Directive

/-- Whether a directive is meant for a rule: it names that rule, or no rule at all. -/
def MeantFor (d : Directive) (rule : String) : Prop := d.ruleIds = [] ∨ rule ∈ d.ruleIds

instance (d : Directive) (rule : String) : Decidable (d.MeantFor rule) :=
  inferInstanceAs (Decidable (_ ∨ _))

/-- Some range that a directive asks for over a span covers an offset exactly if the directive is
meant for the rule and the span holds the offset. -/
theorem exists_marks_covers_iff {span : Span} {d : Option Directive} {rule : String}
    {offset : Nat} :
    (∃ r ∈ marks span d, r.covers rule offset = true) ↔
      ∃ dir, d = some dir ∧ dir.MeantFor rule ∧
        span.start.offset ≤ offset ∧ offset < span.stop.offset := by
  cases d with
  | none => simp [marks]
  | some dir =>
    simp only [marks, MeantFor, Option.some.injEq, exists_eq_left']
    by_cases hids : dir.ruleIds = []
    · simp [hids, IgnoreRange.covers, Scope.applies]
    · rw [if_neg hids]
      constructor
      · rintro ⟨r, hr, hcovers⟩
        obtain ⟨id, hid, rfl⟩ := List.mem_map.1 hr
        obtain ⟨⟨hstart, hstop⟩, rfl⟩ : (span.start.offset ≤ offset ∧ offset < span.stop.offset) ∧
            id = rule := by
          simpa [IgnoreRange.covers, Scope.applies] using hcovers
        exact ⟨.inr hid, hstart, hstop⟩
      · rintro ⟨hmeant, hstart, hstop⟩
        have hid : rule ∈ dir.ruleIds := hmeant.resolve_left hids
        exact ⟨_, List.mem_map_of_mem hid, by
          simp [IgnoreRange.covers, Scope.applies, hstart, hstop]⟩

end Directive

/-- Only comment nodes and raw markup hand on a directive. In every other node a directive would be
text that is shown. -/
theorem Node.kind_of_directive? {source : List Char} {keyword : String} {u : Node} {d : Directive}
    (h : u.directive? source keyword = some d) : u.kind = .html ∨ u.kind = .comment := by
  rw [directive?] at h
  split at h
  · rename_i hk
    exact .inr hk
  · rename_i hk
    exact .inl hk
  · cases h

/-- A filter marks what each directive asks for over the next visited node, and nothing else. -/
theorem NextNodeFilter.mem_ranges_iff {f : NextNodeFilter} {source : List Char} {document : Node}
    {r : IgnoreRange} :
    r ∈ f.ranges source document ↔
      ∃ u v dir, NextVisited document.preorder u v ∧
        u.directive? source f.keyword = some dir ∧ r ∈ Directive.marks v.span (some dir) := by
  have hranges : f.ranges source document =
      Suppressor.handedOn source f.keyword document.preorder := by
    simp [ranges, apply, Suppressor.run_fresh]
  rw [hranges]
  simp only [Suppressor.handedOn, List.mem_flatMap, Prod.exists]
  constructor
  · rintro ⟨u, v, huv, hr⟩
    cases hdir : u.directive? source f.keyword with
    | none => simp [hdir, Directive.marks] at hr
    | some dir => exact ⟨u, v, dir, (mem_visited_pairs_iff.1 huv).2, hdir, by rwa [hdir] at hr⟩
  · rintro ⟨u, v, dir, huv, hdir, hr⟩
    have hu : u.kind ≠ .tableCell := by
      rcases Node.kind_of_directive? hdir with hk | hk <;> simp [hk]
    exact ⟨u, v, mem_visited_pairs_iff.2 ⟨hu, huv⟩, by rwa [hdir]⟩

/-- **In bytes**: a filter drops a diagnostic exactly if some directive meant for its rule has a
next node whose span holds the offset. -/
theorem NextNodeFilter.drops_iff_nextVisited {f : NextNodeFilter} {source : List Char}
    {document : Node} {d : Diagnostic} {offset : Nat} (hd : d.offset = some offset) :
    IgnoreRange.drops (f.ranges source document) d = true ↔
      ∃ u v dir, NextVisited document.preorder u v ∧
        u.directive? source f.keyword = some dir ∧ dir.MeantFor d.rule ∧
        v.span.start.offset ≤ offset ∧ offset < v.span.stop.offset := by
  rw [IgnoreRange.drops, hd]
  simp only [IgnoreRange.anyCovers, List.any_eq_true, mem_ranges_iff]
  constructor
  · rintro ⟨r, ⟨u, v, dir, huv, hdir, hr⟩, hcovers⟩
    obtain ⟨_, hsame, hmeant, hstart, hstop⟩ :=
      Directive.exists_marks_covers_iff.1 ⟨r, hr, hcovers⟩
    obtain rfl := Option.some.inj hsame
    exact ⟨u, v, dir, huv, hdir, hmeant, hstart, hstop⟩
  · rintro ⟨u, v, dir, huv, hdir, hmeant, hstart, hstop⟩
    obtain ⟨r, hr, hcovers⟩ := Directive.exists_marks_covers_iff.2 ⟨dir, rfl, hmeant, hstart, hstop⟩
    exact ⟨r, ⟨u, v, dir, huv, hdir, hr⟩, hcovers⟩

/-! ## In nodes -/

/-- **The geometry of the next node**: let `v` be visited next after a leaf `u`. The span of `v`
holds an offset inside `w` exactly if `w` is `v` or lies below it, as long as that offset is the
start of `w` unless `w` is a leaf itself. -/
theorem Node.WellFormed.holds_iff_mem_preorder {root u v w : Node} (h : root.WellFormed)
    (huv : NextVisited root.preorder u v) (hu : u.children = []) (hw : w ∈ root.preorder)
    (hcell : w.kind ≠ .tableCell) {offset : Nat} (hstart : w.span.start.offset ≤ offset)
    (hstop : offset < w.span.stop.offset)
    (hleaf : w.children = [] ∨ offset = w.span.start.offset) :
    v.span.start.offset ≤ offset ∧ offset < v.span.stop.offset ↔ w ∈ v.preorder := by
  obtain ⟨before, between, after, heq, hbetween, -⟩ := huv
  have hv : v ∈ root.preorder := by simp [heq]
  constructor
  · rintro ⟨hvstart, hvstop⟩
    have hpairs := h.pairwise_preorder
    have hue := (h u (by simp [heq])).nonempty
    rw [heq, List.pairwise_append] at hpairs
    obtain ⟨-, hrest, hfront⟩ := hpairs
    obtain ⟨hafteru, hrest⟩ := List.pairwise_cons.1 hrest
    obtain ⟨-, hrest, -⟩ := List.pairwise_append.1 hrest
    obtain ⟨hafterv, -⟩ := List.pairwise_cons.1 hrest
    -- `u` is a leaf, so `v` starts where `u` has ended
    have huv : u.span.stop.offset ≤ v.span.start.offset := by
      rcases hafteru v (by simp) with hbelow | hbehind
      · simp [hu] at hbelow
      · exact hbehind
    rw [heq] at hw
    simp only [List.mem_append, List.mem_cons] at hw
    rcases hw with hbefore | rfl | hmid | rfl | hafter
    · -- an earlier node that reaches `v` is a container around `u` too, and starts before `u`
      have hwu := hfront w hbefore u (List.mem_cons_self ..)
      have hwv := hfront w hbefore v (by simp)
      have hwstart : w.span.start.offset ≤ u.span.start.offset := by
        rcases hwu with hbelow | hbehind
        · have hmem : u ∈ w.preorder := by
            rw [preorder_eq]
            exact List.mem_cons_of_mem _ hbelow
          exact ((h.of_mem (by simp [heq, hbefore])).inside hmem).1
        · omega
      rcases hwv with hbelow | hbehind
      · rcases hleaf with hno | hoffset
        · simp [hno] at hbelow
        · omega
      · omega
    · omega
    · exact absurd (hbetween w hmid) hcell
    · exact self_mem_preorder _
    · rcases hafterv w hafter with hbelow | hbehind
      · rw [preorder_eq]
        exact List.mem_cons_of_mem _ hbelow
      · omega
  · intro hmem
    obtain ⟨hvw, hwv⟩ := (h.of_mem hv).inside hmem
    omega

/-- **A directive reaches the whole next node and nothing else.** On a well-formed tree, a
diagnostic that a rule raises for a node other than a table cell is found, and it is dropped exactly
if some comment or raw markup holds a directive meant for that rule, and the next visited node is
the node of the diagnostic or lies above it. Nodes stand for places here: none is listed twice
(`Node.WellFormed.nodup_preorder`). -/
theorem Linter.dropped_iff_reached {document : Node} (hdoc : document.WellFormed)
    (rules : List NodeRule) (keyword : String) (source : List Char) {r : NodeRule} (hr : r ∈ rules)
    {w : Node} (hw : w ∈ document.preorder) (hcell : w.kind ≠ .tableCell) {d : Diagnostic}
    (hd : d ∈ r.checkNode source w) :
    d ∈ check ⟨rules.map NodeRule.toRule, [⟨keyword⟩]⟩ source document ∧
    (d ∉ (lint ⟨rules.map NodeRule.toRule, [⟨keyword⟩]⟩ source document).diagnostics ↔
      ∃ u v dir, NextVisited document.preorder u v ∧ (u.kind = .html ∨ u.kind = .comment) ∧
        u.directive? source keyword = some dir ∧ dir.MeantFor r.name ∧ w ∈ v.preorder) := by
  obtain ⟨hrule, offset, hoffset, hstart, hstop, hplace⟩ :=
    NodeRule.offset_of_mem_checkNode (hdoc w hw).nonempty hd
  have hfound : d ∈ check ⟨rules.map NodeRule.toRule, [⟨keyword⟩]⟩ source document := by
    rw [check, List.flatMap_map]
    exact List.mem_flatMap.2 ⟨r, hr, List.mem_flatMap.2 ⟨w, hw, hd⟩⟩
  have hleaf : w.children = [] ∨ offset = w.span.start.offset :=
    hplace.imp_left fun hstr => (hdoc w hw).leaf (.inl hstr)
  -- a range reaches the place of the diagnostic exactly if the node visited next holds the marked
  -- one
  have hreach {u v : Node} {dir : Directive} (huv : NextVisited document.preorder u v)
      (hdir : u.directive? source keyword = some dir) :
      v.span.start.offset ≤ offset ∧ offset < v.span.stop.offset ↔ w ∈ v.preorder := by
    have hmem : u ∈ document.preorder := by
      obtain ⟨before, between, after, heq, -⟩ := huv
      simp [heq]
    have hu : u.children = [] := (hdoc u hmem).leaf (.inr (Node.kind_of_directive? hdir))
    exact hdoc.holds_iff_mem_preorder huv hu hw hcell hstart hstop hleaf
  refine ⟨hfound, ?_⟩
  have hdrops : d ∉ (lint ⟨rules.map NodeRule.toRule, [⟨keyword⟩]⟩ source document).diagnostics ↔
      IgnoreRange.drops (NextNodeFilter.ranges ⟨keyword⟩ source document) d = true := by
    rw [lint, sift_diagnostics, ranges_eq]
    simp [hfound]
  rw [hdrops, NextNodeFilter.drops_iff_nextVisited hoffset, hrule]
  constructor
  · rintro ⟨u, v, dir, huv, hdir, hmeant, hholds⟩
    exact ⟨u, v, dir, huv, Node.kind_of_directive? hdir, hdir, hmeant, (hreach huv hdir).1 hholds⟩
  · rintro ⟨u, v, dir, huv, -, hdir, hmeant, hmem⟩
    exact ⟨u, v, dir, huv, hdir, hmeant, (hreach huv hdir).2 hmem⟩

namespace Linter

/-- A comment that names the rule `a`. -/
def sampleComment : Node := .leaf .comment ⟨⟨1, 1, 0⟩, ⟨1, 4, 3⟩⟩ "k a"

/-- The text after it. -/
def sampleText : Node := .leaf .str ⟨⟨1, 4, 3⟩, ⟨1, 9, 8⟩⟩ "text!"

/-- The text as a paragraph. -/
def sampleParagraph : Node := .parent .paragraph ⟨⟨1, 4, 3⟩, ⟨1, 9, 8⟩⟩ [sampleText]

/-- The comment, and the paragraph after it. -/
def sampleDocument : Node :=
  .parent .document ⟨⟨1, 1, 0⟩, ⟨1, 9, 8⟩⟩ [sampleComment, sampleParagraph]

/-- What the rule `a` says of the text. -/
def sampleDiagnostic : Diagnostic :=
  { rule := "a", category := "debug", message := "found Str node", severity := .error,
    line := some 1, column := some 4, offset := some 3 }

/-- The paragraph is next, so the diagnostic of the text below it is dropped. The text is not next
itself, but lies inside what is. -/
theorem sampleDiagnostic_dropped :
    sampleDocument.WellFormed ∧ sampleText ∈ sampleDocument.preorder ∧
    sampleText.kind ≠ .tableCell ∧
    sampleDiagnostic ∈ (NodeRule.nodeKinds "a" [.str]).checkNode [] sampleText ∧
    sampleDiagnostic ∉
      (lint ⟨[NodeRule.nodeKinds "a" [.str]].map NodeRule.toRule, [⟨"k"⟩]⟩ []
        sampleDocument).diagnostics := by
  have hdoc : sampleDocument.WellFormed := by decide
  have hlist : sampleDocument.preorder =
      [sampleDocument, sampleComment, sampleParagraph, sampleText] := rfl
  have hw : sampleText ∈ sampleDocument.preorder := by simp [hlist]
  have hcell : sampleText.kind ≠ .tableCell := by decide
  have hd : sampleDiagnostic ∈ (NodeRule.nodeKinds "a" [.str]).checkNode [] sampleText := by decide
  refine ⟨hdoc, hw, hcell, hd, ?_⟩
  refine (dropped_iff_reached hdoc [.nodeKinds "a" [.str]] "k" [] (List.mem_singleton_self _) hw
    hcell hd).2.2 ⟨sampleComment, sampleParagraph, ⟨["a"]⟩, ?_, .inr rfl, by decide, by decide, ?_⟩
  · exact ⟨[sampleDocument], [], [sampleText], hlist, by simp, by decide⟩
  · rw [show sampleParagraph.preorder = [sampleParagraph, sampleText] from rfl]
    simp

end Linter

end DocLint
