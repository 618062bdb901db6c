import DocLint.Proofs.Nesting
import DocLint.Proofs.PlainText.Runs

/-!
# The tree of a plain text

What the tree says about the source, without a word about how it was read: `IsOutline` compares the
listing of a tree with the lines of a source, and `parse_isOutline` says that every source gets such
a tree. The proof takes the runs of `exists_runs` and reads each part off them.

* `texts_document`, `paragraphs_document` — the texts are the lines of the runs, the paragraphs the
  runs;
* `tiled_children` — lines that follow each other tile their paragraph;
* `IsRuns.isChain_flatten` — lines share a run exactly if they are neighbours in the source;
* `IsRuns.exists_of_visible` — no visible character is left out of the runs.
-/

namespace DocLint.Document.Plain

/-! ## What a tree of a plain text should be

All of this is told by the lines of the source and by the listing of the tree. That there are runs,
and how they are found, is no part of it. -/

/-- The nodes of a document that stand for text, in document order. In a plain text there is one for
each line that is not blank. -/
def texts (document : Node) : List Node := document.preorder.filter fun n => n.kind = .str

/-- The paragraphs of a document, in document order. They are its children, but that is not assumed
here. -/
def paragraphs (document : Node) : List Node :=
  document.preorder.filter fun n => n.kind = .paragraph

/-- What is left of a text without its blanks: all that must not get lost when blank lines and line
ends are cut off. -/
def visible (cs : List Char) : List Char := cs.filter fun c => !Text.isBlank c

/-- The contents of the lines with something to see, each with the number of its line. -/
def visibleLines (source : List Char) : List (List Char × Nat) :=
  (((lines source).map content).zipIdx 1).filter fun (text, _) => text.any fun c => !Text.isBlank c

/-- Two nodes are children of one paragraph, which is what blank lines decide. -/
def SameParagraph (document a b : Node) : Prop :=
  ∃ p ∈ paragraphs document, a ∈ p.children ∧ b ∈ p.children

/-- Texts with a break between any two of them, which leaves no gap and covers carriage returns and
one line feed. There is at least one text. -/
inductive Tiled (source : List Char) : List Node → Prop
  | one {a : Node} (ha : a.kind = .str) : Tiled source [a]
  | more {a b c : Node} {rest : List Node} (ha : a.kind = .str) (hb : b.kind = .lineBreak)
      (hstart : b.span.start = a.span.stop) (hstop : b.span.stop = c.span.start)
      (hraw : ∃ k, b.raw source = List.replicate k '\r' ++ ['\n'])
      (hrest : Tiled source (c :: rest)) : Tiled source (a :: b :: c :: rest)

/-- The tree of a plain text, as the lines of its source prescribe it. -/
structure IsOutline (source : List Char) (document : Node) : Prop where
  /-- the texts cover the contents of the visible lines, one to one and in order -/
  texts : (texts document).map (fun n => (n.raw source, n.span.start.line)) = visibleLines source
  /-- the value of a text is what it covers -/
  value : ∀ n ∈ Plain.texts document, n.value = some (String.ofList (n.raw source))
  /-- a text and the next one share a paragraph exactly if their lines are neighbours -/
  sameParagraph : (Plain.texts document).IsChain fun a b =>
    SameParagraph document a b ↔ b.span.start.line = a.span.start.line + 1
  /-- each paragraph is tiled by texts and breaks -/
  tiled : ∀ p ∈ paragraphs document, Tiled source p.children
  /-- every visible character of the source lies in a paragraph -/
  inside : ∀ before c after, source = before ++ c :: after → Text.isBlank c = false →
    ∃ p ∈ paragraphs document, p.span.start.offset ≤ Text.byteSize before ∧
      Text.byteSize before + c.utf8Size ≤ p.span.stop.offset
  /-- together the texts have the visible characters of the source, each once -/
  visible : visible ((Plain.texts document).flatMap (Node.raw · source)) = visible source

/-! ## Paragraphs and their children -/

theorem preorder_leaf (kind : NodeKind) (span : Span) (value : String) :
    (Node.leaf kind span value).preorder = [Node.leaf kind span value] := by
  rw [Node.preorder_eq]
  rfl

/-- The children of a paragraph have no children, so that they are listed as they are. -/
theorem preorderAll_children (ls : List Line) : Node.preorderAll (children ls) = children ls := by
  fun_induction children ls with
  | case1 => exact Node.preorderAll_nil
  | case2 l => rw [Node.preorderAll_cons, Node.preorderAll_nil, Line.node, preorder_leaf]; rfl
  | case3 l m ls ih =>
    rw [Node.preorderAll_cons, Node.preorderAll_cons, ih, Line.node, breakBetween, preorder_leaf,
      preorder_leaf]
    rfl

theorem preorder_paragraph (ls : List Line) :
    (paragraph ls).preorder = paragraph ls :: children ls := by
  rw [Node.preorder_eq, paragraph, Node.parent, preorderAll_children]

/-- The texts among the children are the lines. What stands between two of them is a break. -/
theorem filter_str_children (ls : List Line) :
    (children ls).filter (fun n => n.kind = .str) = ls.map Line.node := by
  fun_induction children ls with
  | case1 => rfl
  | case2 l => rfl
  | case3 l m ls ih =>
    have hl : l.node.kind = .str := rfl
    have hb : (breakBetween l m).kind = .lineBreak := rfl
    simp [hl, hb, ih]

/-- No child of a paragraph is a paragraph. -/
theorem filter_paragraph_children (ls : List Line) :
    (children ls).filter (fun n => n.kind = .paragraph) = [] := by
  fun_induction children ls with
  | case1 => rfl
  | case2 l => rfl
  | case3 l m ls ih =>
    have hl : l.node.kind = .str := rfl
    have hb : (breakBetween l m).kind = .lineBreak := rfl
    simp [hl, hb, ih]

theorem Line.node_injective : Function.Injective Line.node := by
  intro l m h
  obtain ⟨start, text⟩ := l
  obtain ⟨start', text'⟩ := m
  simp only [node, Node.leaf, Node.mk.injEq, Span.mk.injEq, Option.some.injEq] at h
  obtain ⟨-, ⟨rfl, -⟩, htext, -⟩ := h
  rw [String.ofList_injective htext]

theorem node_mem_children_iff {l : Line} {ls : List Line} : l.node ∈ children ls ↔ l ∈ ls := by
  rw [← List.mem_map_of_injective Line.node_injective, ← filter_str_children, List.mem_filter]
  exact ⟨fun h => ⟨h, rfl⟩, And.left⟩

/-- Lines that follow each other tile their paragraph: between two of them there is one break, and
what it covers is their line ending. -/
theorem tiled_children {source : List Char} {ls : List Line} (hne : ls ≠ [])
    (h : ls.IsChain (Follows source)) : Tiled source (children ls) := by
  fun_induction children ls with
  | case1 => exact absurd rfl hne
  | case2 l => exact .one rfl
  | case3 l m ls ih =>
    obtain ⟨hfollows, hchain⟩ := List.isChain_cons_cons.1 h
    obtain ⟨k, hk⟩ := hfollows.between
    have hraw : (breakBetween l m).raw source = List.replicate k '\r' ++ ['\n'] := by
      rw [Node.raw, breakBetween, Node.leaf, hk]
      rfl
    have hrest := ih (List.cons_ne_nil _ _) hchain
    -- the children of the later lines start with the next line, whichever comes after it
    cases ls with
    | nil => exact .more rfl rfl rfl rfl ⟨k, hraw⟩ hrest
    | cons n ls => exact .more rfl rfl rfl rfl ⟨k, hraw⟩ hrest

/-! ## Places -/

theorem Line.start_le_stop (l : Line) : l.start.offset ≤ l.stop.offset := by
  rw [offset_stop]
  exact Nat.le_add_right _ _

/-- A line ends before any later line starts, not only before the next one. -/
theorem pairwise_offset {source : List Char} {ls : List Line} (h : ls.IsChain (Follows source)) :
    ls.Pairwise fun l m => l.stop.offset < m.start.offset := by
  have htrans : IsTrans Line fun l m => l.stop.offset < m.start.offset :=
    ⟨fun _ m _ hl hm => by
      have hle := m.start_le_stop
      omega⟩
  exact List.isChain_iff_pairwise.1 (h.imp fun _ _ hlm => hlm.offset)

/-- The span of a paragraph covers each of its lines, as it goes from the first of them to the
last. -/
theorem paragraph_covers {source : List Char} {ls : List Line} (h : ls.IsChain (Follows source))
    {l : Line} (hl : l ∈ ls) :
    (paragraph ls).span.start.offset ≤ l.start.offset ∧
      l.stop.offset ≤ (paragraph ls).span.stop.offset := by
  have hpairwise := pairwise_offset h
  constructor
  · cases ls with
    | nil => cases hl
    | cons first ls =>
      change first.start.offset ≤ l.start.offset
      rcases List.mem_cons.1 hl with rfl | hl
      · exact Nat.le_refl _
      · have hlt := (List.pairwise_cons.1 hpairwise).1 l hl
        have hle := first.start_le_stop
        omega
  · obtain rfl | ⟨front, last, rfl⟩ := List.eq_nil_or_concat' ls
    · cases hl
    · have hstop : (paragraph (front ++ [last])).span.stop = last.stop := by
        simp [paragraph, Node.parent]
      rw [hstop]
      rcases List.mem_append.1 hl with hl | hl
      · have hlt := (List.pairwise_append.1 hpairwise).2.2 l hl last (List.mem_singleton_self _)
        have hle := last.start_le_stop
        omega
      · rw [List.mem_singleton.1 hl]

theorem isChain_sourceLines (source : List Char) :
    (sourceLines source).IsChain (Follows source) := by
  have hsource : source = [] ++ (lines source).flatten := (flatten_lines source).symm
  exact isChain_layOut hsource rfl (isChain_lines source)

/-- A line of the source covers its content: the bytes between its places are those, and no
others. -/
theorem raw_node {source : List Char} {l : Line} (hl : l ∈ sourceLines source) :
    l.node.raw source = l.content := by
  have hsource : source = [] ++ (lines source).flatten := (flatten_lines source).symm
  have hslice := slice?_of_mem_layOut hsource rfl hl
  rw [Node.raw, Line.node, Node.leaf, hslice]
  rfl

/-! ## What can be seen

Line ends are cut off, and blank lines are in no paragraph. What is visible is left by both, so that
the two sides are compared with all else left out. -/

theorem visible_append (a b : List Char) : visible (a ++ b) = visible a ++ visible b :=
  List.filter_append ..

theorem visible_eq_nil {cs : List Char} (h : ∀ c ∈ cs, Text.isBlank c = true) : visible cs = [] :=
  List.filter_eq_nil_iff.2 fun c hc => by simp [h c hc]

theorem not_isBlank_eq_any (l : Line) :
    (!l.isBlank) = l.content.any fun c => !Text.isBlank c := by
  rw [Bool.eq_iff_iff]
  cases h : l.isBlank with
  | true => simpa using Line.isBlank_iff.1 h
  | false =>
    have hnot := mt Line.isBlank_iff.2 (ne_true_of_eq_false h)
    simpa using hnot

/-- What ends a line cannot be seen, so that cutting it off leaves what is visible. -/
theorem visible_content (line : List Char) : visible (content line) = visible line := by
  obtain ⟨rest, heq, hrest⟩ := exists_rest line
  conv_rhs => rw [heq, visible_append, visible_eq_nil hrest, List.append_nil]

/-- Blank lines can be left out, and what is visible stays. -/
theorem visible_flatMap_filter (ls : List Line) :
    visible ((ls.filter fun l => !l.isBlank).flatMap Line.content) =
      visible (ls.flatMap Line.content) := by
  induction ls with
  | nil => rfl
  | cons l ls ih =>
    rw [List.flatMap_cons, visible_append, ← ih]
    cases hl : l.isBlank with
    | true =>
      rw [List.filter_cons_of_neg (by simp [hl]), visible_eq_nil (Line.isBlank_iff.1 hl)]
      rfl
    | false =>
      rw [List.filter_cons_of_pos (by simp [hl]), List.flatMap_cons, visible_append]

/-- What is visible in a text is visible in the contents of its lines. Where they are laid out makes
no difference to it. -/
theorem visible_layOut (start : Position) (ls : List (List Char)) :
    visible ((layOut start ls).flatMap Line.content) = visible ls.flatten := by
  induction ls generalizing start with
  | nil => rfl
  | cons line ls ih =>
    rw [layOut, List.flatMap_cons, List.flatten_cons, visible_append, visible_append, ih,
      visible_content]

/-! ## Runs -/

variable {source : List Char} {runs : List (List Line)} (span : Span)

/-- The lines of a run follow each other, since a run is a stretch of the lines of the source. -/
theorem IsRuns.isChain (h : IsRuns (sourceLines source) runs) {p : List Line} (hp : p ∈ runs) :
    p.IsChain (Follows source) := by
  obtain ⟨front, back, heq⟩ := (h.part p hp).2
  have hchain := isChain_sourceLines source
  rw [← heq] at hchain
  exact hchain.left_of_append.right_of_append

/-- Of two lines in the order of the runs, the second is in the run of the first exactly if it is
the very next line of the source. -/
theorem IsRuns.isChain_flatten (h : IsRuns (sourceLines source) runs) :
    runs.flatten.IsChain fun l m =>
      (∃ p ∈ runs, l ∈ p ∧ m ∈ p) ↔ m.start.line = l.start.line + 1 := by
  refine (List.isChain_flatten fun hnil => (h.part [] hnil).1 rfl).2 ⟨fun p hp => ?_, ?_⟩
  · -- within a run both sides hold
    refine (h.isChain hp).imp_of_mem_imp fun l m hl hm hlm => ?_
    exact ⟨fun _ => hlm.line, fun _ => ⟨p, hp, hl, hm⟩⟩
  · -- from a run to the next neither holds
    refine h.apart.isChain.imp_of_mem_imp fun p q hp hq hpq l hl m hm => ?_
    have hlp : l ∈ p := List.mem_of_getLast? hl
    have hmq : m ∈ q := List.mem_of_head? hm
    have hlt := hpq l hlp m hmq
    constructor
    · rintro ⟨r, hr, hlr, hmr⟩
      obtain rfl := h.eq_of_mem hp hr hlp hlr
      obtain rfl := h.eq_of_mem hq hr hmq hmr
      have hself := hpq l hlp l hlp
      omega
    · intro heq
      omega

/-! ## The document -/

theorem preorder_document :
    (Node.parent .document span (runs.map paragraph)).preorder =
      Node.parent .document span (runs.map paragraph) ::
        runs.flatMap fun p => paragraph p :: children p := by
  rw [Node.preorder_eq, Node.preorderAll_eq_flatMap, Node.parent, List.flatMap_map]
  simp only [preorder_paragraph]

/-- The texts are the lines of the runs. Nothing else in the document stands for text. -/
theorem texts_document :
    texts (Node.parent .document span (runs.map paragraph)) = runs.flatten.map Line.node := by
  have hparagraph (p : List Line) : (paragraph p).kind = .paragraph := rfl
  rw [texts, preorder_document, List.filter_cons_of_neg (by simp [Node.parent]),
    List.filter_flatMap, List.map_flatten, ← List.flatMap_def]
  simp [hparagraph, filter_str_children]

/-- The paragraphs are the runs, in their order and with nothing in between. -/
theorem paragraphs_document :
    paragraphs (Node.parent .document span (runs.map paragraph)) = runs.map paragraph := by
  have hparagraph (p : List Line) : (paragraph p).kind = .paragraph := rfl
  rw [paragraphs, preorder_document, List.filter_cons_of_neg (by simp [Node.parent]),
    List.filter_flatMap, List.map_eq_flatMap]
  simp [hparagraph, filter_paragraph_children]

/-- Two lines share a paragraph exactly if they share a run. No line is in two runs, so that there
is no other paragraph it could be in. -/
theorem sameParagraph_document_iff {l m : Line} :
    SameParagraph (Node.parent .document span (runs.map paragraph)) l.node m.node ↔
      ∃ p ∈ runs, l ∈ p ∧ m ∈ p := by
  rw [SameParagraph, paragraphs_document]
  simp [paragraph, Node.parent, node_mem_children_iff]

/-- The visible lines of the source are those of the runs, as a run has no blank line and no other
line is left out. -/
theorem IsRuns.map_flatten (h : IsRuns (sourceLines source) runs) :
    runs.flatten.map (fun l => (l.content, l.start.line)) = visibleLines source := by
  have hlines : (sourceLines source).map (fun l => (l.content, l.start.line)) =
      ((lines source).map content).zipIdx 1 := map_layOut Position.origin (lines source)
  rw [h.flatten, visibleLines, ← hlines, List.filter_map]
  simp only [not_isBlank_eq_any]
  rfl

/-- Every visible character lies in a line of some run, for the line it is in cannot be blank. -/
theorem IsRuns.exists_of_visible (h : IsRuns (sourceLines source) runs) {before after : List Char}
    {c : Char} (hsource : source = before ++ c :: after) (hc : Text.isBlank c = false) :
    ∃ p ∈ runs, ∃ l ∈ p, l.start.offset ≤ Text.byteSize before ∧
      Text.byteSize before + c.utf8Size ≤ l.stop.offset := by
  have hline : ∃ l ∈ sourceLines source, c ∈ l.content ∧
      l.start.offset ≤ 0 + Text.byteSize before ∧
      0 + Text.byteSize before + c.utf8Size ≤ l.stop.offset :=
    exists_line_of_visible ((flatten_lines source).trans hsource) hc
  rw [Nat.zero_add] at hline
  obtain ⟨l, hl, hmem, hstart, hstop⟩ := hline
  have hvisible : l.isBlank = false :=
    Bool.eq_false_iff.2 fun hblank => by simp [Line.isBlank_iff.1 hblank c hmem] at hc
  have hrun : l ∈ runs.flatten := by
    rw [h.flatten, List.mem_filter, hvisible]
    exact ⟨hl, rfl⟩
  obtain ⟨p, hp, hlp⟩ := List.mem_flatten.1 hrun
  exact ⟨p, hp, l, hlp, hstart, hstop⟩

/-- **Every source gets the tree its lines prescribe**: a paragraph for each run of visible lines,
and in it a text for each line and a break between two of them. -/
theorem parse_isOutline (source : List Char) : IsOutline source (parse source) := by
  obtain ⟨runs, h, hparse⟩ := exists_runs source
  have htexts : texts (parse source) = runs.flatten.map Line.node := by
    rw [hparse, texts_document]
  have hparagraphs : paragraphs (parse source) = runs.map paragraph := by
    rw [hparse, paragraphs_document]
  have hsub : runs.flatten ⊆ sourceLines source := by
    rw [h.flatten]
    exact List.filter_subset_self _
  -- every field speaks of texts or paragraphs, so each is a fact about the runs
  refine ⟨?_, fun n hn => ?_, ?_, fun p hp => ?_, fun before c after hsource hc => ?_, ?_⟩
  · rw [htexts, List.map_map, ← h.map_flatten]
    refine List.map_congr_left fun l hl => ?_
    exact Prod.ext (raw_node (hsub hl)) rfl
  · rw [htexts] at hn
    obtain ⟨l, hl, rfl⟩ := List.mem_map.1 hn
    rw [raw_node (hsub hl)]
    rfl
  · rw [htexts, List.isChain_map]
    refine h.isChain_flatten.imp fun l m hlm => ?_
    rw [hparse, sameParagraph_document_iff]
    exact hlm
  · rw [hparagraphs] at hp
    obtain ⟨run, hrun, rfl⟩ := List.mem_map.1 hp
    exact tiled_children (h.part run hrun).1 (h.isChain hrun)
  · obtain ⟨p, hp, l, hl, hstart, hstop⟩ := h.exists_of_visible hsource hc
    obtain ⟨hfirst, hlast⟩ := paragraph_covers (h.isChain hp) hl
    refine ⟨paragraph p, ?_, Nat.le_trans hfirst hstart, Nat.le_trans hstop hlast⟩
    rw [hparagraphs]
    exact List.mem_map_of_mem hp
  · have hraw : (texts (parse source)).flatMap (Node.raw · source) =
        ((sourceLines source).filter fun l => !l.isBlank).flatMap Line.content := by
      rw [htexts, ← h.flatten, List.flatMap_def, List.flatMap_def, List.map_map]
      exact congrArg List.flatten (List.map_congr_left fun l hl => raw_node (hsub hl))
    rw [hraw, visible_flatMap_filter, sourceLines, visible_layOut, flatten_lines]

example : (parse "a\r\r\nb\n \nc".toList).preorder.map (fun n => (n.kind, n.span.start.line)) =
    [(.document, 1), (.paragraph, 1), (.str, 1), (.lineBreak, 1), (.str, 2), (.paragraph, 4),
      (.str, 4)] := by decide +kernel

end DocLint.Document.Plain
