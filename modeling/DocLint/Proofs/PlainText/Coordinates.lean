import DocLint.Proofs.Places
import DocLint.Proofs.PlainText.Outline

/-!
# Where the nodes of a plain text lie

The reader numbers lines as it meets them, columns by the content of each line, and bytes by a
running total; the document ends where its extent says. `IsMapped` compares the spans that come out
with places counted in the source, and `parse_isMapped` says that they agree for every source.

* `isPlace_of_mem_layOut` — laid out from a counted place, every line starts and stops at one;
* `exists_of_mem_children` — a child of a paragraph is a line, or lies between two lines;
* `tiles_paragraph` — the children of a paragraph meet, from its first end to its last;
* `IsRuns.pairwise_stop_lt_start` — the lines of a run end before those of any later run start.
-/

namespace DocLint.Document.Plain

/-! ## What the spans should be

Nothing is said here of how a text is read. Places are counted of the source, as anyone would who
looks at it, and spans are held against them. -/

/-- Children that cover a span without gap or overlap. So every byte of the span is covered by one
of them, and by one only. -/
structure Tiles (children : List Node) (span : Span) : Prop where
  nonempty : children ≠ []
  /-- the first child starts where the span starts -/
  first : children.head?.map (·.span.start) = some span.start
  /-- each child stops where the next one starts -/
  meet : children.IsChain fun a b => a.span.stop = b.span.start
  /-- the last child stops where the span stops -/
  last : children.getLast?.map (·.span.stop) = some span.stop

/-- A tree of a plain text whose spans are true to the source. Who looks up a line and column of it
in the source finds what the node stands for. -/
structure IsMapped (source : List Char) (document : Node) : Prop where
  /-- every span starts and stops at places of the source, in this order -/
  placed : ∀ n ∈ document.preorder,
    IsPlace source n.span.start ∧ IsPlace source n.span.stop ∧
      n.span.start.offset ≤ n.span.stop.offset ∧ n.span.stop.offset ≤ Text.byteSize source
  /-- the document spans the whole source -/
  whole : document.span = ⟨Position.after [], Position.after source⟩
  /-- each paragraph is covered by its children without gap or overlap -/
  tiled : ∀ p ∈ paragraphs document, Tiles p.children p.span
  /-- each paragraph stops before any later one starts -/
  inOrder : (paragraphs document).Pairwise fun p q => p.span.stop.offset < q.span.start.offset
  /-- paragraphs lie inside the document -/
  inside : ∀ p ∈ paragraphs document,
    p ∈ document.children ∧ document.span.start.offset ≤ p.span.start.offset ∧
      p.span.stop.offset ≤ document.span.stop.offset

/-! ## Lines -/

/-- Laid out from a counted place, every line starts and stops at a counted place. By induction on
the lines: each of them is laid out from where the ones before it end. -/
theorem isPlace_of_mem_layOut {source before : List Char} {ls : List (List Char)}
    (hsource : source = before ++ ls.flatten) (hls : ls.IsChain fun line _ => Ended line)
    {l : Line} (hl : l ∈ layOut (Position.after before) ls) :
    IsPlace source l.start ∧ IsPlace source l.stop := by
  induction ls generalizing before with
  | nil => cases hl
  | cons line ls ih =>
    obtain ⟨hline, hlater⟩ := List.isChain_cons.1 hls
    rcases List.mem_cons.1 hl with rfl | hl
    · obtain ⟨rest, heq, -⟩ := exists_rest line
      refine ⟨⟨before, ⟨_, hsource.symm⟩, rfl⟩, before ++ content line, ?_, ?_⟩
      · refine ⟨rest ++ ls.flatten, ?_⟩
        rw [hsource, List.flatten_cons, List.append_assoc, ← List.append_assoc (content line),
          ← heq]
      · exact (Position.after_append _ _).symm
    · cases ls with
      | nil => cases hl
      | cons next ls =>
        -- only a line that has ended has another one behind it
        obtain ⟨body, rfl, hbody⟩ := hline next rfl
        have hrest : source = (before ++ (body ++ ['\n'])) ++ (next :: ls).flatten := by
          rw [hsource, List.flatten_cons, List.append_assoc before]
        refine ih hrest hlater ?_
        rw [Position.after_append_lineFeed _ _ hbody]
        exact hl

theorem isPlace_of_mem_sourceLines {source : List Char} {l : Line} (hl : l ∈ sourceLines source) :
    IsPlace source l.start ∧ IsPlace source l.stop := by
  have hsource : source = [] ++ (lines source).flatten := (flatten_lines source).symm
  exact isPlace_of_mem_layOut hsource (isChain_lines source) hl

/-! ## Paragraphs -/

/-- A child of a paragraph is one of its lines, or lies between two of them. Between neighbours
there is a line break, which is a child of its own. -/
theorem exists_of_mem_children {source : List Char} {ls : List Line}
    (h : ls.IsChain (Follows source)) {n : Node} (hn : n ∈ children ls) :
    ∃ l ∈ ls, n = l.node ∨ ∃ m ∈ ls, n = breakBetween l m ∧ l.stop.offset < m.start.offset := by
  fun_induction children ls with
  | case1 => cases hn
  | case2 l =>
    obtain rfl := List.mem_singleton.1 hn
    exact ⟨l, List.mem_singleton_self l, .inl rfl⟩
  | case3 l m ls ih =>
    obtain ⟨hfollows, hchain⟩ := List.isChain_cons_cons.1 h
    rcases List.mem_cons.1 hn with rfl | hn
    · exact ⟨l, List.mem_cons_self .., .inl rfl⟩
    rcases List.mem_cons.1 hn with rfl | hn
    · exact ⟨l, List.mem_cons_self .., .inr ⟨m, by simp, rfl, hfollows.offset⟩⟩
    · obtain ⟨k, hk, hnode | ⟨k', hk', hbreak⟩⟩ := ih hchain hn
      · exact ⟨k, List.mem_cons_of_mem _ hk, .inl hnode⟩
      · exact ⟨k, List.mem_cons_of_mem _ hk, .inr ⟨k', List.mem_cons_of_mem _ hk', hbreak⟩⟩

theorem head?_children (ls : List Line) :
    (children ls).head?.map (·.span.start) = ls.head?.map Line.start := by
  fun_cases children ls <;> rfl

theorem getLast?_children (ls : List Line) :
    (children ls).getLast?.map (·.span.stop) = ls.getLast?.map Line.stop := by
  fun_induction children ls with
  | case1 => rfl
  | case2 l => rfl
  | case3 l m ls ih => cases ls <;> exact ih

theorem isChain_children (ls : List Line) :
    (children ls).IsChain fun a b => a.span.stop = b.span.start := by
  fun_induction children ls with
  | case1 => exact List.isChain_nil
  | case2 l => exact List.isChain_singleton _
  | case3 l m ls ih =>
    have hhead := head?_children (m :: ls)
    refine List.isChain_cons_cons.2 ⟨rfl, List.isChain_cons.2 ⟨fun c hc => ?_, ih⟩⟩
    rw [hc] at hhead
    exact (Option.some.inj hhead).symm

/-- A paragraph spans its lines from the first to the last. There is at least one, and it is both if
there is no other. -/
theorem exists_span_paragraph {ls : List Line} (hne : ls ≠ []) :
    ∃ first ∈ ls, ∃ last ∈ ls, ls.head? = some first ∧ ls.getLast? = some last ∧
      (paragraph ls).span = ⟨first.start, last.stop⟩ := by
  have hfirst : ls.head? = some (ls.head hne) := List.head?_eq_some_head hne
  have hlast : ls.getLast? = some (ls.getLast hne) := List.getLast?_eq_some_getLast hne
  refine ⟨_, List.head_mem hne, _, List.getLast_mem hne, hfirst, hlast, ?_⟩
  rw [paragraph, hfirst, hlast]
  rfl

/-- The children of a paragraph cover it without gap or overlap. A break starts where the line
before it stops, and stops where the next one starts. -/
theorem tiles_paragraph {ls : List Line} (hne : ls ≠ []) :
    Tiles (paragraph ls).children (paragraph ls).span := by
  obtain ⟨first, -, last, -, hfirst, hlast, hspan⟩ := exists_span_paragraph hne
  have hstart : (children ls).head?.map (·.span.start) = some first.start := by
    rw [head?_children, hfirst]
    rfl
  have hstop : (children ls).getLast?.map (·.span.stop) = some last.stop := by
    rw [getLast?_children, hlast]
    rfl
  rw [hspan]
  refine ⟨?_, hstart, isChain_children ls, hstop⟩
  intro hnil
  have hnone : (children ls).head? = none := by
    rw [show children ls = [] from hnil]
    rfl
  rw [hnone] at hstart
  cases hstart

/-! ## Runs -/

variable {source : List Char} {runs : List (List Line)}

theorem IsRuns.subset (h : IsRuns (sourceLines source) runs) {p : List Line} (hp : p ∈ runs)
    {l : Line} (hl : l ∈ p) : l ∈ sourceLines source := by
  have hmem : l ∈ runs.flatten := List.mem_flatten.2 ⟨p, hp, hl⟩
  rw [h.flatten] at hmem
  exact List.mem_of_mem_filter hmem

/-- The lines of a run stop before those of any later run start. A line in between keeps them apart,
and has a line feed at least. -/
theorem IsRuns.pairwise_stop_lt_start (h : IsRuns (sourceLines source) runs) :
    runs.Pairwise fun p q => ∀ l ∈ p, ∀ m ∈ q, l.stop.offset < m.start.offset := by
  have hlines := pairwise_offset (isChain_sourceLines source)
  have hvisible : runs.flatten.Pairwise fun l m => l.stop.offset < m.start.offset := by
    rw [h.flatten]
    exact hlines.filter _
  exact (List.pairwise_flatten.1 hvisible).2

/-- The span of a paragraph starts and stops at places of the source, in this order. -/
theorem IsRuns.placed_paragraph (h : IsRuns (sourceLines source) runs) {p : List Line}
    (hp : p ∈ runs) :
    IsPlace source (paragraph p).span.start ∧ IsPlace source (paragraph p).span.stop ∧
      (paragraph p).span.start.offset ≤ (paragraph p).span.stop.offset := by
  obtain ⟨first, hfirst, last, hlast, -, -, hspan⟩ := exists_span_paragraph (h.part p hp).1
  obtain ⟨hstart, hstop⟩ := paragraph_covers (h.isChain hp) hlast
  have hle := last.start_le_stop
  refine ⟨?_, ?_, by omega⟩
  · rw [hspan]
    exact (isPlace_of_mem_sourceLines (h.subset hp hfirst)).1
  · rw [hspan]
    exact (isPlace_of_mem_sourceLines (h.subset hp hlast)).2

/-- So do the spans of its children, both those of its lines and those of the breaks between
them. -/
theorem IsRuns.placed_child (h : IsRuns (sourceLines source) runs) {p : List Line}
    (hp : p ∈ runs) {n : Node} (hn : n ∈ children p) :
    IsPlace source n.span.start ∧ IsPlace source n.span.stop ∧
      n.span.start.offset ≤ n.span.stop.offset := by
  obtain ⟨l, hl, rfl | ⟨m, hm, rfl, hlt⟩⟩ := exists_of_mem_children (h.isChain hp) hn
  · obtain ⟨hstart, hstop⟩ := isPlace_of_mem_sourceLines (h.subset hp hl)
    exact ⟨hstart, hstop, l.start_le_stop⟩
  · obtain ⟨-, hstart⟩ := isPlace_of_mem_sourceLines (h.subset hp hl)
    obtain ⟨hstop, -⟩ := isPlace_of_mem_sourceLines (h.subset hp hm)
    exact ⟨hstart, hstop, Nat.le_of_lt hlt⟩

/-! ## The document -/

/-- **The spans of a plain text are true to its source**: every node of the tree starts and stops at
places of the source, and the children of a paragraph tile it. -/
theorem parse_isMapped (source : List Char) : IsMapped source (parse source) := by
  obtain ⟨runs, h, hparse⟩ := exists_runs source
  have hparagraphs : paragraphs (parse source) = runs.map paragraph := by
    rw [hparse, paragraphs_document]
  have hspan : (parse source).span = ⟨Position.after [], Position.after source⟩ := by
    rw [parse, Node.parent, extent, extentEnd_eq_after, Position.after_nil]
  refine ⟨fun n hn => ?_, hspan, fun p hp => ?_, ?_, fun p hp => ?_⟩
  · -- a node is the document, a paragraph or a piece of one, and each of these lies between places
    have hplaced : IsPlace source n.span.start ∧ IsPlace source n.span.stop ∧
        n.span.start.offset ≤ n.span.stop.offset := by
      rw [hparse, preorder_document] at hn
      rcases List.mem_cons.1 hn with rfl | hn
      · exact ⟨.origin source, .extentEnd source, Nat.zero_le _⟩
      · obtain ⟨p, hp, hnp⟩ := List.mem_flatMap.1 hn
        rcases List.mem_cons.1 hnp with rfl | hchild
        · exact h.placed_paragraph hp
        · exact h.placed_child hp hchild
    exact ⟨hplaced.1, hplaced.2.1, hplaced.2.2, hplaced.2.1.offset_le⟩
  · rw [hparagraphs] at hp
    obtain ⟨run, hrun, rfl⟩ := List.mem_map.1 hp
    exact tiles_paragraph (h.part run hrun).1
  · rw [hparagraphs, List.pairwise_map]
    -- runs lie one behind the other, and so do the paragraphs made of them
    refine h.pairwise_stop_lt_start.imp_of_mem fun {p q} hp hq hpq => ?_
    obtain ⟨_, -, last, hlast, -, -, hp'⟩ := exists_span_paragraph (h.part p hp).1
    obtain ⟨first, hfirst, _, -, -, -, hq'⟩ := exists_span_paragraph (h.part q hq).1
    rw [hp', hq']
    exact hpq last hlast first hfirst
  · rw [hparagraphs] at hp
    obtain ⟨run, hrun, rfl⟩ := List.mem_map.1 hp
    obtain ⟨-, hstop, -⟩ := h.placed_paragraph hrun
    refine ⟨?_, ?_, ?_⟩
    · rw [hparse]
      exact List.mem_map_of_mem hrun
    · rw [hspan]
      exact Nat.zero_le _
    · rw [hspan]
      exact hstop.offset_le

example : (parse "é\r\n x".toList).preorder.map (fun n => (n.kind, n.span.start, n.span.stop)) =
    [(.document, ⟨1, 1, 0⟩, ⟨2, 3, 6⟩), (.paragraph, ⟨1, 1, 0⟩, ⟨2, 3, 6⟩),
      (.str, ⟨1, 1, 0⟩, ⟨1, 2, 2⟩), (.lineBreak, ⟨1, 2, 2⟩, ⟨2, 1, 4⟩),
      (.str, ⟨2, 1, 4⟩, ⟨2, 3, 6⟩)] := by decide +kernel

end DocLint.Document.Plain
