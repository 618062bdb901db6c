import DocLint.Proofs.PlainText.Markers
import DocLint.Proofs.Report.Order

/-!
# Text reports line by line

A text report is printed line by line, and everything in it but the messages is of one line: the
path, the numbers, the label and the summary. A message of the marker rule quotes what is left of a
text, and a text of Markdown may go on over several lines. So a report has one line for each
diagnostic exactly if no message has a line feed, and behind the first line of a message that has
one there are lines without a path and a place.

* `Report.pieces_render` — the printed text, cut at its line feeds;
* `Report.LineOriented` — each diagnostic on a line of its own, and `Report.lineOriented_iff`;
* `Linter.wording_of_mem_lint` — what the diagnostics of a configured linter say;
* `Linter.plain_lineOriented` — reports on plain text are line oriented;
* `Linter.printed_lines` — the theorem;
* `Linter.longMarker_torn` — a marker whose message is printed on two lines.
-/

namespace DocLint

/-! ## Texts of one line -/

/-- A number is written on one line, as there are only digits in it. -/
theorem lineFeed_not_mem_toString (n : Nat) : '\n' ∉ (toString n).toList := by
  intro h
  rw [Nat.toString_eq_repr, Nat.toList_repr] at h
  have hdigit := Nat.isDigit_of_mem_toDigits (by decide) (by decide) h
  exact absurd hdigit (by decide)

namespace Diagnostic

/-- What a text report says of a diagnostic before its message: the place and the label. -/
def front (d : Diagnostic) (path : String) : String := d.location path ++ ": " ++ d.label ++ ": "

theorem front_eq {d : Diagnostic} {l k : Nat} (hline : d.line = some l) (hcolumn : d.column = some k)
    (path : String) :
    d.front path = path ++ ":" ++ toString l ++ ":" ++ toString k ++ ": " ++ d.label ++ ": " := by
  rw [front, location, hline, hcolumn]
  rfl

theorem lineFeed_not_mem_front {d : Diagnostic} {l k : Nat} (hline : d.line = some l)
    (hcolumn : d.column = some k) (hlabel : '\n' ∉ d.label.toList) {path : String}
    (hpath : '\n' ∉ path.toList) : '\n' ∉ (d.front path).toList := by
  have hline' := lineFeed_not_mem_toString l
  have hcolumn' := lineFeed_not_mem_toString k
  rw [front_eq hline hcolumn]
  simp only [String.toList_append, List.mem_append, hpath, hline', hcolumn', hlabel]
  decide

theorem shown_eq (d : Diagnostic) {style : ReportStyle} (hplain : style.colored = false)
    (path : String) : d.shown style path = d.front path ++ d.message := by
  rw [shown, hplain]
  rfl

end Diagnostic

namespace Report

/-! ## The summary -/

theorem announcement_eq_nil_iff {errors warnings ignored : Nat} :
    announcement errors warnings ignored = [] ↔ errors = 0 ∧ warnings = 0 ∧ ignored = 0 := by
  simp only [announcement, announced, List.append_eq_nil_iff, and_assoc]
  split <;> split <;> split <;> simp_all

theorem lineFeed_not_mem_announced {n : Nat} {what s : String} (hwhat : '\n' ∉ what.toList)
    (h : s ∈ announced n what) : '\n' ∉ s.toList := by
  rw [announced] at h
  split at h
  · cases h
  · rw [List.mem_singleton.1 h, String.toList_append, List.mem_append, not_or]
    exact ⟨lineFeed_not_mem_toString n, hwhat⟩

theorem lineFeed_not_mem_intercalate {sep : String} (hsep : '\n' ∉ sep.toList) {ls : List String}
    (hls : ∀ l ∈ ls, '\n' ∉ l.toList) : '\n' ∉ (sep.intercalate ls).toList := by
  induction ls with
  | nil => simp
  | cons l ls ih =>
    obtain ⟨hl, hrest⟩ := List.forall_mem_cons.1 hls
    cases ls with
    | nil => rwa [String.intercalate_singleton]
    | cons m ls =>
      rw [String.intercalate_cons_cons, String.toList_append, String.toList_append]
      simp only [List.mem_append, not_or]
      exact ⟨⟨hl, hsep⟩, ih hrest⟩

/-- **What ends a report**: nothing if there is nothing to count, and otherwise an empty line and one
line more. -/
theorem summary_cases (r : Report) :
    (r.diagnostics = [] ∧ r.ignored = 0 ∧ r.summary = []) ∨
      (¬(r.diagnostics = [] ∧ r.ignored = 0) ∧ ∃ s, r.summary = ["", s] ∧ '\n' ∉ s.toList) := by
  rw [summary_eq, ending]
  have hcount := r.count_add_count
  have hnone : announcement (r.count .error) (r.count .warning) r.ignored = [] ↔
      r.diagnostics = [] ∧ r.ignored = 0 := by
    rw [announcement_eq_nil_iff, ← List.length_eq_zero_iff, ← hcount]
    omega
  split
  · rename_i h
    exact .inl ⟨(hnone.1 h).1, (hnone.1 h).2, rfl⟩
  · rename_i h
    refine .inr ⟨fun hempty => h (hnone.2 hempty), _, rfl, ?_⟩
    -- the summary is one line: none of its parts has a line feed, and neither has what joins them
    have hparts : ∀ s ∈ announcement (r.count .error) (r.count .warning) r.ignored,
        '\n' ∉ s.toList := by
      intro s hs
      rw [announcement, List.mem_append, List.mem_append] at hs
      rcases hs with (hs | hs) | hs
      · exact lineFeed_not_mem_announced (by decide) hs
      · exact lineFeed_not_mem_announced (by decide) hs
      · exact lineFeed_not_mem_announced (by decide) hs
    rw [String.toList_append, List.mem_append, not_or]
    exact ⟨by decide, lineFeed_not_mem_intercalate (by decide) hparts⟩

/-! ## The printed text

What is printed is made of lines, and cutting it at the line feeds gives them back if none has a
line feed in it. Of all that is put into a line only the message may have one. -/

/-- The lines of a diagnostic: those of its message, of which the first stands behind the place and
the label. -/
def block (path : String) (d : Diagnostic) : List (List Char) :=
  (Text.pieces '\n' d.message.toList).modifyHead ((d.front path).toList ++ ·)

/-- A report is line oriented: cut at its line feeds, the printed text is a line for each diagnostic
in order, and what ends it. -/
def LineOriented (r : Report) (style : ReportStyle) (path : String) : Prop :=
  Text.pieces '\n' (r.render style path).toList =
    r.sorted.map (fun d => (d.shown style path).toList) ++ r.summary.map String.toList ++ [[]]

variable {r : Report} {style : ReportStyle} {path : String}

theorem mem_sorted {d : Diagnostic} : d ∈ r.sorted ↔ d ∈ r.diagnostics :=
  r.arranged_sorted.perm.mem_iff

/-- **The printed text, cut at its line feeds**: the lines of each diagnostic in order, and what ends
the report. -/
theorem pieces_render (htext : style.format = .text) (hplain : style.colored = false)
    (hfront : ∀ d ∈ r.diagnostics, '\n' ∉ (d.front path).toList) :
    Text.pieces '\n' (r.render style path).toList =
      r.sorted.flatMap (block path) ++ r.summary.map String.toList ++ [[]] := by
  have hprinted : (r.render style path).toList =
      ((r.lines style path).map String.toList).flatMap (· ++ ['\n']) := by
    rw [render, htext]
    simp [String.toList_join, List.flatMap_map]
  -- the front of a line has no line feed in it, so that only the message is cut
  have hshown : ∀ d ∈ r.sorted,
      Text.pieces '\n' (d.shown style path).toList = block path d := by
    intro d hd
    rw [d.shown_eq hplain, String.toList_append,
      Text.pieces_append_of_not_mem (hfront d (mem_sorted.1 hd))]
    rfl
  have hsummary : (r.summary.map String.toList).flatMap (Text.pieces '\n') =
      r.summary.map String.toList := by
    rcases r.summary_cases with ⟨-, -, h⟩ | ⟨-, s, h, hs⟩
    · rw [h]
      rfl
    · rw [h, List.map_cons, List.map_singleton, List.flatMap_cons, List.flatMap_singleton,
        Text.pieces_of_not_mem hs]
      rfl
  rw [hprinted, Text.pieces_flatMap_concat, lines, List.map_append, List.flatMap_append, hsummary,
    List.map_map, List.flatMap_map]
  exact congrArg (· ++ _ ++ _) (List.flatMap_congr hshown)

/-- **A report is line oriented exactly if no message has a line feed.** What is put around the
messages has no line feed but the one at the end of each line. -/
theorem lineOriented_iff (htext : style.format = .text) (hplain : style.colored = false)
    (hfront : ∀ d ∈ r.diagnostics, '\n' ∉ (d.front path).toList) :
    r.LineOriented style path ↔ ∀ d ∈ r.diagnostics, '\n' ∉ d.message.toList := by
  rw [LineOriented]
  constructor
  · -- no piece has a line feed in it, and what is shown of a diagnostic is one of the pieces
    intro h d hd hmem
    have hpiece : (d.shown style path).toList ∈ Text.pieces '\n' (r.render style path).toList := by
      rw [h, List.append_assoc]
      exact List.mem_append_left _ (List.mem_map_of_mem (mem_sorted.2 hd))
    refine Text.not_mem_of_mem_pieces hpiece ?_
    rw [d.shown_eq hplain, String.toList_append]
    exact List.mem_append_right _ hmem
  · intro h
    have hblock : ∀ d ∈ r.sorted, block path d = [(d.shown style path).toList] := by
      intro d hd
      rw [block, Text.pieces_of_not_mem (h d (mem_sorted.1 hd)), d.shown_eq hplain,
        String.toList_append]
      rfl
    have hlines : r.sorted.flatMap (block path) =
        r.sorted.map fun d => (d.shown style path).toList :=
      (List.flatMap_congr hblock).trans List.map_eq_flatMap.symm
    rw [pieces_render htext hplain hfront, hlines]

end Report

/-! ## What the diagnostics of a linter say

There are two sorts of messages. That of a kind rule has the name of a kind in it, which is on one
line. That of the marker rule quotes its text from the marker on, whatever is in there. -/

/-- A message of the marker rule has the line feeds of what it quotes. The words around it have
none. -/
theorem TodoMarker.lineFeed_mem_message_iff {rest : List Char} :
    '\n' ∈ (message rest).toList ↔ '\n' ∈ Text.trimEnd rest := by
  simp [message]

theorem NodeKind.lineFeed_not_mem_name (k : NodeKind) : '\n' ∉ k.name.toList := by
  cases k <;> decide

/-- What a kind rule reports of a node under the id that it has in configurations. -/
def NodeRule.kindDiagnostic (node : Node) : Diagnostic :=
  { rule := Rule.nodeKindsName, category := "debug"
    message := "found " ++ node.kind.name ++ " node", severity := .error : Diagnostic }.place
      node.span.start

theorem NodeRule.lineFeed_not_mem_kindDiagnostic (node : Node) :
    '\n' ∉ (kindDiagnostic node).message.toList := by
  have hname := node.kind.lineFeed_not_mem_name
  change '\n' ∉ ("found " ++ node.kind.name ++ " node").toList
  simp [hname]

/-- Where a diagnostic comes from: a marker in a text of the document, of which it quotes the rest,
or a node whose kind it tells. -/
inductive Wording (source : List Char) (document : Node) : Diagnostic → Prop
  | marker {node : Node} {p : Position} {gap rest : List Char} (mem : node ∈ document.preorder)
      (text : node.kind = .str) (raw : node.raw source = gap ++ rest) :
      Wording source document (TodoMarker.diagnosticAt p rest)
  | kind {node : Node} (mem : node ∈ document.preorder) :
      Wording source document (NodeRule.kindDiagnostic node)

namespace Wording

variable {source : List Char} {document : Node} {d : Diagnostic}

/-- The place is known, and what comes before the message is of one line. -/
theorem placed (h : Wording source document d) :
    ∃ l k, d.line = some l ∧ d.column = some k ∧ '\n' ∉ d.label.toList := by
  cases h with
  | @marker node p gap rest mem text raw =>
    refine ⟨p.line, p.column, rfl, rfl, ?_⟩
    change '\n' ∉ "warning[content/no-todo]".toList
    decide
  | @kind node mem =>
    refine ⟨node.span.start.line, node.span.start.column, rfl, rfl, ?_⟩
    change '\n' ∉ "error[debug/report-node-types]".toList
    decide

/-- A line feed in a message comes out of the text that the message quotes. So it is a text of
Markdown that goes on to another line. -/
theorem exists_rest (h : Wording source document d) (hfeed : '\n' ∈ d.message.toList) :
    ∃ node ∈ document.preorder, node.kind = .str ∧ ∃ gap rest, node.raw source = gap ++ rest ∧
      d.message = TodoMarker.message rest ∧ '\n' ∈ Text.trimEnd rest := by
  cases h with
  | @marker node p gap rest mem text raw =>
    refine ⟨node, mem, text, gap, rest, raw, rfl, ?_⟩
    exact TodoMarker.lineFeed_mem_message_iff.1 hfeed
  | @kind node mem => exact absurd hfeed (NodeRule.lineFeed_not_mem_kindDiagnostic node)

end Wording

namespace Linter

/-- **What the linter of a configuration reports** is a marker or a node of the document. -/
theorem wording_of_mem_lint {c : Config} {source : List Char} {document : Node} {d : Diagnostic}
    (hd : d ∈ ((ofConfig c).lint source document).diagnostics) : Wording source document d := by
  rw [lint, sift_diagnostics] at hd
  obtain ⟨rule, hrule, hd⟩ := List.mem_flatMap.1 (List.mem_of_mem_filter hd)
  -- a configuration turns on no other rules than these two
  have hrule' : rule = .todoMarkers ∨ ∃ kinds, rule = .nodeKinds Rule.nodeKindsName kinds := by
    rcases List.mem_append.1 hrule with hrule | hrule
    · split at hrule
      · exact .inl (List.mem_singleton.1 hrule)
      · cases hrule
    · split at hrule
      · exact .inr ⟨_, List.mem_singleton.1 hrule⟩
      · cases hrule
  rcases hrule' with rfl | ⟨kinds, rfl⟩
  · obtain ⟨node, hnode, hd⟩ := List.mem_flatMap.1 hd
    rw [NodeRule.checkNode] at hd
    split at hd
    · rename_i htext
      obtain ⟨⟨q, rest⟩, hscan, rfl⟩ := List.mem_map.1 hd
      obtain ⟨gap, hraw, -, -⟩ := TodoMarker.of_mem_scan hscan
      exact .marker hnode htext hraw
    · cases hd
  · obtain ⟨node, hnode, hd⟩ := List.mem_flatMap.1 hd
    rw [NodeRule.checkNode] at hd
    split at hd
    · rw [List.mem_singleton.1 hd]
      exact .kind hnode
    · cases hd

/-! ## Plain text -/

/-- A text of a plain document is of one line. -/
theorem lineFeed_not_mem_raw {source : List Char} {n : Node}
    (hn : n ∈ (Document.Plain.parse source).preorder) (htext : n.kind = .str) :
    '\n' ∉ n.raw source := by
  obtain ⟨runs, h, hparse⟩ := Document.Plain.exists_runs source
  have hmem : n ∈ Document.Plain.texts (Document.Plain.parse source) :=
    List.mem_filter.2 ⟨hn, decide_eq_true htext⟩
  rw [hparse, Document.Plain.texts_document, h.flatten] at hmem
  obtain ⟨l, hl, rfl⟩ := List.mem_map.1 hmem
  have hl' := List.mem_of_mem_filter hl
  have hcontent : l.content ∈ (Document.Plain.lines source).map Document.Plain.content := by
    have hpair := List.mem_map_of_mem (f := fun l => (l.content, l.start.line)) hl'
    rw [Document.Plain.sourceLines, Document.Plain.map_layOut] at hpair
    exact List.fst_mem_of_mem_zipIdx hpair
  obtain ⟨line, hline, heq⟩ := List.mem_map.1 hcontent
  obtain ⟨-, -, hfeed, -⟩ :=
    Document.Plain.exists_lineEnd (Document.Plain.ended_or_not_mem hline)
  rw [Document.Plain.raw_node hl', ← heq]
  exact hfeed

/-- The diagnostics of a configured linter stand behind one line of place and label. -/
theorem lineFeed_not_mem_front {c : Config} {source : List Char} {document : Node} {path : String}
    (hpath : '\n' ∉ path.toList) :
    ∀ d ∈ ((ofConfig c).lint source document).diagnostics, '\n' ∉ (d.front path).toList := by
  intro d hd
  obtain ⟨l, k, hline, hcolumn, hlabel⟩ := (wording_of_mem_lint hd).placed
  exact Diagnostic.lineFeed_not_mem_front hline hcolumn hlabel hpath

/-- **Reports on plain text are line oriented**, whatever is configured. -/
theorem plain_lineOriented (c : Config) (source : List Char) (palette : Palette) {path : String}
    (hpath : '\n' ∉ path.toList) :
    ((ofConfig c).report .plain source).LineOriented { palette } path := by
  refine (Report.lineOriented_iff rfl rfl (lineFeed_not_mem_front hpath)).2 fun d hd hfeed => ?_
  obtain ⟨node, hnode, htext, gap, rest, hraw, -, hrest⟩ :=
    (wording_of_mem_lint hd).exists_rest hfeed
  refine lineFeed_not_mem_raw hnode htext ?_
  rw [hraw]
  exact List.mem_append_right _ (Text.mem_of_mem_trimEnd hrest)

/-! ## The theorem -/

/-- **A text report, line by line.** Let a configured linter report on any document under a path of
one line. Then each diagnostic is shown with the path, its own line and column and its whole
message; cut at its line feeds, the printed text is in the order of the report, for each diagnostic,
as many lines as its message has, and behind them, exactly if there is something to count, an empty
line and one more. So the report is line oriented exactly if no message has a line feed, and a
message has one only if it is that of a marker behind which the text goes on to another line. -/
theorem printed_lines (c : Config) (source : List Char) (document : Node) (palette : Palette)
    {path : String} (hpath : '\n' ∉ path.toList) :
    let r := (ofConfig c).lint source document
    let style : ReportStyle := { palette }
    (∀ d ∈ r.diagnostics, ∃ l k, d.line = some l ∧ d.column = some k ∧
      d.front path = path ++ ":" ++ toString l ++ ":" ++ toString k ++ ": " ++ d.label ++ ": " ∧
      '\n' ∉ (d.front path).toList ∧ d.shown style path = d.front path ++ d.message) ∧
    Arranged r.diagnostics r.sorted ∧
    Text.pieces '\n' (r.render style path).toList =
      r.sorted.flatMap (Report.block path) ++ r.summary.map String.toList ++ [[]] ∧
    ((r.diagnostics = [] ∧ r.ignored = 0 ∧ r.summary = []) ∨
      (¬(r.diagnostics = [] ∧ r.ignored = 0) ∧ ∃ s, r.summary = ["", s] ∧ '\n' ∉ s.toList)) ∧
    (r.LineOriented style path ↔ ∀ d ∈ r.diagnostics, '\n' ∉ d.message.toList) ∧
    ∀ d ∈ r.diagnostics, '\n' ∈ d.message.toList →
      ∃ node ∈ document.preorder, node.kind = .str ∧ ∃ gap rest, node.raw source = gap ++ rest ∧
        d.message = TodoMarker.message rest ∧ '\n' ∈ Text.trimEnd rest := by
  intro r style
  have hfront : ∀ d ∈ r.diagnostics, '\n' ∉ (d.front path).toList := lineFeed_not_mem_front hpath
  refine ⟨fun d hd => ?_, r.arranged_sorted, Report.pieces_render rfl rfl hfront, r.summary_cases,
    Report.lineOriented_iff rfl rfl hfront, fun d hd => (wording_of_mem_lint hd).exists_rest⟩
  obtain ⟨l, k, hline, hcolumn, -⟩ := (wording_of_mem_lint hd).placed
  exact ⟨l, k, hline, hcolumn, Diagnostic.front_eq hline hcolumn path, hfront d hd,
    d.shown_eq rfl path⟩

/-- A heading of Markdown with a marker, and a paragraph that ends after one. -/
def shortMarkers : List Char := "# ToDo: a\n\nx\ntodo: b\n".toList

/-- What is reported of them is line oriented, as both end with their line. -/
theorem shortMarkers_lineOriented :
    '\n' ∉ "a.md".toList ∧ ((ofConfig {}).report .markdown shortMarkers).diagnostics.length = 2 ∧
      ((ofConfig {}).report .markdown shortMarkers).LineOriented {} "a.md" := by
  have hpath : '\n' ∉ "a.md".toList := by decide
  obtain ⟨-, -, -, -, hiff, -⟩ := printed_lines {} shortMarkers
    (Document.parse .markdown shortMarkers) {} hpath
  refine ⟨hpath, by decide +kernel, hiff.2 ?_⟩
  decide +kernel

/-- A paragraph of Markdown that goes on to a second line behind its marker. -/
def longMarker : List Char := "TODO: a\nb".toList

/-- What is reported of it. -/
def tornMarker : Diagnostic where
  rule := "no-todo"
  category := "content"
  message := "Found TODO: 'TODO: a\nb'"
  severity := .warning
  line := some 1
  column := some 1
  offset := some 0

/-- **A message is torn**: the diagnostic quotes the second line of the paragraph, and the report
has a line that begins with no path and tells of no place. -/
theorem longMarker_torn :
    '\n' ∉ "a.md".toList ∧ (ofConfig {}).report .markdown longMarker = ⟨[tornMarker], 0⟩ ∧
    ¬((ofConfig {}).report .markdown longMarker).LineOriented {} "a.md" ∧
    Text.pieces '\n' (((ofConfig {}).report .markdown longMarker).render {} "a.md").toList =
      ["a.md:1:1: warning[content/no-todo]: Found TODO: 'TODO: a".toList, "b'".toList, [],
        "Found 1 warning(s)".toList, []] := by
  have hreport : (ofConfig {}).report .markdown longMarker = ⟨[tornMarker], 0⟩ := by decide +kernel
  have hfront : ∀ d ∈ [tornMarker], '\n' ∉ (d.front "a.md").toList := by decide
  have hsorted : (Report.mk [tornMarker] 0).sorted = [tornMarker] := List.mergeSort_singleton _
  rw [hreport]
  refine ⟨by decide, rfl, ?_, ?_⟩
  · rw [Report.lineOriented_iff rfl rfl hfront, List.forall_mem_singleton, not_not]
    decide
  · rw [Report.pieces_render rfl rfl hfront, hsorted]
    decide

end Linter

end DocLint
