import DocLint.Command.Check
import DocLint.Proofs.Markers
import DocLint.Proofs.PlainText.Coordinates

/-!
# Linting plain text, end to end

Lines are cut, blank ones are dropped, the others become nodes, each node is scanned on its own, and
filters run in the end. None of this shows in what is reported of a plain text: the marker rule
reports the markers of the source as a whole, and nothing is suppressed.

* `message_lineRest` — the end of a line and what follows it leave no trace in a message;
* `map_scan_flatten` — scanned line by line or as a whole, a text has the same markers;
* `check_todoMarkers_parse` — so the rule reports of the tree what it would find in the source;
* `Linter.ranges_eq_nil` — without comments and raw markup nothing is suppressed;
* `Linter.plain_report_exact` — the theorem.
-/

namespace DocLint

/-! ## What is reported of a marker -/

namespace TodoMarker

/-- What is left of a line from some place on. The message of a marker quotes it, without what is
blank at its end. -/
def lineRest (rest : List Char) : List Char := rest.takeWhile fun c => c ≠ '\n'

/-- What the marker rule reports at a place, before the text `rest`. It is told by the place and by
that text alone, and not by the node in which it is found. -/
def diagnosticAt (p : Position) (rest : List Char) : Diagnostic :=
  { rule := Rule.todoName, category := "content", message := message rest
    severity := .warning : Diagnostic }.place p

/-- What is to be reported of a marker between two parts of a source: the place after the first
part, and a message with the rest of the line, without the blanks at its end. -/
def diagnostic (before rest : List Char) : Diagnostic where
  rule := "no-todo"
  category := "content"
  message := "Found TODO: '" ++ String.ofList (Text.trimEnd (lineRest rest)) ++ "'"
  severity := .warning
  line := some (Position.after before).line
  column := some (Position.after before).column
  offset := some (Position.after before).offset

theorem diagnosticAt_after (before rest : List Char) :
    diagnosticAt (Position.after before) (lineRest rest) = diagnostic before rest := rfl

/-- The end of a line and what follows it leave no trace in a message. So it makes no difference
whether the rule sees the content of a line or the source from there on. -/
theorem message_lineRest {r e more : List Char} (hr : '\n' ∉ r) (he : ∀ c ∈ e, IsLineEnd c)
    (hmore : more = [] ∨ '\n' ∈ e) : message (lineRest (r ++ (e ++ more))) = message r := by
  have hlead : lineRest (r ++ (e ++ more)) = r ++ lineRest (e ++ more) := by
    refine List.takeWhile_append_of_pos fun c hc => ?_
    rw [decide_eq_true_iff]
    rintro rfl
    exact hr hc
  have hend : lineRest (e ++ more) = lineRest e := by
    rcases hmore with rfl | hmem
    · rw [List.append_nil]
    · exact takeWhile_append_of_mem hmem (by simp) more
  have hblank : ∀ c ∈ lineRest e, Text.isBlank c = true := by
    intro c hc
    exact (he c ((List.takeWhile_sublist _).mem hc)).isBlank
  rw [hlead, hend, message, message, Text.trimEnd, Text.dropTrailing_append_of_forall hblank]
  rfl

end TodoMarker

/-! ## Line by line

On one side the source is scanned as a whole, on the other its lines, each from its own place and
with nothing before it. A line ending makes the two agree: no marker reaches across it, and behind
it a text is scanned as from a start. -/

namespace Document.Plain

open TodoMarker

/-- A line feed stands at the end of a line or not at all, as it would have ended the line
before. -/
theorem ended_or_not_mem {cs line : List Char} (h : line ∈ lines cs) :
    Ended line ∨ '\n' ∉ line := by
  induction cs generalizing line with
  | nil => cases h
  | cons c cs ih =>
    rw [lines] at h
    split at h
    · rename_i hc
      rcases List.mem_cons.1 h with rfl | h
      · exact .inl ⟨[], by rw [hc]; rfl, by simp⟩
      · exact ih h
    · rename_i hc
      split at h
      · obtain rfl := List.mem_singleton.1 h
        exact .inr (by simpa using Ne.symm hc)
      · rename_i l ls hcons
        rw [hcons] at ih
        rcases List.mem_cons.1 h with rfl | h
        · rcases ih (List.mem_cons_self ..) with ⟨body, rfl, hbody⟩ | hnot
          · exact .inl ⟨c :: body, rfl, by simp [hbody, Ne.symm hc]⟩
          · exact .inr (by simp [hnot, Ne.symm hc])
        · exact ih (List.mem_cons_of_mem _ h)

/-- A line is its content, in which no line feed stands, and what ends it. The latter may be
nothing, if it is the last line. -/
theorem exists_lineEnd {line : List Char} (h : Ended line ∨ '\n' ∉ line) :
    ∃ e, line = content line ++ e ∧ '\n' ∉ content line ∧ ∀ c ∈ e, IsLineEnd c := by
  obtain ⟨e, heq, he⟩ :=
    Text.exists_eq_dropTrailing_append (fun c => c == '\r' || c == '\n') line
  refine ⟨e, heq, ?_, fun c hc => by simpa [IsLineEnd] using he c hc⟩
  rcases h with hended | hnot
  · obtain ⟨k, hk⟩ := exists_ending hended
    obtain ⟨body, hline, hbody⟩ := hended
    have hsame : body ++ ['\n'] = (content line ++ List.replicate k '\r') ++ ['\n'] := by
      rw [← hline, List.append_assoc]
      exact hk
    intro hmem
    refine hbody ?_
    rw [List.append_cancel_right hsame]
    exact List.mem_append_left _ hmem
  · intro hmem
    exact hnot (by rw [heq]; exact List.mem_append_left _ hmem)

/-- The markers of a line are those of its content; what follows the line is scanned apart. -/
theorem map_scan_line {x e more : List Char} (hx : '\n' ∉ x) (he : ∀ c ∈ e, IsLineEnd c)
    (hmore : more = [] ∨ '\n' ∈ e) (p : Position) :
    (scan p none (x ++ (e ++ more))).map (fun m => diagnosticAt m.1 (lineRest m.2)) =
      (scan p none x).map (fun m => diagnosticAt m.1 m.2) ++
        (scan (p.advance (x ++ e)) none more).map
          (fun m => diagnosticAt m.1 (lineRest m.2)) := by
  have hhead : ∀ c ∈ (e ++ more).head?, IsLineEnd c := by
    intro c hc
    cases e with
    | nil =>
      rcases hmore with rfl | hmem
      · cases hc
      · cases hmem
    | cons d e =>
      obtain rfl := Option.some.inj hc
      exact he _ (List.mem_cons_self ..)
  -- a marker inside the line is cut at the end of the line, whatever comes behind
  have hhere : ∀ m ∈ scan p none x,
      diagnosticAt m.1 (lineRest (m.2 ++ (e ++ more))) = diagnosticAt m.1 m.2 := by
    intro m hm
    obtain ⟨gap, rfl, -, -⟩ := of_mem_scan hm
    have hm2 : '\n' ∉ m.2 := fun hmem => hx (List.mem_append_right _ hmem)
    rw [diagnosticAt, message_lineRest hm2 he hmore]
    rfl
  -- nothing is marked in the line ending, and behind it the scan begins anew
  have hlater : scan (p.advance x) (x.getLast?.or none) (e ++ more) =
      scan (p.advance (x ++ e)) none more := by
    rw [scan_lineEnd he, ← Position.advance_append]
    cases hlast : e.getLast? with
    | none =>
      obtain rfl : e = [] := List.getLast?_eq_none_iff.1 hlast
      obtain rfl : more = [] := hmore.resolve_right List.not_mem_nil
      rfl
    | some c => exact scan_some (he c (List.mem_of_getLast? hlast)).not_isWord _ _
  rw [scan_append hhead, List.map_append, List.map_map, hlater]
  exact congrArg (· ++ _) (List.map_congr_left hhere)

/-- **Scanned line by line or as a whole**, a text has the same markers with the same messages. -/
theorem map_scan_flatten {before : List Char} {ls : List (List Char)}
    (hchain : ls.IsChain fun line _ => Ended line)
    (hls : ∀ line ∈ ls, Ended line ∨ '\n' ∉ line) :
    (scan (Position.after before) none ls.flatten).map
        (fun m => diagnosticAt m.1 (lineRest m.2)) =
      (layOut (Position.after before) ls).flatMap fun l =>
        (scan l.start none l.content).map fun m => diagnosticAt m.1 m.2 := by
  induction ls generalizing before with
  | nil => rfl
  | cons line ls ih =>
    obtain ⟨hline, hlater⟩ := List.isChain_cons.1 hchain
    obtain ⟨e, heq, hcontent, he⟩ := exists_lineEnd (hls line (List.mem_cons_self ..))
    have hflat : (line :: ls).flatten = content line ++ (e ++ ls.flatten) := by
      rw [List.flatten_cons, ← List.append_assoc, ← heq]
    rw [layOut, List.flatMap_cons, hflat]
    cases ls with
    | nil =>
      rw [List.flatten_nil, map_scan_line hcontent he (.inl rfl)]
      rfl
    | cons next ls =>
      have hended : Ended line := hline next rfl
      have hfeed : '\n' ∈ e := by
        obtain ⟨body, hbody, -⟩ := hended
        have hmem : '\n' ∈ content line ++ e := by
          rw [← heq, hbody]
          exact List.mem_append_right _ (List.mem_singleton_self _)
        exact (List.mem_append.1 hmem).resolve_left hcontent
      rw [map_scan_line hcontent he (.inr hfeed), ← heq, ← Position.after_append,
        ih hlater fun l hl => hls l (List.mem_cons_of_mem _ hl)]
      -- the next line is laid out at the place after this one
      obtain ⟨body, rfl, hbody⟩ := hended
      rw [Position.after_append_lineFeed _ _ hbody]

/-- A source is scanned as its lines are, as it begins with the first of them at the origin. -/
theorem map_scan_source (source : List Char) :
    (scan Position.origin none source).map (fun m => diagnosticAt m.1 (lineRest m.2)) =
      (sourceLines source).flatMap fun l =>
        (scan l.start none l.content).map fun m => diagnosticAt m.1 m.2 := by
  have hlines := @map_scan_flatten [] _ (isChain_lines source) fun _ => ended_or_not_mem
  rw [flatten_lines] at hlines
  exact hlines

/-! ## The rule -/

/-- Elements that add nothing may be left out. They are the blank lines here, which are in no
paragraph. -/
theorem flatMap_filter {α β : Type} {p : α → Bool} {f : α → List β} {xs : List α}
    (h : ∀ x ∈ xs, p x = false → f x = []) : (xs.filter p).flatMap f = xs.flatMap f := by
  induction xs with
  | nil => rfl
  | cons x xs ih =>
    have hlater := ih fun y hy => h y (List.mem_cons_of_mem _ hy)
    cases hx : p x with
    | true => rw [List.filter_cons_of_pos hx, List.flatMap_cons, List.flatMap_cons, hlater]
    | false =>
      rw [List.filter_cons_of_neg (by simp [hx]), List.flatMap_cons, hlater,
        h x (List.mem_cons_self ..) hx, List.nil_append]

/-- The rule looks at the texts of a document only, and at each of them by itself. -/
theorem check_todoMarkers_eq (source : List Char) (document : Node) :
    NodeRule.todoMarkers.check source document =
      (texts document).flatMap fun n => NodeRule.todoMarkers.checkNode source n := by
  refine (flatMap_filter fun n _ hn => ?_).symm
  have hkind : n.kind ≠ .str := by simpa using hn
  rw [NodeRule.checkNode, if_neg hkind]

/-- For a line of the source the rule reports the markers of its content. What the node covers is
that content, and its span starts where the content does. -/
theorem checkNode_node {source : List Char} {l : Line} (hl : l ∈ sourceLines source) :
    NodeRule.todoMarkers.checkNode source l.node =
      (scan l.start none l.content).map fun m => diagnosticAt m.1 m.2 := by
  rw [NodeRule.checkNode, raw_node hl]
  rfl

/-- **The rule reports of the tree what it would find in the source**, in the same order. -/
theorem check_todoMarkers_parse (source : List Char) :
    NodeRule.todoMarkers.check source (parse source) =
      (scan Position.origin none source).map fun m => diagnosticAt m.1 (lineRest m.2) := by
  obtain ⟨runs, h, hparse⟩ := exists_runs source
  rw [check_todoMarkers_eq, hparse, texts_document, h.flatten, List.flatMap_map, map_scan_source]
  refine (flatMap_filter fun l hl hblank => ?_).trans ?_
  · -- a line without a visible character has no marker either
    have hl' : l.isBlank = true := by simpa using hblank
    rw [checkNode_node hl, scan_eq_nil (Line.isBlank_iff.1 hl')]
    rfl
  · exact List.flatMap_congr fun l hl => checkNode_node hl

/-- What the marker rule reports of a plain text: the markers of the source. It does not mention
lines, paragraphs or nodes any more. -/
theorem mem_check_todoMarkers_parse {source : List Char} {d : Diagnostic} :
    d ∈ NodeRule.todoMarkers.check source (parse source) ↔
      ∃ before rest, source = before ++ rest ∧ Stands before rest ∧ d = diagnostic before rest := by
  have hscan (q : Position) (rest : List Char) :
      (q, rest) ∈ scan Position.origin none source ↔
        ∃ before, source = before ++ rest ∧ q = Position.after before ∧ Stands before rest :=
    @mem_scan_iff [] source rest q
  rw [check_todoMarkers_parse, List.mem_map]
  constructor
  · rintro ⟨⟨q, rest⟩, hmem, rfl⟩
    obtain ⟨before, hsource, rfl, hstands⟩ := (hscan q rest).1 hmem
    exact ⟨before, rest, hsource, hstands, diagnosticAt_after before rest⟩
  · rintro ⟨before, rest, hsource, hstands, rfl⟩
    exact ⟨(Position.after before, rest), (hscan _ _).2 ⟨before, hsource, rfl, hstands⟩, rfl⟩

/-- The markers of a plain text are reported from left to right. No two of them are at one place, as
a scan goes on by a character at least. -/
theorem pairwise_check_todoMarkers_parse (source : List Char) :
    (NodeRule.todoMarkers.check source (parse source)).Pairwise
      fun d e => d.offset < e.offset := by
  rw [check_todoMarkers_parse, List.pairwise_map]
  exact (pairwise_scan _ _ _).imp Option.some_lt_some.2

/-- The tree of a plain text has no comment and no raw markup. So there are no directives in it,
whatever its text is. -/
theorem kind_of_mem_parse {source : List Char} {n : Node} (hn : n ∈ (parse source).preorder) :
    n.kind ≠ .html ∧ n.kind ≠ .comment := by
  obtain ⟨runs, h, hparse⟩ := exists_runs source
  rw [hparse, preorder_document] at hn
  rcases List.mem_cons.1 hn with rfl | hn
  · exact ⟨nofun, nofun⟩
  · obtain ⟨p, hp, hnp⟩ := List.mem_flatMap.1 hn
    rcases List.mem_cons.1 hnp with rfl | hchild
    · exact ⟨nofun, nofun⟩
    · obtain ⟨l, -, rfl | ⟨m, -, rfl, -⟩⟩ := exists_of_mem_children (h.isChain hp) hchild
      · exact ⟨nofun, nofun⟩
      · exact ⟨nofun, nofun⟩

end Document.Plain

/-! ## The linter

From what the rule reports to what a linter does there are two steps: what other rules report has
another name on it, and no filter has anything to mark in a plain text. -/

/-- The diagnostics of one rule in a report, in order. -/
def Report.ofRule (r : Report) (rule : String) : List Diagnostic :=
  r.diagnostics.filter fun d => d.rule = rule

/-- What a rule reports carries its id, by which it is told apart from what the others report. -/
theorem NodeRule.rule_of_mem_check {r : NodeRule} {source : List Char} {document : Node}
    {d : Diagnostic} (hd : d ∈ r.check source document) : d.rule = r.name := by
  obtain ⟨n, -, hd⟩ := List.mem_flatMap.1 hd
  cases r with
  | todoMarkers =>
    rw [checkNode] at hd
    split at hd
    · obtain ⟨m, -, rfl⟩ := List.mem_map.1 hd
      rfl
    · cases hd
  | nodeKinds id kinds =>
    rw [checkNode] at hd
    split at hd
    · obtain rfl := List.mem_singleton.1 hd
      rfl
    · cases hd

namespace Linter

/-- Without comments and raw markup nothing is suppressed, whatever the filters are. -/
theorem ranges_eq_nil (l : Linter) {source : List Char} {document : Node}
    (h : ∀ n ∈ document.preorder, n.kind ≠ .html ∧ n.kind ≠ .comment) :
    l.ranges source document = [] := by
  obtain ⟨rules, filters⟩ := l
  rw [ranges_eq, List.flatMap_eq_nil_iff]
  intro f _
  rw [NextNodeFilter.ranges, NextNodeFilter.apply, Suppressor.run_fresh]
  refine List.flatMap_eq_nil_iff.2 fun uv huv => ?_
  obtain ⟨u, v⟩ := uv
  have hu : u ∈ document.preorder :=
    List.mem_of_mem_filter (List.of_mem_zip huv).1
  change Directive.marks v.span (u.directive? source f.keyword) = []
  cases hd : u.directive? source f.keyword with
  | none => rfl
  | some d =>
    rcases Node.kind_of_directive? hd with hhtml | hcomment
    · exact absurd hhtml (h u hu).1
    · exact absurd hcomment (h u hu).2

/-- Of what the linter of a configuration reports, the marker rule reports its own part. -/
theorem filter_check_ofConfig {c : Config} (hc : c.ruleEnabled Rule.todoName = true)
    (source : List Char) (document : Node) :
    ((ofConfig c).check source document).filter (fun d => d.rule = Rule.todoName) =
      NodeRule.todoMarkers.check source document := by
  have hkinds (kinds : List NodeKind) :
      ((NodeRule.nodeKinds Rule.nodeKindsName kinds).check source document).filter
        (fun d => d.rule = Rule.todoName) = [] := by
    refine List.filter_eq_nil_iff.2 fun d hd => ?_
    rw [NodeRule.rule_of_mem_check hd]
    change ¬decide (Rule.nodeKindsName = Rule.todoName) = true
    decide
  have htodo : (NodeRule.todoMarkers.check source document).filter
      (fun d => d.rule = Rule.todoName) = NodeRule.todoMarkers.check source document := by
    refine List.filter_eq_self.2 fun d hd => ?_
    rw [NodeRule.rule_of_mem_check hd]
    rfl
  rw [check, ofConfig, if_pos hc, List.flatMap_append, List.filter_append, List.flatMap_singleton]
  split
  · rw [List.flatMap_singleton]
    exact (congrArg₂ (· ++ ·) htodo (hkinds _)).trans (List.append_nil _)
  · rw [List.flatMap_nil]
    exact (congrArg (· ++ []) htodo).trans (List.append_nil _)

/-- **Linting plain text, end to end.** If the marker rule is enabled, then whatever else is
configured nothing of a plain text is ignored, and the marker rule reports one diagnostic for each
marker that stands in the source as a whole, and no others, by increasing offset. -/
theorem plain_report_exact {c : Config} (hc : c.ruleEnabled Rule.todoName = true)
    (source : List Char) :
    ((ofConfig c).report .plain source).ignored = 0 ∧
    (∀ d, d ∈ ((ofConfig c).report .plain source).ofRule Rule.todoName ↔
      ∃ before rest, source = before ++ rest ∧ TodoMarker.Stands before rest ∧
        d = TodoMarker.diagnostic before rest) ∧
    (((ofConfig c).report .plain source).ofRule Rule.todoName).Pairwise
      fun d e => d.offset < e.offset := by
  have hreport : (ofConfig c).report .plain source =
      ⟨(ofConfig c).check source (Document.Plain.parse source), 0⟩ := by
    rw [report, Document.parse, lint, ranges_eq_nil _ fun _ => Document.Plain.kind_of_mem_parse,
      sift_nil_ranges]
  have htodo : ((ofConfig c).report .plain source).ofRule Rule.todoName =
      NodeRule.todoMarkers.check source (Document.Plain.parse source) := by
    rw [hreport]
    exact filter_check_ofConfig hc source _
  refine ⟨by rw [hreport], fun d => ?_, ?_⟩
  · rw [htodo]
    exact Document.Plain.mem_check_todoMarkers_parse
  · rw [htodo]
    exact Document.Plain.pairwise_check_todoMarkers_parse source

/-- A comment that is none in plain text, and a marker after it. -/
def sampleSource : List Char := "é\r\n<!-- disable-next-line -->\n\nmastodo: ToDo: x \r\n".toList

/-- What the marker rule says of it. The column counts the characters of the line, and the offset
all the bytes before. -/
def sampleMarker : Diagnostic :=
  { rule := "no-todo", category := "content", message := "Found TODO: 'ToDo: x'"
    severity := .warning, line := some 4, column := some 10, offset := some 41 }

/-- The directive has no effect, and the marker is reported at its place. -/
theorem sampleMarker_reported :
    ({} : Config).ruleEnabled Rule.todoName = true ∧
    ((ofConfig {}).report .plain sampleSource).ignored = 0 ∧
    sampleMarker ∈ ((ofConfig {}).report .plain sampleSource).ofRule Rule.todoName := by
  have hc : ({} : Config).ruleEnabled Rule.todoName = true := by decide
  obtain ⟨hnone, hmem, -⟩ := plain_report_exact hc sampleSource
  have hblank : (sampleSource.take 40).getLast? = some ' ' := by decide +kernel
  have hstands : TodoMarker.Stands (sampleSource.take 40) (sampleSource.drop 40) := by
    refine ⟨by decide +kernel, fun c hc => ?_⟩
    obtain rfl := Option.some.inj (hblank.symm.trans hc)
    decide
  refine ⟨hc, hnone, (hmem sampleMarker).2 ⟨_, _, ?_, hstands, by decide +kernel⟩⟩
  exact (List.take_append_drop 40 sampleSource).symm

end Linter

end DocLint
