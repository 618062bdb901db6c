import DocLint.Lint.Rule
import DocLint.Markdown.Parse
import DocLint.Proofs.Advancing
import DocLint.Proofs.Lowering
import Mathlib.Data.List.TakeWhile

/-!
# Where the markers of Markdown are reported

The marker rule begins at the place that is given for a text and reads on up to the marker, so the
place of a marker is as good as that of its text. Given places are counted in another way than that
of reading on: a carriage return by itself ends a line, there is a column for each byte, and a tab
fills the columns up to the next stop. The two ways agree only where there is nothing to tell them
apart.

What is told of given places here is told of lines without tabs. How many columns a tab fills depends
on where it stands (`Markdown.Glyph`), so that the place of a text behind a tab on its line is not
`givenPlace`, and the last clause of `marker_place_exact` says nothing of it. The clause before that
does: it compares the place that is given, whatever it is, with that of reading on.

* `Position.advance_alike_iff` — when two readers of the same text end on the same line and column;
* `Markdown.givenPlace` — the place after a text without tabs as it is given for a construct;
* `Markdown.givenPlace_alike_iff` — when that is the place after the text;
* `Markdown.marker_place_exact` — so a marker whose text is not behind a tab is reported where it
  stands exactly if no carriage return by itself is before the text, and no character of several
  bytes before it on its line, unless that line begins inside the text.
-/

namespace DocLint

namespace Position

/-! ## Reading on -/

/-- After a line feed it makes no difference in which column reading began. That is why a wrong
column of a text is set right behind its first line feed. -/
theorem column_advance_of_mem {cs : List Char} (h : '\n' ∈ cs) (p q : Position) :
    (p.advance cs).column = (q.advance cs).column := by
  rw [advance_eq_counted, advance_eq_counted, counted, counted]
  cases hlast : Text.afterLast? '\n' cs with
  | none => exact absurd h (Text.afterLast?_eq_none_iff.1 hlast)
  | some rest => rfl

/-- **Two readers of the same text** end on the same line and column exactly if they begin on the
same line and, as long as no line feed comes, in the same column. -/
theorem advance_alike_iff (p q : Position) (cs : List Char) :
    (p.advance cs).line = (q.advance cs).line ∧ (p.advance cs).column = (q.advance cs).column ↔
      p.line = q.line ∧ ('\n' ∈ cs ∨ p.column = q.column) := by
  rw [line_advance, line_advance, Nat.add_right_cancel_iff]
  by_cases h : '\n' ∈ cs
  · simp [h, column_advance_of_mem h p q]
  · simp [h, column_advance_of_not_mem h]

end Position

namespace Text

/-! ## Line endings and bytes -/

/-- How many carriage returns of a text have no line feed behind them. Each of them ends a line of
Markdown, and none of plain text. -/
def loneReturns : List Char → Nat
  | [] => 0
  | c :: cs => (if c = '\r' ∧ cs.head? ≠ some '\n' then 1 else 0) + loneReturns cs

/-- What stands behind the last line ending of a text, its last character first. -/
def sinceLineEnd (cs : List Char) : List Char :=
  cs.reverse.takeWhile fun c => c ≠ '\r' ∧ c ≠ '\n'

theorem head?_of_loneReturns_eq_zero {cs a b : List Char} (h : loneReturns cs = 0)
    (hcs : cs = a ++ '\r' :: b) : b.head? = some '\n' := by
  subst hcs
  induction a with
  | nil =>
    rw [List.nil_append, loneReturns] at h
    by_contra hne
    rw [if_pos ⟨rfl, hne⟩] at h
    omega
  | cons c a ih =>
    rw [List.cons_append, loneReturns] at h
    exact ih (by omega)

/-- Where every carriage return has its line feed, line feeds alone end the lines. On such a text
both ways to count lines come to the same. -/
theorem sinceLineEnd_eq {cs : List Char} (h : loneReturns cs = 0) :
    sinceLineEnd cs = cs.reverse.takeWhile fun c => c ≠ '\n' := by
  have hnone : '\r' ∉ cs.reverse.takeWhile fun c => c ≠ '\n' := by
    intro hmem
    obtain ⟨x, y, hxy⟩ := List.append_of_mem hmem
    have hcut : cs.reverse.takeWhile (fun c => c ≠ '\n') ++
        cs.reverse.dropWhile (fun c => c ≠ '\n') = cs.reverse := List.takeWhile_append_dropWhile
    generalize cs.reverse.dropWhile (fun c => c ≠ '\n') = later at hcut
    have hcs : cs = (y ++ later).reverse ++ '\r' :: x.reverse := by
      rw [← List.reverse_reverse cs, ← hcut, hxy]
      simp
    -- a line feed comes behind the carriage return, but what is taken has none in it
    have hfeed := List.mem_of_head? (head?_of_loneReturns_eq_zero h hcs)
    have hin : '\n' ∈ cs.reverse.takeWhile fun c => c ≠ '\n' := by
      rw [hxy]
      exact List.mem_append_left _ (List.mem_reverse.1 hfeed)
    simpa using List.mem_takeWhile_imp hin
  have htwice := List.takeWhile_takeWhile (fun c => decide (c ≠ '\r')) (fun c => decide (c ≠ '\n'))
    cs.reverse
  rw [List.takeWhile_eq_self_iff.2] at htwice
  · simpa [sinceLineEnd] using htwice.symm
  · intro c hc
    exact decide_eq_true fun hreturn => hnone (hreturn ▸ hc)

theorem length_le_byteSize (cs : List Char) : cs.length ≤ byteSize cs := by
  induction cs with
  | nil => exact Nat.le_refl _
  | cons c cs ih =>
    have hc : 0 < c.utf8Size := Char.utf8Size_pos c
    rw [List.length_cons, byteSize_cons]
    omega

/-- A text has a byte for each character exactly if no character has more. So columns in bytes are
columns in characters up to the first character that has more. -/
theorem byteSize_eq_length_iff {cs : List Char} :
    byteSize cs = cs.length ↔ ∀ c ∈ cs, c.utf8Size = 1 := by
  induction cs with
  | nil => simp
  | cons c cs ih =>
    have hc : 0 < c.utf8Size := Char.utf8Size_pos c
    have hle := length_le_byteSize cs
    rw [List.forall_mem_cons, ← ih, byteSize_cons, List.length_cons]
    omega

end Text

/-- A diagnostic that is reported at a place: its line, its column and its byte offset are there. -/
structure Diagnostic.ReportedAt (d : Diagnostic) (p : Position) : Prop where
  line : d.line = some p.line
  column : d.column = some p.column
  offset : d.offset = some p.offset

namespace Markdown

open Text

/-! ## Given places

The parser counts columns in bytes, and lines by other endings than those of plain text. Both are
counted of the text before a construct here, to be compared with reading on to the same place. -/

/-- The place after a text as it is given for a construct: a carriage return ends a line if no line
feed comes behind it to do so, and there is a column for each byte. Behind a tab on its line a
construct is given another column, as the tab fills more than one. -/
def givenPlace (before : List Char) : Position where
  line := 1 + before.count '\n' + loneReturns before
  column := 1 + byteSize (sinceLineEnd before)
  offset := byteSize before

/-- **Given places are right where the two ways of counting cannot be told apart**: no carriage
return stands by itself and, where it matters, no character on the line has several bytes. -/
theorem givenPlace_alike_iff (before : List Char) (feed : Prop) :
    (givenPlace before).line = (Position.after before).line ∧
        (feed ∨ (givenPlace before).column = (Position.after before).column) ↔
      loneReturns before = 0 ∧ (feed ∨ ∀ c ∈ sinceLineEnd before, c.utf8Size = 1) := by
  have hline : (givenPlace before).line = (Position.after before).line ↔
      loneReturns before = 0 := by
    simp only [givenPlace, Position.after]
    omega
  rw [hline, and_congr_right_iff]
  intro hreturns
  have hcolumn : (givenPlace before).column = (Position.after before).column ↔
      ∀ c ∈ sinceLineEnd before, c.utf8Size = 1 := by
    rw [← byteSize_eq_length_iff]
    simp only [givenPlace, Position.after, sinceLineEnd_eq hreturns]
    omega
  rw [hcolumn]

/-! ## Texts -/

/-- The spans of the texts in a tree of constructs, as the parser of Markdown has placed them. -/
def Tree.textSpans (tree : Tree) : List Span :=
  ((occurrencesAll [] tree.children).filter (·.construct = .text)).map fun o => o.span.getD {}

/-- Text nodes come from text constructs, and have their spans: lowering moves nothing. -/
theorem Tree.span_mem_textSpans {source : List Char} {tree : Tree} {node : Node}
    (hnode : node ∈ (tree.document source).preorder) (hstr : node.kind = .str) :
    node.span ∈ tree.textSpans := by
  have hmem : (node.kind, node.span, node.value) ∈
      (tree.document source).preorder.map fun n => (n.kind, n.span, n.value) :=
    List.mem_map_of_mem hnode
  rw [map_preorder_document, hstr] at hmem
  rcases List.mem_cons.1 hmem with hdocument | hmem
  · cases hdocument
  · obtain ⟨e, he, heq⟩ := List.mem_map.1 hmem
    obtain ⟨o, ho, hentry⟩ := List.mem_filterMap.1 he
    obtain ⟨kind, hkind, rfl⟩ := Option.map_eq_some_iff.1 hentry
    simp only [Prod.mk.injEq] at heq
    obtain ⟨rfl, hspan, -⟩ := heq
    have htext : o.construct = .text := by
      cases hc : o.construct <;> rw [hc] at hkind <;> cases hkind
    refine List.mem_map.2 ⟨o, List.mem_filter.2 ⟨ho, decide_eq_true htext⟩, hspan⟩

/-- A marker that is reported stands in a text, and is reported where reading on from the start of
the text leads. -/
theorem exists_text_of_mem_check {source : List Char} {tree : Tree} {d : Diagnostic}
    (hd : d ∈ NodeRule.todoMarkers.check source (tree.document source)) :
    ∃ span ∈ tree.textSpans, ∃ gap rest,
      slice? source span.start.offset span.stop.offset = some (gap ++ rest) ∧
        d.message = TodoMarker.message rest ∧ d.ReportedAt (span.start.advance gap) := by
  obtain ⟨node, hnode, hd⟩ := List.mem_flatMap.1 hd
  simp only [NodeRule.checkNode] at hd
  split at hd
  · rename_i hstr
    obtain ⟨⟨q, rest⟩, hscan, rfl⟩ := List.mem_map.1 hd
    obtain ⟨gap, hraw, hne, rfl⟩ := TodoMarker.of_mem_scan hscan
    refine ⟨node.span, Tree.span_mem_textSpans hnode hstr, gap, rest, ?_, rfl, rfl, rfl, rfl⟩
    cases hslice : slice? source node.span.start.offset node.span.stop.offset with
    | none =>
      rw [Node.raw, hslice] at hraw
      exact absurd hraw.symm (List.append_ne_nil_of_right_ne_nil gap hne)
    | some part =>
      rw [Node.raw, hslice] at hraw
      exact congrArg some hraw
  · cases hd

/-- A text of a source in parts: what comes before the text, and the two parts of what it covers. -/
structure TextParts (source : List Char) (span : Span) (before gap rest : List Char) : Prop where
  whole : before ++ (gap ++ rest) <+: source
  start : span.start.offset = byteSize before
  text : slice? source span.start.offset span.stop.offset = some (gap ++ rest)

/-! ## The theorem -/

/-- **Where the markers of Markdown are reported.** Let the texts in a tree of constructs start at
byte offsets of the source. Then the byte offset of every marker is right, and its line and column
are right exactly if those given for its text are, of which the column does not matter if a line
feed stands between them. If that place is given with a column for each byte, as it is for constructs
that are not behind a tab, this is so exactly if no carriage return by itself is before the text, and
no character of several bytes before it on its line unless a line feed stands between the start of
the text and the marker. -/
theorem marker_place_exact {source : List Char} {tree : Tree}
    (htexts : ∀ span ∈ tree.textSpans, ∃ before, before <+: source ∧
      span.start.offset = byteSize before)
    {d : Diagnostic} (hd : d ∈ NodeRule.todoMarkers.check source (tree.document source)) :
    ∃ span ∈ tree.textSpans, ∃ before gap rest, TextParts source span before gap rest ∧
      d.message = TodoMarker.message rest ∧
      d.offset = some (Position.after (before ++ gap)).offset ∧
      (d.ReportedAt (Position.after (before ++ gap)) ↔
        span.start.line = (Position.after before).line ∧
          ('\n' ∈ gap ∨ span.start.column = (Position.after before).column)) ∧
      (span.start = givenPlace before →
        (d.ReportedAt (Position.after (before ++ gap)) ↔
          loneReturns before = 0 ∧ ('\n' ∈ gap ∨ ∀ c ∈ sinceLineEnd before, c.utf8Size = 1))) := by
  obtain ⟨span, hspan, gap, rest, hslice, hmessage, hplaced⟩ := exists_text_of_mem_check hd
  obtain ⟨before, ⟨later, rfl⟩, hoffset⟩ := htexts span hspan
  have hparts : TextParts (before ++ later) span before gap rest := by
    refine ⟨(List.prefix_append_right_inj before).2 ?_, hoffset, hslice⟩
    rw [hoffset] at hslice
    exact prefix_of_slice? hslice
  have hplace : Position.after (before ++ gap) = (Position.after before).advance gap :=
    Position.after_append before gap
  have hbytes : (span.start.advance gap).offset = (Position.after (before ++ gap)).offset := by
    rw [Position.offset_advance, hoffset, ← byteSize_append]
    rfl
  have halike : d.ReportedAt (Position.after (before ++ gap)) ↔
      span.start.line = (Position.after before).line ∧
        ('\n' ∈ gap ∨ span.start.column = (Position.after before).column) := by
    -- both sides read `gap`: one from the place given for the text, one from where the text is
    rw [← Position.advance_alike_iff, ← hplace]
    constructor
    · intro h
      exact ⟨Option.some.inj (hplaced.line.symm.trans h.line),
        Option.some.inj (hplaced.column.symm.trans h.column)⟩
    · rintro ⟨hline, hcolumn⟩
      exact ⟨hplaced.line.trans (congrArg some hline), hplaced.column.trans (congrArg some hcolumn),
        hplaced.offset.trans (congrArg some hbytes)⟩
  refine ⟨span, hspan, before, gap, rest, hparts, hmessage,
    hplaced.offset.trans (congrArg some hbytes), halike, ?_⟩
  intro hgiven
  rw [halike, hgiven]
  exact givenPlace_alike_iff before ('\n' ∈ gap)

/-! ## A marker behind characters of two bytes -/

/-- A line with a character of two bytes before its emphasis and one behind it, then a marker. -/
def accentLine : List Char := "é *x* é TODO: y".toList

/-- What is reported of it, with the column that the place of its text and the way to the marker add
up to. -/
def accentMarker : Diagnostic where
  rule := "no-todo"
  category := "content"
  message := "Found TODO: 'TODO: y'"
  severity := .warning
  line := some 1
  column := some 10
  offset := some 10

theorem textSpans_accentLine :
    (tree accentLine).textSpans =
      [⟨⟨1, 1, 0⟩, ⟨1, 4, 3⟩⟩, ⟨⟨1, 5, 4⟩, ⟨1, 6, 5⟩⟩, ⟨⟨1, 7, 6⟩, ⟨1, 18, 17⟩⟩] := by
  decide +kernel

/-- Only one text before a place of the line has the bytes before that place, so each text of the
line is given the place with a column for each byte. -/
theorem start_eq_givenPlace {span : Span} {before : List Char}
    (hspan : span ∈ (tree accentLine).textSpans) (hbefore : before <+: accentLine)
    (hstart : span.start.offset = byteSize before) : span.start = givenPlace before := by
  obtain ⟨later, hlater⟩ := hbefore
  have htake : takeBytes? span.start.offset accentLine = some before := by
    rw [hstart, ← hlater, takeBytes?_append]
  rw [textSpans_accentLine, List.mem_cons, List.mem_cons, List.mem_singleton] at hspan
  rcases hspan with rfl | rfl | rfl
  · obtain rfl := Option.some.inj (htake.symm.trans (by decide : _ = some []))
    decide
  · obtain rfl := Option.some.inj (htake.symm.trans (by decide : _ = some "é *".toList))
    decide
  · obtain rfl := Option.some.inj (htake.symm.trans (by decide : _ = some "é *x*".toList))
    decide

/-- The texts of the line start at byte offsets of it, and the marker is in one of them, which is
given its place with a column for each byte. -/
theorem accentMarker_place :
    (∀ span ∈ (tree accentLine).textSpans, ∃ before, before <+: accentLine ∧
        span.start.offset = byteSize before) ∧
      accentMarker ∈ NodeRule.todoMarkers.check accentLine (parse accentLine) ∧
      ∃ span ∈ (tree accentLine).textSpans, ∃ before gap rest,
        TextParts accentLine span before gap rest ∧ span.start = givenPlace before ∧
        (accentMarker.ReportedAt (Position.after (before ++ gap)) ↔
          loneReturns before = 0 ∧
            ('\n' ∈ gap ∨ ∀ c ∈ sinceLineEnd before, c.utf8Size = 1)) := by
  have htexts : ∀ span ∈ (tree accentLine).textSpans, ∃ before, before <+: accentLine ∧
      span.start.offset = byteSize before := by
    rw [textSpans_accentLine]
    simp only [List.forall_mem_cons]
    refine ⟨⟨[], List.nil_prefix, rfl⟩, ⟨"é *".toList, ?_, rfl⟩, ⟨"é *x*".toList, ?_, rfl⟩, ?_⟩
    · decide
    · decide
    · exact List.forall_mem_nil _
  have hd : accentMarker ∈ NodeRule.todoMarkers.check accentLine (parse accentLine) := by
    decide +kernel
  obtain ⟨span, hspan, before, gap, rest, hparts, -, -, -, hgiven⟩ := marker_place_exact htexts hd
  have hstart := start_eq_givenPlace hspan ((List.prefix_append ..).trans hparts.whole) hparts.start
  exact ⟨htexts, hd, span, hspan, before, gap, rest, hparts, hstart, hgiven hstart⟩

/-- **The two ways of counting get mixed up**: the text with the marker is given in column 7 as the
reader of constructs counts, and from there on the rule counts characters. The marker stands in
column 9 and is reported in column 10, while by its bytes alone it would be in column 11. -/
theorem accentMarker_misplaced :
    NodeRule.todoMarkers.check accentLine (parse accentLine) = [accentMarker] ∧
      (tree accentLine).textSpans.map Span.start =
        ["".toList, "é *".toList, "é *x*".toList].map givenPlace ∧
      "é *x* é ".toList <+: accentLine ∧ Position.after "é *x* é ".toList = ⟨1, 9, 10⟩ ∧
      ¬accentMarker.ReportedAt (Position.after "é *x* é ".toList) := by
  refine ⟨?_, ?_, ?_, ?_, ?_⟩
  · decide +kernel
  · decide +kernel
  · decide
  · decide
  · intro h
    exact absurd h.column (by decide)

end Markdown

end DocLint
