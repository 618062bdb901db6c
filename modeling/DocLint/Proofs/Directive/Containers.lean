import DocLint.Proofs.Directive.RuleIds
import DocLint.Proofs.Suppression
import DocLint.Text.Container
import Mathlib.Data.Finset.Max

/-!
# Directives inside containers

Raw markup is read with the marks of the containers it stands in. They never hide a comment or a
keyword, but they can get among the ids: blanks into an id that is broken between two lines, and the
sign of a quote into whatever stands around a line break.

* `RuleIds.Intact` — the lists that the marks do not get into;
* `RuleIds.parse_inContainer_iff` — these are the ones that are read as before;
* `Directive.list?_inContainer` — the list that counts is the same one, with marks in it;
* `Suppressor.visit_inContainer` — so a directive reads as outside exactly if its list is intact.
-/

namespace DocLint

namespace RuleIds

open Text

variable {marks : List Char}

/-! ## Ids in a container

The marks stand behind every line feed. Behind one that breaks an id they become a part of the id.
Between two ids they are blanks among blanks, unless a quote sign is one of them, which is an id
then or belongs to one. -/

/-- **Blank marks get into the ids that are broken between two lines**, and nowhere else. -/
theorem names_inContainer (hmarks : ∀ c ∈ marks, isBlank c = true) (cs : List Char) :
    names (inContainer marks cs) =
      (names cs).map fun id => String.ofList (inContainer marks id.toList) := by
  have hcomma : ',' ∉ marks := fun h => ne_comma_of_isBlank (hmarks _ h) rfl
  have htrim : ((pieces ',' cs).map (inContainer marks)).map trim =
      ((pieces ',' cs).map trim).map (inContainer marks) := by
    rw [List.map_map, List.map_map]
    exact List.map_congr_left fun piece _ => trim_inContainer hmarks piece
  rw [names, pieces_inContainer (by decide) hcomma, htrim, names, List.filterMap_map,
    List.map_filterMap]
  congr 1
  funext piece
  cases piece with
  | nil => rfl
  | cons c piece =>
    have hne : (inContainer marks (c :: piece)).isEmpty = false := by
      rw [List.isEmpty_eq_false_iff, ne_eq, ← List.head?_eq_none_iff, head?_inContainer]
      exact Option.some_ne_none c
    simp only [Function.comp_apply, hne, Bool.false_eq_true, if_false, List.isEmpty_cons,
      Option.map_some, String.toList_ofList]

/-- What is neither blank nor a comma is part of some id, so that a mark of a container that is none
of these shows up among the ids. -/
theorem exists_mem_names {c : Char} {cs : List Char} (hc : c ∈ cs) (hblank : isBlank c = false)
    (hcomma : c ≠ ',') : ∃ id ∈ names cs, c ∈ id.toList := by
  have hpieces : c ∈ (pieces ',' cs).flatten := by
    rw [flatten_pieces]
    exact List.mem_filter.2 ⟨hc, decide_eq_true hcomma⟩
  obtain ⟨piece, hpiece, hmem⟩ := List.mem_flatten.1 hpieces
  have htrim : c ∈ trim piece := by
    obtain ⟨lead, tail, hcut, hlead, htail⟩ := exists_eq_append_trim piece
    rw [hcut, List.mem_append, List.mem_append] at hmem
    rcases hmem with hmem | hmem | hmem
    · exact absurd (hlead c hmem) (Bool.eq_false_iff.1 hblank)
    · exact hmem
    · exact absurd (htail c hmem) (Bool.eq_false_iff.1 hblank)
  refine ⟨String.ofList (trim piece), mem_names_iff.2 ⟨?_, piece, hpiece, rfl⟩, ?_⟩
  · rw [ne_eq, String.ofList_eq_empty_iff]
    exact List.ne_nil_of_mem htrim
  · rwa [String.toList_ofList]

/-- No character of an id is new: cutting at the commas and trimming only take characters away. -/
theorem mem_of_mem_names {c : Char} {cs : List Char} {id : String} (h : id ∈ names cs)
    (hc : c ∈ id.toList) : c ∈ cs := by
  obtain ⟨-, piece, hpiece, rfl⟩ := mem_names_iff.1 h
  rw [String.toList_ofList] at hc
  have hpieces : c ∈ (pieces ',' cs).flatten :=
    List.mem_flatten.2 ⟨piece, hpiece, mem_of_mem_trim hc⟩
  rw [flatten_pieces] at hpieces
  exact (List.mem_filter.1 hpieces).1

/-- A list of ids that the marks of a container do not get into: no id is broken between two lines,
and in a quote the whole list is on one line. -/
structure Intact (marks list : List Char) : Prop where
  ids : ∀ id ∈ parse list, '\n' ∉ id.toList
  quoted : '>' ∈ marks → '\n' ∉ list

theorem isBlank_of_not_quoted (hmarks : ∀ c ∈ marks, c = '>' ∨ c = ' ') (h : '>' ∉ marks) :
    ∀ c ∈ marks, isBlank c = true := by
  intro c hc
  rcases hmarks c hc with rfl | rfl
  · exact absurd hc h
  · rfl

/-- **An intact list is read as outside**: in a quote it is on one line and has no marks in it, and
elsewhere the marks are spaces between ids, which are no part of any. -/
theorem Intact.parse_inContainer {list : List Char} (h : Intact marks list)
    (hmarks : ∀ c ∈ marks, c = '>' ∨ c = ' ') : parse (inContainer marks list) = parse list := by
  by_cases hquote : '>' ∈ marks
  · rw [inContainer_of_not_mem (h.quoted hquote)]
  · have hsame : (names list).map (fun id => String.ofList (inContainer marks id.toList)) =
        names list := by
      refine (List.map_congr_left fun id hid => ?_).trans (List.map_id _)
      have hline : '\n' ∉ id.toList := h.ids id (by rw [parse_eq]; exact mem_ofList.2 hid)
      rw [inContainer_of_not_mem hline, String.ofList_toList, id_eq]
    rw [parse_eq, names_inContainer (isBlank_of_not_quoted hmarks hquote), hsame, ← parse_eq]

/-- Ids that blank marks get into grow, so that a set of ids with a broken one does not stay what it
was. -/
theorem one_line_of_parse_inContainer {list : List Char} (hne : marks ≠ [])
    (hblank : ∀ c ∈ marks, isBlank c = true)
    (h : parse (inContainer marks list) = parse list) : ∀ id ∈ parse list, '\n' ∉ id.toList := by
  intro id hid hbreak
  -- of the broken ids the longest becomes one that is longer still
  let broken := (parse list).toFinset.filter fun id => '\n' ∈ id.toList
  have hmem {x : String} : x ∈ broken ↔ x ∈ parse list ∧ '\n' ∈ x.toList := by
    rw [Finset.mem_filter, List.mem_toFinset]
  obtain ⟨x, hx, hlongest⟩ := Finset.exists_max_image broken (fun id => id.toList.length)
    ⟨id, hmem.2 ⟨hid, hbreak⟩⟩
  obtain ⟨hx, hxbreak⟩ := hmem.1 hx
  have hgrown : String.ofList (inContainer marks x.toList) ∈ parse list := by
    rw [← h, parse_eq, mem_ofList, names_inContainer hblank]
    rw [parse_eq, mem_ofList] at hx
    exact List.mem_map_of_mem hx
  have hgrownBreak : '\n' ∈ (String.ofList (inContainer marks x.toList)).toList := by
    rw [String.toList_ofList]
    exact List.mem_flatMap.2 ⟨'\n', hxbreak, List.mem_cons_self ..⟩
  have hle := hlongest _ (hmem.2 ⟨hgrown, hgrownBreak⟩)
  have hlt := length_lt_inContainer hne hxbreak
  rw [String.toList_ofList] at hle
  omega

/-- **Only intact lists are read as outside**, as far as no quote sign was in them before. -/
theorem parse_inContainer_iff {list : List Char} (hmarks : ∀ c ∈ marks, c = '>' ∨ c = ' ')
    (hne : marks ≠ []) (hlist : '>' ∉ list) :
    parse (inContainer marks list) = parse list ↔ Intact marks list := by
  refine ⟨fun h => ?_, fun h => h.parse_inContainer hmarks⟩
  have hquoted : '>' ∈ marks → '\n' ∉ list := by
    -- the sign would be part of an id in the container
    intro hquote hbreak
    obtain ⟨id, hid, hsign⟩ :=
      exists_mem_names (mem_inContainer_of_mem hbreak hquote) (by decide) (by decide)
    have hin : id ∈ parse (inContainer marks list) := by
      rw [parse_eq]
      exact mem_ofList.2 hid
    rw [h, parse_eq, mem_ofList] at hin
    exact hlist (mem_of_mem_names hin hsign)
  refine ⟨?_, hquoted⟩
  by_cases hquote : '>' ∈ marks
  · intro id hid hbreak
    rw [parse_eq, mem_ofList] at hid
    exact hquoted hquote (mem_of_mem_names hid hbreak)
  · exact one_line_of_parse_inContainer hne (isBlank_of_not_quoted hmarks hquote) h

end RuleIds

namespace Comments

open Text

/-! ## Comments in a container

A delimiter has no line feed in it, and does not begin with a character that is a mark. So none is
torn apart by marks, and none is put together by them. -/

theorem apart_of_marks {marks ws : List Char} {w : Char}
    (hmarks : ∀ c ∈ marks, c = '>' ∨ c = ' ') (hline : '\n' ∉ w :: ws) (hquote : w ≠ '>')
    (hblank : w ≠ ' ') : Apart marks (w :: ws) := by
  refine ⟨hline, fun c hc hmem => ?_⟩
  obtain rfl := Option.some.inj hc
  rcases hmarks _ hmem with h | h
  · exact hquote h
  · exact hblank h

theorem first?_inContainer {marks : List Char} (hmarks : ∀ c ∈ marks, c = '>' ∨ c = ' ')
    (cs : List Char) :
    first? (inContainer marks cs) =
      (first? cs).map (Prod.map (inContainer marks) (inContainer marks)) := by
  have hopening : Apart marks opening := apart_of_marks hmarks (by decide) (by decide) (by decide)
  have hclosing : Apart marks closing := apart_of_marks hmarks (by decide) (by decide) (by decide)
  rw [first?, hopening.splitOnce?_inContainer, first?]
  cases splitOnce? opening cs with
  | none => rfl
  | some found => exact hclosing.splitOnce?_inContainer found.2

/-- **A container hides no comment and brings none in**: it only gets into the bodies. -/
theorem bodies_inContainer {marks : List Char} (hmarks : ∀ c ∈ marks, c = '>' ∨ c = ' ')
    (cs : List Char) :
    bodies (inContainer marks cs) = (bodies cs).map (inContainer marks) := by
  have hfirst := first?_inContainer hmarks cs
  cases h : first? cs with
  | none =>
    rw [h] at hfirst
    rw [bodies_eq_nil hfirst, bodies_eq_nil h, List.map_nil]
  | some found =>
    obtain ⟨body, rest⟩ := found
    rw [h] at hfirst
    have hshorter := length_of_first? h
    have hrest := bodies_inContainer hmarks rest
    rw [bodies_eq_cons hfirst, bodies_eq_cons h, List.map_cons, hrest]
termination_by cs.length

end Comments

namespace Directive

open Text

/-! ## The list that counts -/

/-- The text that is read as the ids of the directive in some markup: what follows the keyword in
the last comment that has the keyword in it. -/
def list? (keyword : String) (text : List Char) : Option (List Char) :=
  if keyword.isEmpty then none
  else (Comments.bodies text).reverse.findSome? fun body =>
    (splitOnce? keyword.toList body).map Prod.snd

theorem findSome?_parse? (keyword : String) (text : List Char) :
    (Comments.bodies text).reverse.findSome? (parse? keyword) =
      (list? keyword text).map fun list => ⟨RuleIds.parse list⟩ := by
  rw [list?]
  cases hk : keyword.isEmpty with
  | true =>
    have hnone : parse? keyword = fun _ => none := by
      funext body
      rw [parse?, hk, if_pos rfl]
    rw [hnone, if_pos rfl, List.findSome?_eq_none_iff.2 fun _ _ => rfl, Option.map_none]
  | false =>
    have hsome : parse? keyword = fun body => ((splitOnce? keyword.toList body).map Prod.snd).map
        fun list => ⟨RuleIds.parse list⟩ := by
      funext body
      rw [parse?, hk, if_neg Bool.false_ne_true, Option.map_map]
      rfl
    rw [hsome, if_neg Bool.false_ne_true, List.map_findSome?]
    rfl

/-- **In a container the same list counts**, with the marks in it. It stands behind the same keyword
in the same comment, since the marks neither hide a keyword nor complete one. -/
theorem list?_inContainer {marks : List Char} (hmarks : ∀ c ∈ marks, c = '>' ∨ c = ' ')
    {keyword : String} (hkeyword : Apart marks keyword.toList) (text : List Char) :
    list? keyword (inContainer marks text) = (list? keyword text).map (inContainer marks) := by
  rw [list?, list?]
  cases keyword.isEmpty with
  | true => rfl
  | false =>
    have hafter (body : List Char) :
        (splitOnce? keyword.toList (inContainer marks body)).map Prod.snd =
          ((splitOnce? keyword.toList body).map Prod.snd).map (inContainer marks) := by
      rw [hkeyword.splitOnce?_inContainer, Option.map_map, Option.map_map]
      rfl
    rw [if_neg Bool.false_ne_true, if_neg Bool.false_ne_true, Comments.bodies_inContainer hmarks,
      ← List.map_reverse, List.findSome?_map, List.map_findSome?]
    congr 1
    funext body
    exact hafter body

end Directive

namespace Suppressor

open Text

/-! ## The theorem -/

/-- After raw markup a directive with the ids of the list that counts is pending. Without such a
list there is what is left of the directive that waited for this node. -/
theorem pending_visit_of_list? {node : Node} (hkind : node.kind = .html) (s : Suppressor) :
    (s.visit node).pending =
      (Directive.list? s.keyword (markupText s.source node)).elim s.pending.take.2
        fun list => ⟨true, RuleIds.parse list⟩ := by
  rw [pending_visit_html hkind, Directive.findSome?_parse?]
  cases Directive.list? s.keyword (markupText s.source node) <;> rfl

/-- Raw markup that covers one text of a source and has another one for its value. In a container
the two differ, as there are no marks in the value. -/
structure Covers (source : List Char) (node : Node) (raw value : List Char) : Prop where
  kind : node.kind = .html
  raw : node.raw source = raw
  value : node.value = some (String.ofList value)

/-- Markup is read as what it covers, if it has a text for its value only where it covers one. -/
theorem Covers.markupText {source raw value : List Char} {node : Node}
    (h : Covers source node raw value) (hvalue : raw = [] → value = []) :
    markupText source node = raw := by
  rw [Suppressor.markupText, valueText, h.raw, h.value]
  cases raw with
  | nil => rw [hvalue rfl]; rfl
  | cons c cs => rfl

theorem Covers.candidates {source raw value : List Char} {node : Node}
    (h : Covers source node raw value) (hvalue : raw = [] → value = []) :
    candidates source node = Comments.bodies raw := by
  rw [Suppressor.candidates, h.kind, ← h.markupText hvalue]
  rfl

/-- **A directive reads as outside exactly if its list is intact.** Let the lines of some markup
stand in a container, whose marks are quote signs and spaces, and let the same lines stand outside
any. What may be a directive in there is what may be one outside, with the marks in it; without line
breaks in it there are none. A keyword that the marks cannot begin is found in the same places, so
that a directive is read in the container exactly if one is read outside. It is meant for the same
rules if no id is broken between two lines and, in a quote, the list of ids is on one line; and only
then, if there are marks and no quote sign was among the ids before. -/
theorem visit_inContainer (s : Suppressor) (outside : List Char) {inner outer : Node}
    {marks : List Char} {lines : List (List Char)} (hmarks : ∀ c ∈ marks, c = '>' ∨ c = ' ')
    (hlines : ∀ l ∈ lines, '\n' ∉ l)
    (hinner : Covers s.source inner (('\n' :: marks).intercalate lines) (['\n'].intercalate lines))
    (houter : Covers outside outer (['\n'].intercalate lines) (['\n'].intercalate lines)) :
    candidates s.source inner = (candidates outside outer).map (inContainer marks) ∧
    ((∀ body ∈ candidates outside outer, '\n' ∉ body) →
      (s.visit inner).pending = ({ s with source := outside }.visit outer).pending) ∧
    (Apart marks s.keyword.toList →
      (s.visit inner).pending.active = ({ s with source := outside }.visit outer).pending.active ∧
      ((∀ list ∈ Directive.list? s.keyword (['\n'].intercalate lines), RuleIds.Intact marks list) →
        (s.visit inner).pending = ({ s with source := outside }.visit outer).pending) ∧
      (marks ≠ [] → (∀ list ∈ Directive.list? s.keyword (['\n'].intercalate lines), '>' ∉ list) →
        (s.visit inner).pending = ({ s with source := outside }.visit outer).pending →
        ∀ list ∈ Directive.list? s.keyword (['\n'].intercalate lines),
          RuleIds.Intact marks list)) := by
  rw [← inContainer_intercalate hlines] at hinner
  generalize ['\n'].intercalate lines = text at hinner houter ⊢
  -- marks alone make no text, so that in the container, too, the markup is read as what it covers
  have hvalue : inContainer marks text = [] → text = [] := by
    intro h
    rw [← List.head?_eq_none_iff, head?_inContainer] at h
    exact List.head?_eq_none_iff.1 h
  have hin := hinner.candidates hvalue
  have hout := houter.candidates id
  -- every body that is found in the container is one from outside with the marks in it
  have hbodies := Comments.bodies_inContainer hmarks text
  rw [hin, hout, pending_visit_of_list? hinner.kind, pending_visit_of_list? houter.kind,
    hinner.markupText hvalue, houter.markupText id]
  refine ⟨hbodies, fun hline => ?_, fun hkeyword => ?_⟩
  · -- bodies on one line have no marks in them: the very same ones are read on both sides
    have hsame : Comments.bodies (inContainer marks text) = Comments.bodies text := by
      rw [hbodies]
      refine (List.map_congr_left fun body hbody => ?_).trans (List.map_id _)
      rw [inContainer_of_not_mem (hline body hbody), id_eq]
    rw [Directive.list?, hsame, ← Directive.list?]
  · -- the same list counts on both sides, so all that may differ is how it is read
    rw [Directive.list?_inContainer hmarks hkeyword]
    cases Directive.list? s.keyword text with
    | none => exact ⟨rfl, fun _ => rfl, fun _ _ _ list hlist => by cases hlist⟩
    | some list =>
      refine ⟨rfl, fun hintact => ?_, fun hne hsign hsame list' hlist => ?_⟩
      · -- an intact list is read as it is outside
        have hread := (hintact list rfl).parse_inContainer hmarks
        simp only [Option.map_some, Option.elim_some, hread]
      · -- and one that is read as it is outside was intact, for the ids would tell the difference
        obtain rfl := Option.some.inj hlist
        have hread : RuleIds.parse (inContainer marks list) = RuleIds.parse list :=
          congrArg Pending.ruleIds hsame
        exact (RuleIds.parse_inContainer_iff hmarks hne (hsign list rfl)).1 hread

/-! ## A directive on two lines -/

/-- A directive for every rule, closed on a line of its own. All that stands behind the keyword is
the line break. -/
def twoLines : List (List Char) := ["<!--k".toList, "-->".toList]

/-- A suppressor for a source that has the two lines in it, behind the given texts. -/
def twoLinesBehind (first marks : List Char) : Suppressor where
  source := first ++ ('\n' :: marks).intercalate twoLines
  keyword := "k"

/-- The markup of the two lines, behind texts of the given length. -/
def twoLinesMarkup (width : Nat) : Node :=
  .leaf .html ⟨⟨1, 1 + width, width⟩, ⟨2, 4 + width, 9 + 2 * width⟩⟩ "<!--k\n-->"

/-- In a list item the two lines are read as outside: the marks are blank there, and so is the list,
so that no id is broken between them. -/
theorem twoLines_alike_in_item :
    Covers (twoLinesBehind "- ".toList "  ".toList).source (twoLinesMarkup 2)
        (('\n' :: "  ".toList).intercalate twoLines) (['\n'].intercalate twoLines) ∧
      Covers (twoLinesBehind [] []).source (twoLinesMarkup 0)
        (['\n'].intercalate twoLines) (['\n'].intercalate twoLines) ∧
      ((twoLinesBehind "- ".toList "  ".toList).visit (twoLinesMarkup 2)).pending =
        ((twoLinesBehind [] []).visit (twoLinesMarkup 0)).pending := by
  have hmarks : ∀ c ∈ "  ".toList, c = '>' ∨ c = ' ' := by simp
  have hlines : ∀ l ∈ twoLines, '\n' ∉ l := by decide
  have hinner : Covers (twoLinesBehind "- ".toList "  ".toList).source (twoLinesMarkup 2)
      (('\n' :: "  ".toList).intercalate twoLines) (['\n'].intercalate twoLines) :=
    ⟨rfl, by decide +kernel, rfl⟩
  have houter : Covers (twoLinesBehind [] []).source (twoLinesMarkup 0)
      (['\n'].intercalate twoLines) (['\n'].intercalate twoLines) :=
    ⟨rfl, by decide +kernel, rfl⟩
  have hkeyword : Apart "  ".toList "k".toList := by decide
  have hlist : Directive.list? "k" (['\n'].intercalate twoLines) = some ['\n'] := by decide +kernel
  have hread := (visit_inContainer (twoLinesBehind "- ".toList "  ".toList)
    (twoLinesBehind [] []).source hmarks hlines hinner houter).2.2 hkeyword
  refine ⟨hinner, houter, hread.2.1 fun list h => ?_⟩
  obtain rfl := Option.some.inj (hlist.symm.trans h)
  refine ⟨?_, ?_⟩ <;> decide +kernel

/-- **In a quote they are not**: the sign of the quote is read as an id, and the directive that was
meant for every rule is meant for a rule of that name. -/
theorem twoLines_differ_in_quote :
    Covers (twoLinesBehind "> ".toList "> ".toList).source (twoLinesMarkup 2)
        (('\n' :: "> ".toList).intercalate twoLines) (['\n'].intercalate twoLines) ∧
      Covers (twoLinesBehind [] []).source (twoLinesMarkup 0)
        (['\n'].intercalate twoLines) (['\n'].intercalate twoLines) ∧
      ((twoLinesBehind "> ".toList "> ".toList).visit (twoLinesMarkup 2)).pending =
        ⟨true, [">"]⟩ ∧
      ((twoLinesBehind [] []).visit (twoLinesMarkup 0)).pending = ⟨true, []⟩ := by
  refine ⟨⟨rfl, ?_, rfl⟩, ⟨rfl, ?_, rfl⟩, ?_, ?_⟩ <;> decide +kernel

end Suppressor

end DocLint
