import DocLint.Document.Parse
import DocLint.Proofs.Reach
import DocLint.Tree.Serial

/-!
# Scopes as they are shown

A range is serialized with its scope as a text: a star for every rule, any other text for the rule
of that id. The ids come from directives, where an id may be any text without a comma, a star among
them. A range for the rule of that name is then shown as one for every rule, so who reads the ranges
takes more rules to be ignored than are. Nothing else is lost: the two ends of a range are numbers,
and every other id is shown as itself.

* `Scope.applies_ofShown_iff` — what a scope that is read applies to;
* `IgnoreRange.ofJson?_toJson` — what a serialized range is read as;
* `NextNodeFilter.namesStar_iff` — a directive that names a star, told by the ranges it leaves;
* `NextNodeFilter.shown_scopes_exact` — the theorem, and `starNote_shown_as_everyNote`: a star that
  is an id and one that is not.
-/

namespace DocLint

namespace Scope

/-- The scope that a text shows. A reader of a report has nothing else to go by. -/
def ofShown (shown : String) : Scope := if shown = "*" then .all else .rule shown

/-- **A scope is read as it was meant**, but for the rule that is named as every rule is shown. -/
theorem applies_ofShown_iff (s : Scope) (rule : String) :
    (ofShown s.display).applies rule = true ↔ s.applies rule = true ∨ s = .rule "*" := by
  cases s with
  | all => simp [ofShown, display, applies]
  | rule id =>
    by_cases hid : id = "*"
    · simp [ofShown, display, applies, hid]
    · simp [ofShown, display, applies, hid]

end Scope

namespace IgnoreRange

/-- A range read from an object that has both ends and the text of a scope. -/
def ofJson? : Json → Option IgnoreRange
  | .obj fields =>
    match Position.number? fields "start", Position.number? fields "end",
        Json.field? fields "scope" with
    | some start, some stop, some (.str shown) => some ⟨start, stop, Scope.ofShown shown⟩
    | _, _, _ => none
  | _ => none

/-- A serialized range is read with its own ends and the scope that is shown. -/
theorem ofJson?_toJson (r : IgnoreRange) :
    ofJson? r.toJson = some ⟨r.start, r.stop, Scope.ofShown r.scope.display⟩ := by
  simp [toJson, ofJson?, Position.number?, Json.field?]

/-- Whether some range covers a rule at an offset, as far as serialized ranges tell. -/
def anyShownCovers (shown : List Json) (rule : String) (offset : Nat) : Bool :=
  shown.any fun v => (ofJson? v).any (·.covers rule offset)

theorem anyShownCovers_iff {ranges : List IgnoreRange} {rule : String} {offset : Nat} :
    anyShownCovers (ranges.map toJson) rule offset = true ↔
      anyCovers ranges rule offset = true ∨
        ∃ r ∈ ranges, r.scope = .rule "*" ∧ r.start ≤ offset ∧ offset < r.stop := by
  have hread (r : IgnoreRange) : (ofJson? r.toJson).any (·.covers rule offset) = true ↔
      r.covers rule offset = true ∨ (r.scope = .rule "*" ∧ r.start ≤ offset ∧ offset < r.stop) := by
    rw [ofJson?_toJson, Option.any_some, covers, covers]
    simp only [Bool.and_eq_true, decide_eq_true_eq, Scope.applies_ofShown_iff]
    constructor
    · rintro ⟨hin, happlies | hstar⟩
      · exact .inl ⟨hin, happlies⟩
      · exact .inr ⟨hstar, hin⟩
    · rintro (⟨hin, happlies⟩ | ⟨hstar, hin⟩)
      · exact ⟨hin, .inl happlies⟩
      · exact ⟨hin, .inr hstar⟩
  rw [anyShownCovers, anyCovers, List.any_map, List.any_eq_true, List.any_eq_true]
  simp only [Function.comp_apply, hread, and_or_left, exists_or]

end IgnoreRange

/-- Of the ranges that a directive asks for over a span, one is for the rule named by a star exactly
if the directive names that rule. -/
theorem Directive.exists_marks_star_iff {span : Span} {dir : Directive} {offset : Nat} :
    (∃ r ∈ marks span (some dir), r.scope = .rule "*" ∧ r.start ≤ offset ∧ offset < r.stop) ↔
      "*" ∈ dir.ruleIds ∧ span.start.offset ≤ offset ∧ offset < span.stop.offset := by
  rw [marks]
  by_cases hids : dir.ruleIds = []
  · simp [hids]
  · rw [if_neg hids]
    constructor
    · rintro ⟨r, hr, hstar, hin⟩
      obtain ⟨id, hid, rfl⟩ := List.mem_map.1 hr
      obtain rfl : id = "*" := Scope.rule.inj hstar
      exact ⟨hid, hin⟩
    · rintro ⟨hstar, hin⟩
      exact ⟨_, List.mem_map_of_mem hstar, rfl, hin⟩

namespace NextNodeFilter

open IgnoreRange (anyCovers anyShownCovers)

variable (f : NextNodeFilter) (source : List Char) (document : Node)

/-- The ranges that the directives of a document mark, in serialized form. -/
def shown : List Json := (f.ranges source document).map IgnoreRange.toJson

/-- Some directive names a star among its rules, and its next node holds an offset. -/
def NamesStar (offset : Nat) : Prop :=
  ∃ u v dir, NextVisited document.preorder u v ∧ u.directive? source f.keyword = some dir ∧
    "*" ∈ dir.ruleIds ∧ v.span.start.offset ≤ offset ∧ offset < v.span.stop.offset

/-- A directive that names a star is told by the range that it leaves, which is shown as one for
every rule is. -/
theorem namesStar_iff (offset : Nat) :
    f.NamesStar source document offset ↔
      ∃ r ∈ f.ranges source document, r.scope = .rule "*" ∧ r.start ≤ offset ∧ offset < r.stop := by
  simp only [mem_ranges_iff]
  constructor
  · rintro ⟨u, v, dir, huv, hdir, hstar⟩
    obtain ⟨r, hr, hin⟩ := Directive.exists_marks_star_iff.2 hstar
    exact ⟨r, ⟨u, v, dir, huv, hdir, hr⟩, hin⟩
  · rintro ⟨r, ⟨u, v, dir, huv, hdir, hr⟩, hin⟩
    exact ⟨u, v, dir, huv, hdir, Directive.exists_marks_star_iff.1 ⟨r, hr, hin⟩⟩

/-- What the serialized ranges cover is what the ranges cover, and all that is reached by a
directive that names a star. -/
theorem anyShownCovers_shown_iff (rule : String) (offset : Nat) :
    anyShownCovers (f.shown source document) rule offset = true ↔
      anyCovers (f.ranges source document) rule offset = true ∨
        f.NamesStar source document offset := by
  rw [shown, IgnoreRange.anyShownCovers_iff, namesStar_iff]

/-- **Ranges mean what they show where no directive names a star.** In serialized form they cover a
rule at an offset exactly if they cover it as they are, or if a directive that names a star among
its rules reaches that offset. Away from such directives the two agree, and there ranges that are
serialized alike cover alike, whatever documents and keywords they come from. -/
theorem shown_scopes_exact :
    (∀ rule offset, anyShownCovers (f.shown source document) rule offset = true ↔
      anyCovers (f.ranges source document) rule offset = true ∨
        f.NamesStar source document offset) ∧
    (∀ rule offset, ¬f.NamesStar source document offset →
      (anyCovers (f.ranges source document) rule offset = true ↔
        anyShownCovers (f.shown source document) rule offset = true)) ∧
    ∀ (g : NextNodeFilter) source' document',
      f.shown source document = g.shown source' document' →
      ∀ rule offset, ¬f.NamesStar source document offset → ¬g.NamesStar source' document' offset →
        anyCovers (f.ranges source document) rule offset =
          anyCovers (g.ranges source' document') rule offset := by
  have hagree (f : NextNodeFilter) source document rule offset
      (hstar : ¬f.NamesStar source document offset) :
      anyCovers (f.ranges source document) rule offset = true ↔
        anyShownCovers (f.shown source document) rule offset = true := by
    rw [anyShownCovers_shown_iff, or_iff_left hstar]
  refine ⟨f.anyShownCovers_shown_iff source document, hagree f source document, ?_⟩
  intro g source' document' hshown rule offset hf hg
  rw [Bool.eq_iff_iff, hagree f _ _ _ _ hf, hagree g _ _ _ _ hg, hshown]

/-- A note for one rule, and a marker that the rule reports. -/
def ruleNote : List Char := "<!--k no-todo-->\nTODO: x".toList

/-- A note for the same rule, with another keyword. -/
def otherNote : List Char := "<!--ofno-todo-->\nTODO: x".toList

theorem ranges_ruleNote :
    ranges ⟨"k"⟩ ruleNote (Document.parse .markdown ruleNote) = [⟨17, 24, .rule "no-todo"⟩] := by
  decide +kernel

theorem ranges_otherNote :
    ranges ⟨"of"⟩ otherNote (Document.parse .markdown otherNote) = [⟨17, 24, .rule "no-todo"⟩] := by
  decide +kernel

/-- The two notes are shown alike, and what is shown of them is what they do. -/
theorem ruleNote_shown_as_itself :
    ¬NamesStar ⟨"k"⟩ ruleNote (Document.parse .markdown ruleNote) 17 ∧
    ¬NamesStar ⟨"of"⟩ otherNote (Document.parse .markdown otherNote) 17 ∧
    shown ⟨"k"⟩ ruleNote (Document.parse .markdown ruleNote) =
      shown ⟨"of"⟩ otherNote (Document.parse .markdown otherNote) ∧
    anyShownCovers (shown ⟨"k"⟩ ruleNote (Document.parse .markdown ruleNote)) "no-todo" 17 = true ∧
    anyCovers (ranges ⟨"k"⟩ ruleNote (Document.parse .markdown ruleNote)) "no-todo" 17 =
      anyCovers (ranges ⟨"of"⟩ otherNote (Document.parse .markdown otherNote)) "no-todo" 17 := by
  have hstar : ¬NamesStar ⟨"k"⟩ ruleNote (Document.parse .markdown ruleNote) 17 := by
    rw [namesStar_iff, ranges_ruleNote]
    decide
  have hother : ¬NamesStar ⟨"of"⟩ otherNote (Document.parse .markdown otherNote) 17 := by
    rw [namesStar_iff, ranges_otherNote]
    decide
  have hshown : shown ⟨"k"⟩ ruleNote (Document.parse .markdown ruleNote) =
      shown ⟨"of"⟩ otherNote (Document.parse .markdown otherNote) := by
    rw [shown, shown, ranges_ruleNote, ranges_otherNote]
  obtain ⟨-, hagree, halike⟩ := shown_scopes_exact ⟨"k"⟩ ruleNote (Document.parse .markdown ruleNote)
  refine ⟨hstar, hother, hshown, (hagree "no-todo" 17 hstar).1 ?_, ?_⟩
  · rw [ranges_ruleNote]
    decide
  · exact halike ⟨"of"⟩ otherNote (Document.parse .markdown otherNote) hshown "no-todo" 17 hstar
      hother

/-- A note for the rule that is named by a star. No rule has that name, so that it is for none. -/
def starNote : List Char := "<!--k *-->\nTODO: x".toList

/-- A note for every rule. It differs from the one before in a blank for the star. -/
def everyNote : List Char := "<!--k  -->\nTODO: x".toList

/-- **A star may be an id**: a directive that names it is meant for a rule of that name, and for no
other, but its range is shown as one for every rule. It is serialized as that of a directive which
is meant for every rule, and only the latter has the marker below it ignored. -/
theorem starNote_shown_as_everyNote :
    anyShownCovers (shown ⟨"k"⟩ starNote (Document.parse .markdown starNote)) "no-todo" 11 = true ∧
    anyCovers (ranges ⟨"k"⟩ starNote (Document.parse .markdown starNote)) "no-todo" 11 = false ∧
    shown ⟨"k"⟩ starNote (Document.parse .markdown starNote) =
      shown ⟨"k"⟩ everyNote (Document.parse .markdown everyNote) ∧
    anyCovers (ranges ⟨"k"⟩ everyNote (Document.parse .markdown everyNote)) "no-todo" 11 = true := by
  have hstar : ranges ⟨"k"⟩ starNote (Document.parse .markdown starNote) =
      [⟨11, 18, .rule "*"⟩] := by decide +kernel
  have hevery : ranges ⟨"k"⟩ everyNote (Document.parse .markdown everyNote) =
      [⟨11, 18, .all⟩] := by decide +kernel
  rw [shown, shown, hstar, hevery]
  refine ⟨?_, ?_, rfl, ?_⟩
  · decide
  · decide
  · decide

end NextNodeFilter

end DocLint
