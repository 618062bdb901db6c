import DocLint.Document.Extent
import Mathlib.Data.List.TakeWhile

/-!
# Places in a source

Where a text ends can be told from the text as a whole, without reading it step by step: its lines
are its line feeds and one, its columns are counted back to the last of them, and its bytes are
those of its characters. Every way to number lines and columns is held against this count.

* `Position.after` — the place after a text, by counting;
* `Position.after_append` — reading on from a counted place leads to a counted place;
* `Document.extentEnd_eq_after` — a document ends at the place after its source;
* `IsPlace` — the places of a source, each of which falls between two characters.
-/

namespace DocLint

namespace Position

/-- The place after a text: a line for each line feed, and a column for each character since the
last line feed or the start. -/
def after (before : List Char) : Position where
  line := 1 + before.count '\n'
  column := 1 + (before.reverse.takeWhile fun c => c ≠ '\n').length
  offset := Text.byteSize before

@[simp] theorem after_nil : after [] = origin := rfl

/-- One more character moves the place as reading that character does. A place is counted as a
whole, so this is where reading comes in. -/
theorem after_append_singleton (before : List Char) (c : Char) :
    after (before ++ [c]) = (after before).next c := by
  by_cases hc : c = '\n'
  · subst hc
    simp [after, next, Text.byteSize_append, Nat.add_assoc]
  · simp [after, next, hc, Text.byteSize_append, Nat.add_assoc]

/-- **Reading on from a counted place leads to a counted place.** By induction on what is read, from
its end: the last character moves the place that was reached before it. -/
theorem after_append (a b : List Char) : after (a ++ b) = (after a).advance b := by
  induction b generalizing a with
  | nil => rw [List.append_nil, advance_nil]
  | cons c cs ih =>
    rw [advance_cons, ← after_append_singleton, ← ih, List.append_assoc, List.singleton_append]

/-- A line feed opens the next line at its first column, however long the line before it is. -/
theorem after_append_lineFeed (before body : List Char) (h : '\n' ∉ body) :
    after (before ++ (body ++ ['\n'])) =
      ⟨(after before).line + 1, 1, (after before).offset + Text.byteSize (body ++ ['\n'])⟩ := by
  have hcount : body.count '\n' = 0 := List.count_eq_zero.2 h
  simp [after, hcount, Text.byteSize_append, Nat.add_assoc]

end Position

/-! ## The end of a document -/

/-- What is taken up to some character does not depend on what follows that character. -/
theorem takeWhile_append_of_mem {p : Char → Bool} {cs : List Char} {c : Char} (hc : c ∈ cs)
    (hp : p c = false) (more : List Char) : (cs ++ more).takeWhile p = cs.takeWhile p := by
  rw [List.takeWhile_append, if_neg]
  intro hlen
  have hall := List.takeWhile_eq_self_iff.1 ((List.takeWhile_sublist p).eq_of_length hlen)
  rw [hall c hc] at hp
  cases hp

namespace Document

/-- The last line is what comes after the last line feed. Reversed it comes first, and is what is
taken up to one. -/
theorem reverse_lastLine (source : List Char) :
    (lastLine source).reverse = source.reverse.takeWhile fun c => c ≠ '\n' := by
  induction source with
  | nil => rfl
  | cons c cs ih =>
    rw [lastLine, List.reverse_cons]
    by_cases hmem : '\n' ∈ cs
    · rw [if_pos hmem, ih, takeWhile_append_of_mem (List.mem_reverse.2 hmem) (by simp)]
    · rw [if_neg hmem, List.takeWhile_append_of_pos]
      · by_cases hc : c = '\n' <;> simp [hc]
      · intro d hd
        rw [decide_eq_true_iff]
        rintro rfl
        exact hmem (List.mem_reverse.1 hd)

/-- **A document ends at the place after its source**, though the end is computed from the last line
and the number of line feeds alone. -/
theorem extentEnd_eq_after (source : List Char) : extentEnd source = Position.after source := by
  rw [extentEnd, Position.after, ← reverse_lastLine, List.length_reverse, Nat.add_comm 1,
    Nat.add_comm 1]

end Document

/-! ## The places of a source -/

/-- A place of a source is the place after some start of it: it is counted from the first character,
in lines, columns and bytes. -/
def IsPlace (source : List Char) (p : Position) : Prop :=
  ∃ before, before <+: source ∧ p = Position.after before

namespace IsPlace

theorem origin (source : List Char) : IsPlace source Position.origin :=
  ⟨[], List.nil_prefix, rfl⟩

theorem extentEnd (source : List Char) : IsPlace source (Document.extentEnd source) :=
  ⟨source, List.prefix_refl _, Document.extentEnd_eq_after source⟩

/-- No place lies beyond the bytes of the source, for it is counted of a front of it. -/
theorem offset_le {source : List Char} {p : Position} (h : IsPlace source p) :
    p.offset ≤ Text.byteSize source := by
  obtain ⟨before, ⟨rest, rfl⟩, rfl⟩ := h
  rw [Text.byteSize_append]
  exact Nat.le_add_right _ _

end IsPlace

end DocLint
