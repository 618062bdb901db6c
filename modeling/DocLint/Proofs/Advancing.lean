import DocLint.Proofs.Places
import DocLint.Proofs.Reach

/-!
# Reading on and counting back

There are two ways to say where a text ends. One reads on from where the text begins, as markers are
placed. The other looks at the text as a whole, as the end of a document is found: it searches for
the last line feed and counts the characters behind it. Reading on does the same as counting, from
any position and for any text, so it makes no difference where a text is cut: before a line feed,
right behind it, or between two others.

* `Position.counted` — where a text ends, by counting back to its last line feed;
* `Position.advance_eq_counted` — reading on ends there too;
* `Position.advance_exact` — reading on is an action of texts on positions, it leads to the end of a
  document, from places to places, and to where markers are reported.
-/

namespace DocLint

namespace Text

/-- What stands behind the last `x` in a text, if there is one. Where `x` is the line feed, this is
what a position has to count the columns of. -/
def afterLast? (x : Char) : List Char → Option (List Char)
  | [] => none
  | c :: cs =>
    match afterLast? x cs with
    | some rest => some rest
    | none => if c = x then some cs else none

theorem afterLast?_eq_none_iff {x : Char} {cs : List Char} : afterLast? x cs = none ↔ x ∉ cs := by
  induction cs with
  | nil => simp [afterLast?]
  | cons c cs ih =>
    rw [afterLast?, List.mem_cons, not_or, ← ih]
    cases afterLast? x cs with
    | some rest => simp
    | none => simp [eq_comm]

/-- What stands behind the last of a character is a rest of the text, and the character itself is
not in it. -/
theorem of_afterLast?_eq_some {x : Char} {cs rest : List Char} (h : afterLast? x cs = some rest) :
    x ∉ rest ∧ ∃ front, cs = front ++ x :: rest := by
  induction cs with
  | nil => cases h
  | cons c cs ih =>
    rw [afterLast?] at h
    cases hlater : afterLast? x cs with
    | some later =>
      rw [hlater] at h
      obtain ⟨hnot, front, rfl⟩ := ih (hlater.trans h)
      exact ⟨hnot, c :: front, rfl⟩
    | none =>
      rw [hlater] at h
      by_cases hc : c = x
      · obtain rfl : cs = rest := by simpa [hc] using h
        exact ⟨afterLast?_eq_none_iff.1 hlater, [], by rw [hc]; rfl⟩
      · simp [hc] at h

end Text

namespace Position

/-! ## Where a text ends -/

/-- Where a text ends that begins at a position, by counting: a line for each line feed, and a
column for each character behind the last of them. Without a line feed columns go on. -/
def counted (p : Position) (cs : List Char) : Position :=
  match Text.afterLast? '\n' cs with
  | some rest => ⟨p.line + cs.count '\n', rest.length + 1, p.offset + Text.byteSize cs⟩
  | none => ⟨p.line, p.column + cs.length, p.offset + Text.byteSize cs⟩

theorem line_advance (p : Position) (cs : List Char) :
    (p.advance cs).line = p.line + cs.count '\n' := by
  induction cs generalizing p with
  | nil => rfl
  | cons c cs ih =>
    rw [advance_cons, ih, next, List.count_cons]
    by_cases hc : c = '\n'
    · simp only [hc, beq_self_eq_true, if_true]
      omega
    · simp [hc]

/-- Without a line feed every character is one more column, be it written in one byte or in several:
only the offset tells those apart. -/
theorem column_advance_of_not_mem {cs : List Char} (h : '\n' ∉ cs) (p : Position) :
    (p.advance cs).column = p.column + cs.length := by
  induction cs generalizing p with
  | nil => rfl
  | cons c cs ih =>
    rw [List.mem_cons, not_or] at h
    have hnext : (p.next c).column = p.column + 1 := by rw [next, if_neg (Ne.symm h.1)]
    rw [advance_cons, ih h.2, hnext, List.length_cons]
    omega

/-- Behind the last line feed columns are counted from one, wherever reading began. What was read
before it adds lines and bytes only. -/
theorem column_advance_of_lineFeed {rest : List Char} (h : '\n' ∉ rest) (p : Position)
    (front : List Char) : (p.advance (front ++ '\n' :: rest)).column = rest.length + 1 := by
  rw [advance_append, advance_cons, column_advance_of_not_mem h, next, if_pos rfl, Nat.add_comm]

/-- **Reading on ends where counting does**: the loop that moves a position over a text one
character at a time comes to the line, column and offset that are counted of the whole text at
once. -/
theorem advance_eq_counted (p : Position) (cs : List Char) : p.advance cs = p.counted cs := by
  rw [counted, ← offset_advance]
  cases h : Text.afterLast? '\n' cs with
  | none =>
    have hnone : '\n' ∉ cs := Text.afterLast?_eq_none_iff.1 h
    have hline := line_advance p cs
    rw [List.count_eq_zero.2 hnone, Nat.add_zero] at hline
    dsimp only
    rw [← column_advance_of_not_mem hnone, ← hline]
  | some rest =>
    obtain ⟨hrest, front, rfl⟩ := Text.of_afterLast?_eq_some h
    dsimp only
    rw [← line_advance, ← column_advance_of_lineFeed hrest p front]

/-- The end of a document is where reading on from the origin leads, although the extent looks for
the last line feed and reads nothing. -/
theorem stop_extent_eq_advance (source : List Char) :
    (Document.extent source).stop = origin.advance source := by
  have hstart := after_append [] source
  rw [List.nil_append, after_nil] at hstart
  exact (Document.extentEnd_eq_after source).trans hstart

/-! ## The theorem -/

/-- **Reading on is one action of texts on positions**, and there is nothing else that it could be
by counting. It leads from the origin to the end of a document, and from each place of a source to
the place behind what is read. A marker is reported where its text has led to, which is where the
document would end if it were cut off there. -/
theorem advance_exact (p : Position) :
    p.advance [] = p ∧
    (∀ a b, (p.advance a).advance b = p.advance (a ++ b)) ∧
    (∀ cs, p.advance cs = p.counted cs) ∧
    (∀ source, (Document.extent source).stop = origin.advance source) ∧
    (∀ a b, (after a).advance b = after (a ++ b)) ∧
    ∀ b cs m, m ∈ TodoMarker.scan p b cs →
      ∃ gap, cs = gap ++ m.2 ∧ m.1 = p.counted gap ∧
        ∀ before, p = after before → m.1 = (Document.extent (before ++ gap)).stop := by
  refine ⟨advance_nil p, fun a b => (advance_append p a b).symm, advance_eq_counted p,
    stop_extent_eq_advance, fun a b => (after_append a b).symm, fun b cs m hm => ?_⟩
  obtain ⟨gap, hcs, -, hplace⟩ := TodoMarker.of_mem_scan hm
  refine ⟨gap, hcs, by rw [hplace, advance_eq_counted], fun before hp => ?_⟩
  rw [hplace, hp, ← after_append]
  exact (Document.extentEnd_eq_after _).symm

/-- A marker on the second line of what is read, which begins behind an accent on the second line of
its source, is reported where the source would end before it. -/
theorem marker_placed_on_third_line :
    (⟨⟨3, 4, 10⟩, "TODO: z".toList⟩ : Position × List Char) ∈
      TodoMarker.scan (after "a\né ".toList) none "x\n y TODO: z".toList ∧
    ∃ gap, "x\n y TODO: z".toList = gap ++ "TODO: z".toList ∧
      (⟨3, 4, 10⟩ : Position) = (Document.extent ("a\né ".toList ++ gap)).stop := by
  have hscan : (⟨⟨3, 4, 10⟩, "TODO: z".toList⟩ : Position × List Char) ∈
      TodoMarker.scan (after "a\né ".toList) none "x\n y TODO: z".toList := by decide
  obtain ⟨-, -, -, -, -, hmarkers⟩ := advance_exact (after "a\né ".toList)
  obtain ⟨gap, hcs, -, hplace⟩ := hmarkers none _ _ hscan
  exact ⟨hscan, gap, hcs, hplace _ rfl⟩

end Position

end DocLint
