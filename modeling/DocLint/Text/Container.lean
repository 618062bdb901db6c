import DocLint.Text.Blank
import DocLint.Text.Search

/-!
# Texts in a container

In a block quote or a list item every line but the first has the marks of the container in front of
it. The marks are a part of the source, but not of the text that stands there.

* `inContainer` — a text with the marks of a container in front of its later lines;
* `inContainer_intercalate` — lines joined by line breaks are joined by line breaks and marks;
* `Apart.splitOnce?_inContainer` — what the marks cannot start is found where it was before;
* `pieces_inContainer` — a separator that is no mark cuts where it cut before;
* `trim_inContainer` — blank marks are trimmed with the line breaks they belong to.
-/

namespace DocLint.Text

/-- A text as it stands in a container: behind each line break come the marks of the container. -/
def inContainer (marks cs : List Char) : List Char :=
  cs.flatMap fun c => if c = '\n' then '\n' :: marks else [c]

variable {marks : List Char}

theorem inContainer_newline (marks cs : List Char) :
    inContainer marks ('\n' :: cs) = '\n' :: (marks ++ inContainer marks cs) := rfl

theorem inContainer_cons {c : Char} (hc : c ≠ '\n') (marks cs : List Char) :
    inContainer marks (c :: cs) = c :: inContainer marks cs := by
  rw [inContainer, List.flatMap_cons, if_neg hc]
  rfl

theorem inContainer_append (marks a b : List Char) :
    inContainer marks (a ++ b) = inContainer marks a ++ inContainer marks b :=
  List.flatMap_append

/-- A single line is as it was. -/
theorem inContainer_of_not_mem {cs : List Char} (h : '\n' ∉ cs) : inContainer marks cs = cs := by
  induction cs with
  | nil => rfl
  | cons c cs ih =>
    rw [List.mem_cons, not_or] at h
    rw [inContainer_cons (Ne.symm h.1), ih h.2]

/-- **Lines joined in a container**: each line break brings the marks with it. -/
theorem inContainer_intercalate {lines : List (List Char)} (h : ∀ l ∈ lines, '\n' ∉ l) :
    inContainer marks (['\n'].intercalate lines) = ('\n' :: marks).intercalate lines := by
  induction lines with
  | nil => rfl
  | cons l ls ih =>
    obtain ⟨hl, hls⟩ := List.forall_mem_cons.1 h
    cases ls with
    | nil =>
      rw [List.intercalate_singleton, List.intercalate_singleton, inContainer_of_not_mem hl]
    | cons l' ls =>
      have hbreak : inContainer marks ['\n'] = '\n' :: marks := List.append_nil _
      rw [List.intercalate_cons_cons, List.intercalate_cons_cons, inContainer_append,
        inContainer_append, inContainer_of_not_mem hl, ih hls, hbreak]

theorem mem_of_mem_inContainer {c : Char} {cs : List Char} (h : c ∈ inContainer marks cs) :
    c ∈ cs ∨ c ∈ marks := by
  obtain ⟨d, hd, hc⟩ := List.mem_flatMap.1 h
  split at hc
  · rename_i hnewline
    rcases List.mem_cons.1 hc with rfl | hc
    · exact .inl (hnewline ▸ hd)
    · exact .inr hc
  · exact .inl (List.mem_singleton.1 hc ▸ hd)

theorem mem_inContainer_of_mem {c : Char} {cs : List Char} (hbreak : '\n' ∈ cs) (h : c ∈ marks) :
    c ∈ inContainer marks cs := by
  refine List.mem_flatMap.2 ⟨'\n', hbreak, ?_⟩
  rw [if_pos rfl]
  exact List.mem_cons_of_mem _ h

theorem length_le_inContainer (marks cs : List Char) :
    cs.length ≤ (inContainer marks cs).length := by
  induction cs with
  | nil => exact Nat.le_refl _
  | cons c cs ih =>
    by_cases hc : c = '\n'
    · rw [hc, inContainer_newline, List.length_cons, List.length_cons, List.length_append]
      omega
    · rw [inContainer_cons hc, List.length_cons, List.length_cons]
      omega

/-- A text in a container is longer if marks came in. -/
theorem length_lt_inContainer (hmarks : marks ≠ []) {cs : List Char} (h : '\n' ∈ cs) :
    cs.length < (inContainer marks cs).length := by
  obtain ⟨x, y, rfl⟩ := List.append_of_mem h
  have hx := length_le_inContainer marks x
  have hy := length_le_inContainer marks y
  have hpos : 0 < marks.length := List.length_pos_iff.2 hmarks
  rw [inContainer_append, inContainer_newline, List.length_append, List.length_append,
    List.length_cons, List.length_cons, List.length_append]
  omega

/-! ## Searching in a container -/

/-- Marks that a word cannot begin in: it has no line break in it, and does not start like one of
the marks. -/
structure Apart (marks word : List Char) : Prop where
  one_line : '\n' ∉ word
  head : ∀ c ∈ word.head?, c ∉ marks

theorem apart_iff {marks word : List Char} :
    Apart marks word ↔ '\n' ∉ word ∧ word.head?.all fun c => decide (c ∉ marks) := by
  simp only [Option.all_eq_true, decide_eq_true_eq]
  exact ⟨fun h => ⟨h.one_line, h.head⟩, fun h => ⟨h.1, h.2⟩⟩

instance (marks word : List Char) : Decidable (Apart marks word) := decidable_of_iff' _ apart_iff

variable {word : List Char}

/-- A word that starts in a text in a container starts the text outside as well. -/
theorem prefix_of_prefix_inContainer (hword : '\n' ∉ word) {cs : List Char}
    (h : word <+: inContainer marks cs) : word <+: cs := by
  induction word generalizing cs with
  | nil => exact List.nil_prefix
  | cons w ws ih =>
    rw [List.mem_cons, not_or] at hword
    cases cs with
    | nil => exact absurd (List.prefix_nil.1 h) (List.cons_ne_nil _ _)
    | cons c cs =>
      have hc : c ≠ '\n' := by
        rintro rfl
        exact hword.1 (List.cons_prefix_cons.1 h).1.symm
      rw [inContainer_cons hc, List.cons_prefix_cons] at h
      exact List.cons_prefix_cons.2 ⟨h.1, ih hword.2 h.2⟩

/-- A search passes over characters that the word does not start with. -/
theorem splitOnce?_append_of_head {w : Char} {ws lead : List Char} (hlead : w ∉ lead)
    (cs : List Char) :
    splitOnce? (w :: ws) (lead ++ cs) = (splitOnce? (w :: ws) cs).map (Prod.map (lead ++ ·) id) := by
  induction lead with
  | nil => exact Option.map_id'.symm
  | cons c lead ih =>
    rw [List.mem_cons, not_or] at hlead
    have hstart : ¬(w :: ws).isPrefixOf (c :: (lead ++ cs)) = true := fun h =>
      hlead.1 (List.cons_prefix_cons.1 (List.isPrefixOf_iff_prefix.1 h)).1
    rw [List.cons_append, splitOnce?, if_neg hstart, ih hlead.2, Option.map_map]
    rfl

/-- **What the marks cannot start is found where it was before.** -/
theorem Apart.splitOnce?_inContainer (h : Apart marks word) (cs : List Char) :
    splitOnce? word (inContainer marks cs) =
      (splitOnce? word cs).map (Prod.map (inContainer marks) (inContainer marks)) := by
  induction cs with
  | nil => cases word <;> rfl
  | cons c cs ih =>
    by_cases hprefix : word <+: c :: cs
    · obtain ⟨rest, hrest⟩ := hprefix
      rw [← hrest, inContainer_append, inContainer_of_not_mem h.one_line, splitOnce?_self_append,
        splitOnce?_self_append]
      rfl
    have hout : splitOnce? word (c :: cs) = (splitOnce? word cs).map (Prod.map (c :: ·) id) := by
      rw [splitOnce?, if_neg fun hp => hprefix (List.isPrefixOf_iff_prefix.1 hp)]
      rfl
    by_cases hc : c = '\n'
    · -- the search passes over the line break, and over the marks behind it
      subst hc
      cases word with
      | nil => exact absurd List.nil_prefix hprefix
      | cons w ws =>
        have hnewline : w ≠ '\n' := fun hw => h.one_line (hw ▸ List.mem_cons_self ..)
        have hlead : w ∉ '\n' :: marks :=
          List.not_mem_cons_of_ne_of_not_mem hnewline (h.head w rfl)
        rw [inContainer_newline, ← List.cons_append, splitOnce?_append_of_head hlead, ih, hout,
          Option.map_map, Option.map_map]
        rfl
    · have hin : ¬word.isPrefixOf (c :: inContainer marks cs) = true := by
        rw [← inContainer_cons hc, List.isPrefixOf_iff_prefix]
        exact fun hp => hprefix (prefix_of_prefix_inContainer h.one_line hp)
      have hcons : Prod.map (c :: ·) id ∘ Prod.map (inContainer marks) (inContainer marks) =
          Prod.map (inContainer marks) (inContainer marks) ∘ Prod.map (c :: ·) id := by
        funext found
        exact congrArg (·, inContainer marks found.2) (inContainer_cons hc marks found.1).symm
      rw [inContainer_cons hc, splitOnce?, if_neg hin, ih, hout, Option.map_map, Option.map_map,
        ← hcons]
      rfl

/-! ## Pieces in a container -/

/-- A separator that is no mark cuts a text in a container where it cut it before. -/
theorem pieces_inContainer {separator : Char} (hbreak : separator ≠ '\n')
    (hmarks : separator ∉ marks) (cs : List Char) :
    pieces separator (inContainer marks cs) = (pieces separator cs).map (inContainer marks) := by
  by_cases h : separator ∈ cs
  · obtain ⟨x, y, rfl, hx⟩ := List.eq_append_cons_of_mem h
    have hx' : separator ∉ inContainer marks x :=
      fun h => (mem_of_mem_inContainer h).elim hx hmarks
    have hrest := pieces_inContainer hbreak hmarks y
    rw [inContainer_append, inContainer_cons hbreak, pieces_append_cons_of_not_mem hx', hrest,
      pieces_append_cons_of_not_mem hx, List.map_cons]
  · have h' : separator ∉ inContainer marks cs :=
      fun h' => (mem_of_mem_inContainer h').elim h hmarks
    rw [pieces_of_not_mem h', pieces_of_not_mem h, List.map_singleton]
termination_by cs.length
decreasing_by
  subst_vars
  rw [List.length_append, List.length_cons]
  omega

theorem head?_inContainer (marks cs : List Char) : (inContainer marks cs).head? = cs.head? := by
  cases cs with
  | nil => rfl
  | cons c cs =>
    by_cases hc : c = '\n'
    · rw [hc, inContainer_newline, List.head?_cons, List.head?_cons]
    · rw [inContainer_cons hc, List.head?_cons, List.head?_cons]

/-- At its end a text gains marks only behind a line break. -/
theorem getLast?_inContainer {cs : List Char} (h : ∀ c ∈ cs.getLast?, c ≠ '\n') :
    (inContainer marks cs).getLast? = cs.getLast? := by
  rcases List.eq_nil_or_concat cs with rfl | ⟨front, c, hcs⟩
  · rfl
  · rw [List.concat_eq_append] at hcs
    have hc : c ≠ '\n' := h c (by rw [hcs, List.getLast?_concat]; rfl)
    have hlast : inContainer marks [c] = [c] := inContainer_cons hc marks []
    rw [hcs, inContainer_append, hlast, List.getLast?_concat, List.getLast?_concat]

/-- Marks that are blank are trimmed with the line breaks they belong to. -/
theorem trim_inContainer (hmarks : ∀ c ∈ marks, isBlank c = true) (cs : List Char) :
    trim (inContainer marks cs) = inContainer marks (trim cs) := by
  have hblank {a : List Char} (ha : ∀ c ∈ a, isBlank c = true) :
      ∀ c ∈ inContainer marks a, isBlank c = true := by
    intro c hc
    rcases mem_of_mem_inContainer hc with hc | hc
    · exact ha c hc
    · exact hmarks c hc
  obtain ⟨lead, tail, hcut, hlead, htail⟩ := exists_eq_append_trim cs
  -- what trimming leaves ends with no line break, so that no mark stands at its end either
  have hbreak : ∀ c ∈ (trim cs).getLast?, c ≠ '\n' := by
    rintro c hc rfl
    exact absurd (isBlank_of_mem_getLast?_trim hc) (by decide)
  have hcore : trim (inContainer marks (trim cs)) = inContainer marks (trim cs) := by
    refine trim_eq_self ?_ ?_
    · intro c hc
      rw [head?_inContainer] at hc
      exact isBlank_of_mem_head?_trim hc
    · intro c hc
      rw [getLast?_inContainer hbreak] at hc
      exact isBlank_of_mem_getLast?_trim hc
  calc trim (inContainer marks cs)
      = trim (inContainer marks (lead ++ (trim cs ++ tail))) := by rw [← hcut]
    _ = trim (inContainer marks (trim cs)) := by
      rw [inContainer_append, inContainer_append, trim_append_of_blank_left (hblank hlead),
        trim_append_of_blank_right (hblank htail)]
    _ = inContainer marks (trim cs) := hcore

end DocLint.Text
