/-!
# Searching a text

* `splitOnce?` — cut a text at the first occurrence of another;
* `splitOnce?_eq_some` — the two parts and what was searched for make up the text again;
* `splitOnce?_eq_none_iff`, `not_infix_of_splitOnce?` — a text is split exactly if the mark is in it,
  and nowhere before the place where it is split;
* `splitOnce?_cons_append` — a mark behind one more character is found there or one place before;
* `Unbordered.splitOnce?_append` — what cannot overlap itself is found where it was put first;
* `pieces` — cut a text at every occurrence of a character;
* `flatten_pieces` — the pieces hold all the other characters;
* `pieces_append_cons` — the pieces on both sides of such a character are cut apart;
* `pieces_flatMap_concat` — lines that each end with it are cut one by one.
-/

namespace DocLint.Text

/-- The text before and after the first occurrence of `mark`. -/
def splitOnce? (mark : List Char) : List Char → Option (List Char × List Char)
  | [] => if mark.isEmpty then some ([], []) else none
  | c :: cs =>
    if mark.isPrefixOf (c :: cs) then some ([], (c :: cs).drop mark.length)
    else (splitOnce? mark cs).map fun (a, b) => (c :: a, b)

/-- The two parts and the mark make up the text again. -/
theorem splitOnce?_eq_some {mark cs a b : List Char} (h : splitOnce? mark cs = some (a, b)) :
    cs = a ++ mark ++ b := by
  induction cs generalizing a with
  | nil =>
    cases mark with
    | nil => simp_all [splitOnce?]
    | cons m ms => simp [splitOnce?] at h
  | cons c cs ih =>
    rw [splitOnce?] at h
    split at h
    · rename_i hp
      obtain ⟨rfl, rfl⟩ : a = [] ∧ b = (c :: cs).drop mark.length := by simp_all
      obtain ⟨t, ht⟩ := List.isPrefixOf_iff_prefix.1 hp
      rw [← ht]
      simp
    · obtain ⟨⟨a', b'⟩, hs, he⟩ := Option.map_eq_some_iff.1 h
      simp only [Prod.mk.injEq] at he
      obtain ⟨rfl, rfl⟩ := he
      simp [ih hs]

/-- What follows the mark is shorter than the text by at least the mark. -/
theorem length_of_splitOnce? {mark cs a b : List Char} (h : splitOnce? mark cs = some (a, b)) :
    b.length + mark.length ≤ cs.length := by
  rw [splitOnce?_eq_some h]
  simp
  omega

/-- What does not occur in a text does not split it. -/
theorem splitOnce?_eq_none {mark cs : List Char} (h : ¬mark <:+: cs) :
    splitOnce? mark cs = none := by
  cases hs : splitOnce? mark cs with
  | none => rfl
  | some parts =>
    obtain ⟨a, b⟩ := parts
    exact absurd ⟨a, b, (splitOnce?_eq_some hs).symm⟩ h

/-- **A text is split exactly if the mark occurs in it.** -/
theorem splitOnce?_eq_none_iff {mark cs : List Char} :
    splitOnce? mark cs = none ↔ ¬mark <:+: cs := by
  refine ⟨fun h hin => ?_, splitOnce?_eq_none⟩
  induction cs with
  | nil =>
    obtain rfl : mark = [] := List.eq_nil_of_infix_nil hin
    cases h
  | cons c cs ih =>
    rw [splitOnce?] at h
    split at h
    · cases h
    · rename_i hp
      rcases List.infix_cons_iff.1 hin with hstart | hlater
      · exact hp (List.isPrefixOf_iff_prefix.2 hstart)
      · exact ih (Option.map_eq_none_iff.1 h) hlater

/-- **A text is split at the first occurrence of the mark**: there is none before it. -/
theorem not_infix_of_splitOnce? {mark cs a b : List Char} (hm : mark ≠ [])
    (h : splitOnce? mark cs = some (a, b)) : ¬mark <:+: a := by
  intro hin
  induction cs generalizing a with
  | nil =>
    have hnone : splitOnce? mark [] = none :=
      splitOnce?_eq_none_iff.2 fun hnil => hm (List.eq_nil_of_infix_nil hnil)
    rw [hnone] at h
    cases h
  | cons c cs ih =>
    rw [splitOnce?] at h
    split at h
    · obtain ⟨rfl, -⟩ := Prod.mk.inj (Option.some.inj h)
      exact hm (List.eq_nil_of_infix_nil hin)
    · rename_i hp
      obtain ⟨⟨a', b'⟩, hs, he⟩ := Option.map_eq_some_iff.1 h
      obtain ⟨rfl, rfl⟩ := Prod.mk.inj he
      rcases List.infix_cons_iff.1 hin with hstart | hlater
      · -- the mark would start the whole text, and the text would be split there
        have hwhole : c :: a' <+: c :: cs := by
          rw [splitOnce?_eq_some hs, List.append_assoc]
          exact List.prefix_append (c :: a') _
        exact hp (List.isPrefixOf_iff_prefix.2 (hstart.trans hwhole))
      · exact ih hs hlater

/-- A mark is found at once where a text starts with it. -/
theorem splitOnce?_self_append (mark b : List Char) :
    splitOnce? mark (mark ++ b) = some ([], b) := by
  have hstart : mark.isPrefixOf (mark ++ b) = true :=
    List.isPrefixOf_iff_prefix.2 (List.prefix_append mark b)
  cases h : mark ++ b with
  | nil =>
    obtain ⟨rfl, rfl⟩ := List.append_eq_nil_iff.1 h
    rfl
  | cons c cs =>
    rw [splitOnce?, ← h, if_pos hstart, List.drop_left]

/-- A mark put behind a character is found there, or one place before that: then the character moves
through the mark to its far side. -/
theorem splitOnce?_cons_append (mark : List Char) (c : Char) (b : List Char) :
    splitOnce? mark (c :: (mark ++ b)) = some ([c], b) ∨
      splitOnce? mark (c :: (mark ++ b)) = some ([], c :: b) := by
  have hmove {ms rest : List Char} (h : ms ++ rest = c :: (ms ++ b)) : rest = c :: b := by
    induction ms with
    | nil => exact h
    | cons m ms ih =>
      obtain ⟨rfl, hrest⟩ := List.cons.inj h
      exact ih hrest
  by_cases hp : mark.isPrefixOf (c :: (mark ++ b)) = true
  · obtain ⟨rest, hrest⟩ := List.isPrefixOf_iff_prefix.1 hp
    right
    rw [← hmove hrest, ← hrest, splitOnce?_self_append]
  · left
    rw [splitOnce?, if_neg hp, splitOnce?_self_append]
    rfl

/-! ## Marks that do not overlap themselves -/

/-- No part at the end of a mark is also one at its start, the whole mark apart. -/
def Unbordered (mark : List Char) : Prop := ∀ n < mark.length, 0 < n → ¬mark.drop n <+: mark

instance (mark : List Char) : Decidable (Unbordered mark) :=
  inferInstanceAs (Decidable (∀ n < mark.length, _))

namespace Unbordered

variable {mark a : List Char}

/-- The mark does not start inside a text that it does not occur in, even if it comes next. -/
theorem not_prefix (hm : Unbordered mark) (ha : ¬mark <:+: a) (hne : a ≠ []) (b : List Char) :
    ¬mark <+: a ++ (mark ++ b) := by
  intro h
  rcases Nat.lt_or_ge a.length mark.length with hlt | hge
  · -- the mark would start with all of `a`, and go on with a start of itself
    obtain ⟨rest, hrest⟩ := List.prefix_of_prefix_length_le (List.prefix_append a _) h (by omega)
    rw [← hrest, List.prefix_append_right_inj] at h
    have hdrop : mark.drop a.length = rest := by rw [← hrest, List.drop_left]
    refine hm a.length hlt (List.length_pos_iff.2 hne) ?_
    rw [hdrop]
    have hlen : rest.length ≤ mark.length := by
      rw [← hrest, List.length_append]
      omega
    rw [hrest] at h
    exact List.prefix_of_prefix_length_le h (List.prefix_append mark b) hlen
  · have hpre := List.prefix_of_prefix_length_le h (List.prefix_append a _) hge
    exact ha hpre.isInfix

/-- **The mark is found where it was put first.** -/
theorem splitOnce?_append (hm : Unbordered mark) (ha : ¬mark <:+: a) (b : List Char) :
    splitOnce? mark (a ++ (mark ++ b)) = some (a, b) := by
  induction a with
  | nil => exact splitOnce?_self_append mark b
  | cons c cs ih =>
    have hcs : ¬mark <:+: cs := fun h => ha (h.trans (List.suffix_cons c cs).isInfix)
    have hstart := hm.not_prefix ha (List.cons_ne_nil c cs) b
    rw [List.cons_append] at hstart ⊢
    rw [splitOnce?, if_neg (fun h => hstart (List.isPrefixOf_iff_prefix.1 h)), ih hcs]
    rfl

end Unbordered

/-- A mark reaches over no character that is not in it. -/
theorem not_infix_append_cons {mark a b : List Char} {c : Char} (hc : c ∉ mark)
    (ha : ¬mark <:+: a) (hb : ¬mark <:+: b) : ¬mark <:+: a ++ c :: b := by
  rintro ⟨x, y, h⟩
  rw [List.append_assoc] at h
  rcases List.append_eq_append_iff.1 h with ⟨w, rfl, hw⟩ | ⟨w, -, hw⟩
  · -- the occurrence starts in `a`, so it ends there or goes on over `c`
    rcases List.append_eq_append_iff.1 hw with ⟨v, rfl, -⟩ | ⟨v, rfl, hv⟩
    · exact ha ⟨x, v, by rw [List.append_assoc]⟩
    · cases v with
      | nil => exact ha ⟨x, [], by rw [List.append_nil, List.append_nil]⟩
      | cons d v =>
        obtain ⟨rfl, -⟩ := List.cons.inj hv
        exact hc (List.mem_append_right _ (List.mem_cons_self ..))
  · cases w with
    | nil =>
      cases mark with
      | nil => exact ha List.nil_infix
      | cons d mark =>
        obtain ⟨rfl, -⟩ := List.cons.inj hw
        exact hc (List.mem_cons_self ..)
    | cons d w =>
      obtain ⟨-, hrest⟩ := List.cons.inj hw
      exact hb ⟨w, y, by rw [List.append_assoc]; exact hrest.symm⟩

/-! ## Pieces -/

/-- The parts of a text between the occurrences of a character. -/
def pieces (separator : Char) : List Char → List (List Char)
  | [] => [[]]
  | c :: cs =>
    if c = separator then [] :: pieces separator cs
    else
      match pieces separator cs with
      | [] => [[c]]
      | p :: ps => (c :: p) :: ps

/-- A text without the separator is one piece. -/
theorem pieces_of_not_mem {separator : Char} {cs : List Char} (h : separator ∉ cs) :
    pieces separator cs = [cs] := by
  induction cs with
  | nil => rfl
  | cons c cs ih =>
    rw [List.mem_cons, not_or] at h
    obtain ⟨hc, hcs⟩ := h
    rw [pieces, if_neg (Ne.symm hc), ih hcs]

/-- No piece has a separator in it. -/
theorem not_mem_of_mem_pieces {separator : Char} {cs piece : List Char}
    (h : piece ∈ pieces separator cs) : separator ∉ piece := by
  induction cs generalizing piece with
  | nil =>
    rw [pieces, List.mem_singleton] at h
    rw [h]
    exact List.not_mem_nil
  | cons c cs ih =>
    rw [pieces] at h
    split at h
    · rcases List.mem_cons.1 h with rfl | h
      · exact List.not_mem_nil
      · exact ih h
    · rename_i hc
      split at h
      · rw [List.mem_singleton] at h
        rw [h, List.mem_singleton]
        exact Ne.symm hc
      · rename_i p ps hps
        rcases List.mem_cons.1 h with rfl | h
        · have hp : separator ∉ p := ih (by rw [hps]; exact List.mem_cons_self ..)
          exact List.not_mem_cons_of_ne_of_not_mem (Ne.symm hc) hp
        · exact ih (by rw [hps]; exact List.mem_cons_of_mem p h)

/-- The pieces hold all characters but the separators. -/
theorem flatten_pieces (separator : Char) (cs : List Char) :
    (pieces separator cs).flatten = cs.filter (· ≠ separator) := by
  induction cs with
  | nil => rfl
  | cons c cs ih =>
    rw [pieces]
    by_cases hc : c = separator
    · rw [if_pos hc, List.filter_cons_of_neg (by simpa using hc), List.flatten_cons, ih,
        List.nil_append]
    · rw [if_neg hc, List.filter_cons_of_pos (by simpa using hc), ← ih]
      cases pieces separator cs <;> rfl

/-- The first piece ends at the first separator. -/
theorem pieces_append_cons_of_not_mem {separator : Char} {a : List Char} (h : separator ∉ a)
    (b : List Char) : pieces separator (a ++ separator :: b) = a :: pieces separator b := by
  induction a with
  | nil => rw [List.nil_append, pieces, if_pos rfl]
  | cons c cs ih =>
    rw [List.mem_cons, not_or] at h
    obtain ⟨hc, hcs⟩ := h
    rw [List.cons_append, pieces, if_neg (Ne.symm hc), ih hcs]

/-- **The pieces on both sides of a separator are cut apart.** -/
theorem pieces_append_cons (separator : Char) (a b : List Char) :
    pieces separator (a ++ separator :: b) = pieces separator a ++ pieces separator b := by
  by_cases h : separator ∈ a
  · obtain ⟨x, y, rfl, hx⟩ := List.eq_append_cons_of_mem h
    have hrest := pieces_append_cons separator y b
    rw [List.append_assoc, List.cons_append, pieces_append_cons_of_not_mem hx,
      pieces_append_cons_of_not_mem hx, hrest, List.cons_append]
  · rw [pieces_append_cons_of_not_mem h, pieces_of_not_mem h, List.singleton_append]
termination_by a.length
decreasing_by
  subst_vars
  simp
  omega

/-- What comes before the first separator is put before the first piece. -/
theorem pieces_append_of_not_mem {separator : Char} {a : List Char} (h : separator ∉ a)
    (b : List Char) : pieces separator (a ++ b) = (pieces separator b).modifyHead (a ++ ·) := by
  by_cases hb : separator ∈ b
  · obtain ⟨x, y, rfl, hx⟩ := List.eq_append_cons_of_mem hb
    have hax : separator ∉ a ++ x := fun hmem => (List.mem_append.1 hmem).elim h hx
    rw [← List.append_assoc, pieces_append_cons_of_not_mem hax, pieces_append_cons_of_not_mem hx]
    rfl
  · have hab : separator ∉ a ++ b := fun hmem => (List.mem_append.1 hmem).elim h hb
    rw [pieces_of_not_mem hab, pieces_of_not_mem hb]
    rfl

/-- Lines that each end with the separator are cut into the pieces of each, and an empty one. -/
theorem pieces_flatMap_concat (separator : Char) (ls : List (List Char)) :
    pieces separator (ls.flatMap (· ++ [separator])) = ls.flatMap (pieces separator) ++ [[]] := by
  induction ls with
  | nil => rfl
  | cons l ls ih =>
    rw [List.flatMap_cons, List.append_assoc, List.singleton_append, pieces_append_cons, ih,
      List.flatMap_cons, List.append_assoc]

end DocLint.Text
