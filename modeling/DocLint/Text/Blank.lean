/-!
# White space

What counts as blank, and the trimming that follows from it. A character is blank exactly when it
has the Unicode property `White_Space`; `isBlank` lists that property and everything here is built
on it.

* `trimStart`, `trimEnd`, `trim` — cut blanks at one end or both;
* `dropTrailing_eq_reverse` — cutting at the end is cutting at the start of the reversal;
* `exists_eq_dropTrailing_append` — what is cut off at the end satisfies the condition throughout;
* `dropTrailing_append_of_forall` — more of what is cut off at the end makes no difference;
* `trim_eq_nil_iff` — nothing is left of a text exactly if all of it is blank;
* `trim_append_of_blank_left`, `trim_append_of_blank_right` — blanks around a text make no
  difference to what trimming leaves;
* `isBlank_of_mem_head?_trim`, `isBlank_of_mem_getLast?_trim` — what it leaves has no blank at either
  end;
* `exists_eq_append_trim`, `trim_eq_self` — it lies between blanks, and without any it is the text.
-/

namespace DocLint.Text

/-- The characters with the Unicode property `White_Space`. -/
def isBlank (c : Char) : Bool :=
  let n := c.toNat
  (9 ≤ n && n ≤ 13) || n == 0x20 || n == 0x85 || n == 0xA0 || n == 0x1680 ||
    (0x2000 ≤ n && n ≤ 0x200A) || n == 0x2028 || n == 0x2029 || n == 0x202F || n == 0x205F ||
    n == 0x3000

/-- Drop the longest run at the end whose characters all satisfy `p`. -/
def dropTrailing (p : Char → Bool) : List Char → List Char
  | [] => []
  | c :: cs =>
    match dropTrailing p cs with
    | [] => if p c then [] else [c]
    | d :: ds => c :: d :: ds

/-- Cut the blanks at the start. -/
def trimStart (cs : List Char) : List Char := cs.dropWhile isBlank

/-- Cut the blanks at the end. -/
def trimEnd (cs : List Char) : List Char := dropTrailing isBlank cs

/-- Cut the blanks at both ends. -/
def trim (cs : List Char) : List Char := trimEnd (trimStart cs)

theorem isBlank_of_mem_spaces {n : Nat} {c : Char} (h : c ∈ List.replicate n ' ') :
    isBlank c = true := by
  rw [List.eq_of_mem_replicate h]
  rfl

theorem dropTrailing_append_singleton (p : Char → Bool) (cs : List Char) (c : Char) :
    dropTrailing p (cs ++ [c]) = if p c then dropTrailing p cs else cs ++ [c] := by
  induction cs with
  | nil => simp [dropTrailing]
  | cons d ds ih =>
    by_cases hc : p c
    · simp [dropTrailing, ih, hc]
    · rw [if_neg hc] at ih
      rw [List.cons_append, dropTrailing, ih, if_neg hc]
      cases ds <;> rfl

/-- Cutting at the end is cutting at the start of the reversed text. -/
theorem dropTrailing_eq_reverse (p : Char → Bool) (cs : List Char) :
    dropTrailing p cs = (cs.reverse.dropWhile p).reverse := by
  induction h : cs.reverse generalizing cs with
  | nil =>
    obtain rfl : cs = [] := List.reverse_eq_nil_iff.1 h
    rfl
  | cons c r ih =>
    obtain rfl : cs = r.reverse ++ [c] := by
      rw [← List.reverse_reverse cs, h, List.reverse_cons]
    rw [dropTrailing_append_singleton, ih r.reverse (List.reverse_reverse r)]
    by_cases hc : p c <;> simp [List.dropWhile, hc]

theorem dropTrailing_cons (p : Char → Bool) (c : Char) (cs : List Char) :
    dropTrailing p (c :: cs) =
      if dropTrailing p cs = [] ∧ p c = true then [] else c :: dropTrailing p cs := by
  rw [dropTrailing]
  cases dropTrailing p cs <;> cases p c <;> rfl

/-- What is cut off at the end satisfies the condition throughout. -/
theorem exists_eq_dropTrailing_append (p : Char → Bool) (cs : List Char) :
    ∃ tail, cs = dropTrailing p cs ++ tail ∧ ∀ c ∈ tail, p c = true := by
  induction cs with
  | nil => exact ⟨[], rfl, by simp⟩
  | cons c cs ih =>
    obtain ⟨tail, heq, htail⟩ := ih
    rw [dropTrailing_cons]
    by_cases h : dropTrailing p cs = [] ∧ p c = true
    · rw [if_pos h]
      rw [h.1, List.nil_append] at heq
      refine ⟨c :: tail, by rw [← heq]; rfl, fun d hd => ?_⟩
      rcases List.mem_cons.1 hd with rfl | hd
      · exact h.2
      · exact htail d hd
    · rw [if_neg h]
      exact ⟨tail, by rw [List.cons_append, ← heq], htail⟩

/-- More of what is cut off at the end makes no difference. -/
theorem dropTrailing_append_of_forall {p : Char → Bool} {tail : List Char}
    (h : ∀ c ∈ tail, p c = true) (cs : List Char) :
    dropTrailing p (cs ++ tail) = dropTrailing p cs := by
  rw [dropTrailing_eq_reverse, dropTrailing_eq_reverse, List.reverse_append,
    List.dropWhile_append_of_pos]
  intro c hc
  exact h c (List.mem_reverse.1 hc)

theorem dropTrailing_eq_nil_iff {p : Char → Bool} {cs : List Char} :
    dropTrailing p cs = [] ↔ ∀ c ∈ cs, p c = true := by
  induction cs with
  | nil => simp [dropTrailing]
  | cons c cs ih =>
    rw [dropTrailing_cons, ite_eq_left_iff, List.forall_mem_cons, ← ih, and_comm]
    simp only [reduceCtorEq, imp_false, Decidable.not_not]

/-- What is cut off ends at the last character that is to stay. -/
theorem dropTrailing_append_cons {p : Char → Bool} {c : Char} (hc : p c = false)
    (a b : List Char) : dropTrailing p (a ++ c :: b) = a ++ c :: dropTrailing p b := by
  induction a with
  | nil =>
    rw [List.nil_append, dropTrailing_cons, if_neg, List.nil_append]
    rintro ⟨-, h⟩
    rw [hc] at h
    cases h
  | cons d ds ih =>
    rw [List.cons_append, dropTrailing_cons, ih, if_neg, List.cons_append]
    rintro ⟨h, -⟩
    exact absurd (List.append_eq_nil_iff.1 h).2 (List.cons_ne_nil _ _)

/-! ## Trimming -/

/-- Nothing is left of a text exactly if all of it is blank. -/
theorem trim_eq_nil_iff {cs : List Char} : trim cs = [] ↔ ∀ c ∈ cs, isBlank c = true := by
  rw [trim, trimEnd, dropTrailing_eq_nil_iff, trimStart]
  induction cs with
  | nil => simp
  | cons c cs ih =>
    by_cases hc : isBlank c
    · rw [List.dropWhile_cons_of_pos hc, ih]
      simp [hc]
    · rw [List.dropWhile_cons_of_neg hc]

/-- Trimming may begin at either end. -/
theorem trimStart_trimEnd (cs : List Char) : trimStart (trimEnd cs) = trim cs := by
  rw [trim]
  induction cs with
  | nil => rfl
  | cons c cs ih =>
    rw [trimStart] at ih
    rw [trimEnd, dropTrailing_cons, trimStart, trimStart]
    by_cases hc : isBlank c = true
    · rw [List.dropWhile_cons_of_pos hc]
      by_cases hnil : dropTrailing isBlank cs = []
      · have hrest : cs.dropWhile isBlank = [] := by
          rw [← List.append_nil cs, List.dropWhile_append_of_pos (dropTrailing_eq_nil_iff.1 hnil)]
          rfl
        rw [if_pos ⟨hnil, hc⟩, hrest]
        rfl
      · rw [if_neg fun h => hnil h.1, List.dropWhile_cons_of_pos hc]
        exact ih
    · rw [List.dropWhile_cons_of_neg hc, if_neg fun h => hc h.2, List.dropWhile_cons_of_neg hc,
        trimEnd, dropTrailing_cons, if_neg fun h => hc h.2]

/-- **Blanks in front of a text make no difference to what trimming leaves.** -/
theorem trim_append_of_blank_left {lead : List Char} (hlead : ∀ c ∈ lead, isBlank c = true)
    (cs : List Char) : trim (lead ++ cs) = trim cs := by
  rw [trim, trimStart, List.dropWhile_append_of_pos hlead]
  rfl

/-- **Blanks behind a text make no difference to what trimming leaves.** -/
theorem trim_append_of_blank_right {tail : List Char} (htail : ∀ c ∈ tail, isBlank c = true)
    (cs : List Char) : trim (cs ++ tail) = trim cs := by
  rw [← trimStart_trimEnd, trimEnd, dropTrailing_append_of_forall htail]
  exact trimStart_trimEnd cs

theorem trim_trimEnd (cs : List Char) : trim (trimEnd cs) = trim cs := by
  obtain ⟨tail, hcut, hblank⟩ := exists_eq_dropTrailing_append isBlank cs
  have h := trim_append_of_blank_right hblank (trimEnd cs)
  rw [trimEnd, ← hcut] at h
  exact h.symm

/-- Trimming adds no character. -/
theorem mem_of_mem_trimEnd {c : Char} {cs : List Char} (h : c ∈ trimEnd cs) : c ∈ cs := by
  obtain ⟨tail, hcut, -⟩ := exists_eq_dropTrailing_append isBlank cs
  rw [hcut]
  exact List.mem_append_left _ h

theorem mem_of_mem_trim {c : Char} {cs : List Char} (h : c ∈ trim cs) : c ∈ cs :=
  (List.dropWhile_sublist _).subset (mem_of_mem_trimEnd h)

/-- What trimming leaves does not start with a blank. -/
theorem isBlank_of_mem_head?_trim {c : Char} {cs : List Char} (h : c ∈ (trim cs).head?) :
    isBlank c = false := by
  have hhead := List.head?_dropWhile_not isBlank (trimEnd cs)
  rw [← trimStart_trimEnd, trimStart] at h
  rw [Option.mem_def.1 h] at hhead
  exact hhead

/-- What trimming leaves does not end with a blank. -/
theorem isBlank_of_mem_getLast?_trim {c : Char} {cs : List Char} (h : c ∈ (trim cs).getLast?) :
    isBlank c = false := by
  have hlast := List.head?_dropWhile_not isBlank (trimStart cs).reverse
  rw [trim, trimEnd, dropTrailing_eq_reverse, List.getLast?_reverse] at h
  rw [Option.mem_def.1 h] at hlast
  exact hlast

/-- **What trimming leaves lies between blanks.** -/
theorem exists_eq_append_trim (cs : List Char) :
    ∃ lead tail, cs = lead ++ (trim cs ++ tail) ∧ (∀ c ∈ lead, isBlank c = true) ∧
      ∀ c ∈ tail, isBlank c = true := by
  obtain ⟨tail, hcut, htail⟩ := exists_eq_dropTrailing_append isBlank (trimStart cs)
  refine ⟨cs.takeWhile isBlank, tail, ?_, fun c hc => ?_, htail⟩
  · rw [trim, trimEnd, ← hcut, trimStart, List.takeWhile_append_dropWhile]
  · exact List.all_eq_true.1 List.all_takeWhile c hc

/-- A text that has no blank at either end is left as it is. -/
theorem trim_eq_self {cs : List Char} (hhead : ∀ c ∈ cs.head?, isBlank c = false)
    (hlast : ∀ c ∈ cs.getLast?, isBlank c = false) : trim cs = cs := by
  have hstart : trimStart cs = cs := by
    cases hcs : cs with
    | nil => rfl
    | cons c rest =>
      have hc := hhead c (by rw [hcs, List.head?_cons]; rfl)
      rw [trimStart, List.dropWhile_cons_of_neg (Bool.eq_false_iff.1 hc)]
  rcases List.eq_nil_or_concat cs with rfl | ⟨front, c, hcs⟩
  · rfl
  · rw [List.concat_eq_append] at hcs
    have hc := hlast c (by rw [hcs, List.getLast?_concat]; rfl)
    rw [trim, hstart, hcs, trimEnd, dropTrailing_append_cons hc]
    rfl

end DocLint.Text
