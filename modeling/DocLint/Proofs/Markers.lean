import DocLint.Proofs.Places
import DocLint.Proofs.Reach

/-!
# Where markers stand

A marker stands wherever five characters spell `todo:`, in whatever letter case, and no word
character comes right before them. The scan of a text finds these places and no others, and a line
ending may be scanned apart: no marker reaches across it, and none begins in it.

* `TodoMarker.Stands` — a marker, said of the text before it and the text from it on;
* `TodoMarker.mem_scan_iff` — the scan finds exactly the markers that stand in a text;
* `TodoMarker.pairwise_scan` — it finds them from left to right;
* `TodoMarker.scan_append` — the markers before a line ending and after it are found apart.
-/

namespace DocLint

/-! ## Letters -/

/-- A small letter is the character itself, or stands 32 behind a capital of ASCII. Whichever it is,
no character outside of ASCII is taken for one of the letters of a marker. -/
theorem toLower_eq_self_or (c : Char) :
    c.toLower = c ∨ (65 ≤ c.toNat ∧ c.toNat ≤ 90 ∧ c.toLower.toNat = c.toNat + 32) := by
  by_cases h : c.val ≥ 'A'.val ∧ c.val ≤ 'Z'.val
  · have hlow : 65 ≤ c.toNat := UInt32.le_iff_toNat_le.1 h.1
    have hhigh : c.toNat ≤ 90 := UInt32.le_iff_toNat_le.1 h.2
    have hsmall : c.toLower = ⟨c.val + ('a'.val - 'A'.val), _⟩ := dif_pos h
    refine .inr ⟨hlow, hhigh, ?_⟩
    rw [hsmall]
    change (c.val + 32).toNat = _
    rw [UInt32.toNat_add]
    refine Nat.mod_eq_of_lt ?_
    change c.toNat + 32 < 2 ^ 32
    omega
  · exact .inl (dif_neg h)

namespace TodoMarker

theorem toLower_eq_colon_iff {c : Char} : c.toLower = ':' ↔ c = ':' := by
  constructor
  · intro h
    rcases toLower_eq_self_or c with hself | ⟨hlow, -, hcapital⟩
    · rw [← hself, h]
    · rw [h] at hcapital
      change 58 = _ at hcapital
      omega
  · rintro rfl
    rfl

theorem not_isBlank_of_toLower_eq_t {c : Char} (h : c.toLower = 't') : Text.isBlank c = false := by
  rcases toLower_eq_self_or c with hself | ⟨-, -, hcapital⟩
  · rw [← hself, h]
    decide
  · rw [h] at hcapital
    change 116 = _ at hcapital
    have hc : c.toNat = 84 := by omega
    simp [Text.isBlank, hc]

/-! ## What a marker is -/

/-- A marker stands between two parts of a text: the second one starts with `todo:` in whatever
letter case, and the first one does not end with a word character. -/
structure Stands (before rest : List Char) : Prop where
  written : (rest.take 5).map Char.toLower = ['t', 'o', 'd', 'o', ':']
  starts : ∀ c ∈ before.getLast?, Text.isWord c = false

theorem startsHere_iff {rest : List Char} :
    startsHere rest = true ↔ (rest.take 5).map Char.toLower = ['t', 'o', 'd', 'o', ':'] := by
  rcases rest with _ | ⟨a, _ | ⟨b, _ | ⟨c, _ | ⟨d, _ | ⟨e, rest⟩⟩⟩⟩⟩ <;>
    simp [startsHere, toLower_eq_colon_iff, and_assoc]

theorem stands_iff {before rest : List Char} :
    Stands before rest ↔ (startsHere rest && !before.getLast?.any Text.isWord) = true := by
  rw [Bool.and_eq_true, startsHere_iff, Bool.not_eq_true', Bool.eq_false_iff, ne_eq,
    Option.any_eq_true]
  constructor
  · intro h
    refine ⟨h.written, ?_⟩
    rintro ⟨c, hc, hword⟩
    rw [h.starts c hc] at hword
    cases hword
  · rintro ⟨hwritten, hnone⟩
    refine ⟨hwritten, fun c hc => Bool.eq_false_iff.2 fun hword => ?_⟩
    exact hnone ⟨c, hc, hword⟩

/-- No marker starts where nothing is left, or at a blank, since each begins with a letter. -/
theorem startsHere_eq_false {rest : List Char} (h : ∀ c ∈ rest.head?, Text.isBlank c = true) :
    startsHere rest = false := by
  rw [Bool.eq_false_iff]
  intro hstarts
  have hwritten := startsHere_iff.1 hstarts
  cases rest with
  | nil => cases hwritten
  | cons c cs =>
    have ht : c.toLower = 't' := (List.cons.inj hwritten).1
    have hblank := h c rfl
    rw [not_isBlank_of_toLower_eq_t ht] at hblank
    cases hblank

/-! ## The scan

The scan goes over a text and carries along the place and the character before. Its results are told
without it: they are the cuts of the text at which a marker stands. -/

/-- The scan of a text, one character at a time: whether a marker starts is asked of the text from
there on, and of the one character before. -/
theorem scan_cons (p : Position) (b : Option Char) (c : Char) (cs : List Char) :
    scan p b (c :: cs) =
      (if startsHere (c :: cs) && !b.any Text.isWord then [(p, c :: cs)] else []) ++
        scan (p.next c) (some c) cs := by
  rw [scan]
  split <;> rfl

/-- **The scan finds exactly the markers that stand in a text**, each with its place and the text
from it on. -/
theorem mem_scan_iff {before cs rest : List Char} {q : Position} :
    (q, rest) ∈ scan (Position.after before) before.getLast? cs ↔
      ∃ gap, cs = gap ++ rest ∧ q = Position.after (before ++ gap) ∧ Stands (before ++ gap) rest := by
  induction cs generalizing before with
  | nil =>
    constructor
    · intro h
      cases h
    · rintro ⟨gap, hnil, -, hstands⟩
      obtain ⟨-, rfl⟩ := List.append_eq_nil_iff.1 hnil.symm
      cases hstands.written
  | cons c cs ih =>
    -- what the scan finds further on is told by the induction, with `c` among what comes before
    have hlater : (q, rest) ∈ scan ((Position.after before).next c) (some c) cs ↔
        ∃ gap, cs = gap ++ rest ∧ q = Position.after (before ++ c :: gap) ∧
          Stands (before ++ c :: gap) rest := by
      have h := @ih (before ++ [c])
      rw [Position.after_append_singleton, List.getLast?_concat] at h
      simpa only [List.append_assoc, List.singleton_append] using h
    rw [scan_cons, List.mem_append, hlater]
    constructor
    · rintro (hhere | ⟨gap, rfl, hplace, hstands⟩)
      · split at hhere
        · rename_i hcond
          obtain ⟨rfl, rfl⟩ := Prod.mk.inj (List.mem_singleton.1 hhere)
          refine ⟨[], rfl, by rw [List.append_nil], ?_⟩
          rw [List.append_nil]
          exact stands_iff.2 hcond
        · cases hhere
      · exact ⟨c :: gap, rfl, hplace, hstands⟩
    · rintro ⟨gap, heq, hplace, hstands⟩
      cases gap with
      | nil =>
        rw [List.nil_append] at heq
        rw [List.append_nil] at hplace hstands
        subst heq hplace
        rw [if_pos (stands_iff.1 hstands)]
        exact .inl (List.mem_singleton_self _)
      | cons d gap =>
        obtain ⟨rfl, rfl⟩ := List.cons.inj heq
        exact .inr ⟨gap, rfl, hplace, hstands⟩

/-- **Markers are found from left to right**: each one that is found stands behind those found
before it. -/
theorem pairwise_scan (p : Position) (b : Option Char) (cs : List Char) :
    (scan p b cs).Pairwise fun m n => m.1.offset < n.1.offset := by
  induction cs generalizing p b with
  | nil => exact List.Pairwise.nil
  | cons c cs ih =>
    rw [scan_cons]
    refine List.pairwise_append.2 ⟨?_, ih _ _, ?_⟩
    · split
      · exact List.pairwise_singleton _ _
      · exact List.Pairwise.nil
    · intro m hm n hn
      split at hm
      · obtain rfl := List.mem_singleton.1 hm
        obtain ⟨gap, -, -, hplace⟩ := of_mem_scan hn
        have hc : 0 < c.utf8Size := Char.utf8Size_pos c
        have hnext := Position.offset_advance p [c]
        rw [Position.advance_cons, Position.advance_nil, Text.byteSize_cons,
          Text.byteSize_nil] at hnext
        rw [hplace, Position.offset_advance]
        change p.offset < _
        omega
      · cases hm

/-- Nothing stands in a text without a visible character, so that blank lines may be left out of a
scan. -/
theorem scan_eq_nil {p : Position} {b : Option Char} {cs : List Char}
    (h : ∀ c ∈ cs, Text.isBlank c = true) : scan p b cs = [] := by
  induction cs generalizing p b with
  | nil => rfl
  | cons c cs ih =>
    have hhere : startsHere (c :: cs) = false := by
      refine startsHere_eq_false fun d hd => ?_
      obtain rfl := Option.some.inj hd
      exact h _ (List.mem_cons_self ..)
    rw [scan_cons, hhere, ih fun d hd => h d (List.mem_cons_of_mem _ hd)]
    rfl

/-! ## Line endings

At a line ending a scan can be cut in two. In front of it no marker reaches further, and behind it
none is kept from starting by what was before. -/

/-- What ends a line. No letter of a marker is such a character, and none of them is part of a
word. -/
def IsLineEnd (c : Char) : Prop := c = '\r' ∨ c = '\n'

theorem IsLineEnd.not_isWord {c : Char} (h : IsLineEnd c) : Text.isWord c = false := by
  rcases h with rfl | rfl <;> decide

theorem IsLineEnd.isBlank {c : Char} (h : IsLineEnd c) : Text.isBlank c = true := by
  rcases h with rfl | rfl <;> decide

/-- The character before what follows `c :: cs` is found in `cs`, or is `c`. So it is the same
whether one looks back from the end or carries it along. -/
theorem last_cons (c : Char) (cs : List Char) (b : Option Char) :
    (c :: cs).getLast?.or b = cs.getLast?.or (some c) := by
  rw [List.getLast?_cons]
  cases cs.getLast? <;> rfl

/-- A marker does not reach into a line ending, so that it can be told from the line alone whether
one starts there. -/
theorem startsHere_append {x y : List Char} (hx : x ≠ []) (hy : ∀ c ∈ y.head?, IsLineEnd c) :
    startsHere (x ++ y) = startsHere x := by
  rcases y with _ | ⟨e, y⟩
  · rw [List.append_nil]
  · have he : e.toLower ≠ 'o' ∧ e.toLower ≠ 'd' ∧ e.toLower ≠ ':' := by
      rcases hy e rfl with rfl | rfl <;> decide
    rw [Bool.eq_iff_iff, startsHere_iff, startsHere_iff]
    rcases x with _ | ⟨a, _ | ⟨b, _ | ⟨c, _ | ⟨d, _ | ⟨f, x⟩⟩⟩⟩⟩
    · exact absurd rfl hx
    all_goals simp [he]

/-- **Apart at a line ending**: the markers before it and those from it on are found apart. -/
theorem scan_append {x y : List Char} (hy : ∀ c ∈ y.head?, IsLineEnd c) (p : Position)
    (b : Option Char) :
    scan p b (x ++ y) =
      (scan p b x).map (fun m => (m.1, m.2 ++ y)) ++ scan (p.advance x) (x.getLast?.or b) y := by
  induction x generalizing p b with
  | nil => rfl
  | cons c cs ih =>
    have hhere : startsHere (c :: cs ++ y) = startsHere (c :: cs) :=
      startsHere_append (List.cons_ne_nil _ _) hy
    rw [List.cons_append] at hhere ⊢
    rw [scan_cons, scan_cons, hhere, ih, last_cons, List.map_append, List.append_assoc]
    split <;> rfl

/-- No marker begins in a line ending, and as a line ending is no part of a word, the scan goes on
behind it as at the start of a text. -/
theorem scan_lineEnd {e : List Char} (he : ∀ c ∈ e, IsLineEnd c) (p : Position) (b : Option Char)
    (cs : List Char) : scan p b (e ++ cs) = scan (p.advance e) (e.getLast?.or b) cs := by
  induction e generalizing p b with
  | nil => rfl
  | cons c e ih =>
    have hhere : startsHere (c :: (e ++ cs)) = false := by
      refine startsHere_eq_false fun d hd => ?_
      obtain rfl := Option.some.inj hd
      exact (he _ (List.mem_cons_self ..)).isBlank
    have hlater := @ih fun d hd => he d (List.mem_cons_of_mem _ hd)
    rw [List.cons_append, scan_cons, hhere, last_cons, hlater]
    rfl

/-- After a character that is in no word a text is scanned as from its start. A line ending is such
a character, and so lines can be scanned one by one. -/
theorem scan_some {c : Char} (hc : Text.isWord c = false) (p : Position) (cs : List Char) :
    scan p (some c) cs = scan p none cs := by
  cases cs with
  | nil => rfl
  | cons d cs =>
    rw [scan_cons, scan_cons]
    simp [hc]

end TodoMarker

end DocLint
