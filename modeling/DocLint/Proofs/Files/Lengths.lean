import DocLint.Proofs.Files.Walking

/-!
# How long paths are

A path that is too long leads nowhere, whatever there is. So when one path is found by way of others
it must be told that none of them is longer. What counts is not the length of a path itself but that
of the text in front of a name behind it, with a slash at its end if there is none: a path that ends
with a slash and one that does not make the same text with a name.

* `Path.front` — what stands in front of a name behind a path, and `Path.toList_join`;
* `Path.front_join` — the same of a path with a name behind it;
* `Path.fits_foldl_join` — behind a path whose front is no longer, the same names fit as well;
* `Path.byteSize_front_of_mem` — the front gets no longer on the way up.
-/

namespace DocLint.Files.Path

open Text (byteSize byteSize_append)

/-- A text with a slash at its end: one is put there if there is none. A path is put in front of a
name like this. -/
def slashed (cs : List Char) : List Char := if cs.getLast? = some '/' then cs else cs ++ ['/']

theorem slashed_cons (c : Char) (cs : List Char) :
    slashed (c :: cs) = c :: if cs = [] ∧ c = '/' then [] else slashed cs := by
  cases cs with
  | nil => by_cases hc : c = '/' <;> simp [slashed, hc]
  | cons d cs =>
    have hne : ¬ (d :: cs = [] ∧ c = '/') := fun h => List.cons_ne_nil d cs h.1
    rw [if_neg hne, slashed, slashed, List.getLast?_cons_cons]
    split <;> rfl

/-- What stands in front of a name behind a path. The empty path adds nothing to a name. -/
def front (path : String) : List Char := if path.toList = [] then [] else slashed path.toList

theorem front_of_ne {path : String} (h : path.toList ≠ []) : front path = slashed path.toList :=
  if_neg h

/-! ## Behind a path -/

section join

variable {piece : String}

/-- **A part behind a path** is put behind its last slash, or behind one that is put there; behind
the empty path it stands alone. -/
theorem toList_join (hslash : '/' ∉ piece.toList) (path : String) :
    (join path piece).toList = front path ++ piece.toList := by
  rw [Disk.join_relative hslash, front]
  by_cases hne : path.toList = []
  · rw [if_pos hne, if_pos hne]
    rfl
  · rw [if_neg hne, if_neg hne, slashed]
    split
    · rw [String.toList_append]
    · rw [String.toList_append, String.toList_append]
      rfl

/-- One part more, and a slash: an empty part adds nothing, as the path ends with a slash then and
is not given another one. -/
theorem front_join (hslash : '/' ∉ piece.toList) (path : String) :
    front (join path piece) =
      front path ++ if piece.toList = [] then [] else piece.toList ++ ['/'] := by
  have htext := toList_join hslash path
  by_cases hempty : piece.toList = []
  · rw [if_pos hempty, List.append_nil]
    rw [hempty, List.append_nil] at htext
    -- the path itself, with a slash at its end
    rw [front, htext, front]
    by_cases hne : path.toList = []
    · rw [if_pos hne, if_pos rfl]
    · have hend : (slashed path.toList).getLast? = some '/' := by
        rw [slashed]
        split
        · assumption
        · exact List.getLast?_concat
      have hsome : slashed path.toList ≠ [] := fun h => by
        rw [h] at hend
        cases hend
      rw [if_neg hne, if_neg hsome, slashed, if_pos hend]
  · have hlast : (front path ++ piece.toList).getLast? ≠ some '/' := by
      rw [List.getLast?_append_of_ne_nil _ hempty]
      exact fun h => hslash (List.mem_of_getLast? h)
    rw [if_neg hempty, front, htext, if_neg (List.append_ne_nil_of_right_ne_nil _ hempty), slashed,
      if_neg hlast, List.append_assoc]

/-- **One part more** makes the front longer by its bytes and a slash, at most. Behind the slash it
had already, no other is put. -/
theorem byteSize_front_join_le (hslash : '/' ∉ piece.toList) (path : String) :
    byteSize (front (join path piece)) ≤ byteSize (front path) + (byteSize piece.toList + 1) := by
  rw [front_join hslash, byteSize_append]
  refine Nat.add_le_add_left ?_ _
  split
  · exact Nat.zero_le _
  · exact Nat.le_of_eq (byteSize_append piece.toList ['/'])

end join

/-! ## Paths that fit

How long a path is counts only where it is looked up. Two paths to one place are of use for the same
names if neither has a longer front than the other. -/

theorem fits_iff {path : String} : fits path = true ↔ byteSize path.toList ≤ maxBytes :=
  decide_eq_true_iff

theorem byteSize_front_le (path : String) : byteSize (front path) ≤ byteSize path.toList + 1 := by
  rw [front, slashed]
  split
  · exact Nat.zero_le _
  · split
    · exact Nat.le_succ _
    · exact Nat.le_of_eq (byteSize_append path.toList ['/'])

theorem byteSize_le_front (path : String) : byteSize path.toList ≤ byteSize (front path) := by
  rw [front, slashed]
  split
  · rename_i hempty
    exact Nat.le_of_eq (congrArg byteSize hempty)
  · split
    · exact Nat.le_refl _
    · rw [byteSize_append]
      exact Nat.le_add_right _ _

/-- Behind a path whose front is no longer, a part fits if it does behind the other. How the two are
spelled makes no difference to it, and neither does what they lead to. -/
theorem fits_join {path other piece : String} (hslash : '/' ∉ piece.toList)
    (hle : byteSize (front path) ≤ byteSize (front other)) (h : fits (join other piece) = true) :
    fits (join path piece) = true := by
  rw [fits_iff, toList_join hslash, byteSize_append] at h ⊢
  omega

/-- **The same names fit** behind a path whose front is no longer. By induction on the names, since
the fronts are as long as before behind one name more. -/
theorem fits_foldl_join {names : List String} (hnames : ∀ name ∈ names, Disk.IsName name)
    (hne : names ≠ []) {path other : String}
    (hle : byteSize (front path) ≤ byteSize (front other))
    (h : fits (names.foldl join other) = true) : fits (names.foldl join path) = true := by
  induction names generalizing path other with
  | nil => exact absurd rfl hne
  | cons name names ih =>
    obtain ⟨hname, hnames⟩ := List.forall_mem_cons.1 hnames
    by_cases hmore : names = []
    · subst hmore
      exact fits_join hname.no_slash hle h
    · refine ih hnames hmore ?_ h
      rw [front_join hname.no_slash, front_join hname.no_slash, byteSize_append, byteSize_append]
      exact Nat.add_le_add_right hle _

/-! ## On the way up

A path further up is a part of the one below. So where a name can be looked up in a directory, it
can be looked up in all that are on the way. -/

/-- One step up leaves the start of the text. Nothing is put there in place of what is cut off. -/
theorem prefix_of_parent? {p q : String} (h : parent? p = some q) : q.toList <+: p.toList := by
  obtain ⟨-, habsolute, hbody⟩ := of_parent? h
  rw [toList_eq p, toList_eq q, habsolute, hbody, List.prefix_append_right_inj]
  rw [← List.reverse_reverse (body p), List.reverse_prefix, List.reverse_reverse]
  exact (bare_suffix ..).trans ((List.dropWhile_suffix _).trans (bare_suffix ..))

/-- One step up makes the front no longer: a slash at its end takes the place of what is cut off. -/
theorem byteSize_front_of_parent? {p q : String} (h : parent? p = some q) :
    byteSize (front q) ≤ byteSize (front p) := by
  obtain ⟨rest, hrest⟩ := prefix_of_parent? h
  cases rest with
  | nil =>
    have hlt := length_lt_of_parent? h
    rw [List.append_nil, String.toList_inj] at hrest
    rw [hrest] at hlt
    exact absurd hlt (Nat.lt_irrefl _)
  | cons c rest =>
    -- one byte at least is cut off, and that is room enough for a slash
    have hc : 0 < c.utf8Size := Char.utf8Size_pos c
    calc
      byteSize (front q) ≤ byteSize q.toList + 1 := byteSize_front_le q
      _ ≤ byteSize q.toList + byteSize (c :: rest) := by
        rw [Text.byteSize_cons]
        omega
      _ = byteSize p.toList := by rw [← byteSize_append, hrest]
      _ ≤ byteSize (front p) := byteSize_le_front p

/-- **The front gets no longer** on the way up. So what can be looked up behind a path, by the
length of it, can be looked up behind every path above. -/
theorem byteSize_front_of_mem {a p : String} {above : List String} (hway : Ascends p above)
    (h : a ∈ above) : byteSize (front a) ≤ byteSize (front p) := by
  induction hway with
  | @top p hp =>
    obtain rfl := List.mem_singleton.1 h
    exact Nat.le_refl _
  | @up p q above hp _ ih =>
    rcases List.mem_cons.1 h with rfl | h
    · exact Nat.le_refl _
    · exact Nat.le_trans (ih h) (byteSize_front_of_parent? hp)

end DocLint.Files.Path
