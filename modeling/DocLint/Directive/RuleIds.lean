import DocLint.Text.Blank
import DocLint.Text.Search

/-!
# Lists of rule ids

Rule ids are written between commas, with blanks around them as one likes. A list stands for a set:
it is kept in ascending order, each id once, and what is empty after trimming is no id.

* `closeUp` — the text with the blanks around each comma taken out;
* `parse` — the ids of a text, read from its closed-up form;
* `pairwise_parse` — the ids of a text ascend, so each of them is there once;
* `ofList_of_pairwise` — an ascending list is the set of its members as it stands.
-/

namespace DocLint.RuleIds

/-- Take the blanks around each comma out. `held` are blanks that a comma may still follow, last
first; after a comma blanks are not held at all. -/
def closeUpFrom (held : List Char) (afterComma : Bool) : List Char → List Char
  | [] => held.reverse
  | c :: cs =>
    if c = ',' then ',' :: closeUpFrom [] true cs
    else if Text.isBlank c then
      if afterComma then closeUpFrom [] true cs else closeUpFrom (c :: held) false cs
    else held.reverse ++ c :: closeUpFrom [] false cs

/-- A text with the blanks around each comma taken out. -/
def closeUp (cs : List Char) : List Char := closeUpFrom [] false cs

/-- Put an id into its place in an ascending list, unless it is there already. -/
def insert (id : String) : List String → List String
  | [] => [id]
  | x :: xs => if id < x then id :: x :: xs else if id = x then x :: xs else x :: insert id xs

/-- The set of some ids, as an ascending list. -/
def ofList (ids : List String) : List String := ids.foldr insert []

/-- The ids between the commas of a text. -/
def parse (cs : List Char) : List String :=
  ofList (((Text.pieces ',' (closeUp cs)).map Text.trim).filterMap fun id =>
    if id.isEmpty then none else some (String.ofList id))

theorem mem_insert {id x : String} {xs : List String} : x ∈ insert id xs ↔ x = id ∨ x ∈ xs := by
  induction xs with
  | nil => simp [insert]
  | cons y ys ih =>
    rw [insert]
    split
    · simp
    · split
      · subst id
        simp
      · simp only [List.mem_cons, ih]
        exact or_left_comm

/-- A set has the members of the list it was made from. -/
theorem mem_ofList {x : String} {ids : List String} : x ∈ ofList ids ↔ x ∈ ids := by
  induction ids with
  | nil => simp [ofList]
  | cons id ids ih => simp [ofList, mem_insert] at ih ⊢; simp [ih]

/-- An ascending list stays ascending when an id is put into its place. -/
theorem pairwise_insert {id : String} {xs : List String} (h : xs.Pairwise (· < ·)) :
    (insert id xs).Pairwise (· < ·) := by
  induction xs with
  | nil => simp [insert]
  | cons x xs ih =>
    obtain ⟨hx, hxs⟩ := List.pairwise_cons.1 h
    rw [insert]
    by_cases hlt : id < x
    · rw [if_pos hlt]
      refine List.pairwise_cons.2 ⟨fun y hy => ?_, h⟩
      rcases List.mem_cons.1 hy with rfl | hy
      · exact hlt
      · exact String.lt_trans hlt (hx y hy)
    · rw [if_neg hlt]
      by_cases heq : id = x
      · rw [if_pos heq]
        exact h
      · rw [if_neg heq]
        have hgt : x < id := by grind
        refine List.pairwise_cons.2 ⟨fun y hy => ?_, ih hxs⟩
        rcases mem_insert.1 hy with rfl | hy
        · exact hgt
        · exact hx y hy

theorem pairwise_ofList (ids : List String) : (ofList ids).Pairwise (· < ·) := by
  induction ids with
  | nil => exact List.Pairwise.nil
  | cons id ids ih => exact pairwise_insert ih

/-- An id that comes before all others is put in front of them. -/
theorem insert_of_forall_lt {id : String} {xs : List String} (h : ∀ x ∈ xs, id < x) :
    insert id xs = id :: xs := by
  cases xs with
  | nil => rfl
  | cons x xs => rw [insert, if_pos (h x (List.mem_cons_self ..))]

/-- A list that ascends is the set of its members as it stands. -/
theorem ofList_of_pairwise {ids : List String} (h : ids.Pairwise (· < ·)) : ofList ids = ids := by
  induction ids with
  | nil => rfl
  | cons id ids ih =>
    obtain ⟨hid, hids⟩ := List.pairwise_cons.1 h
    have hrest : ids.foldr insert [] = ids := ih hids
    rw [ofList, List.foldr_cons, hrest]
    exact insert_of_forall_lt hid

/-- The ids of a text ascend. -/
theorem pairwise_parse (cs : List Char) : (parse cs).Pairwise (· < ·) := pairwise_ofList _

end DocLint.RuleIds
