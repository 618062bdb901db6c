import DocLint.Text.Search

/-!
# Markup comments

A comment opens with `<!--` and closes at the first `-->` after that; its body is what lies between.
Comments are read left to right and do not overlap, so an opening inside a body belongs to the body.

* `bodies` — the bodies of all comments of a text;
* `bodies_eq_cons` — the first body, and the text the others are read from.
-/

namespace DocLint.Comments

/-- What opens a comment. -/
def opening : List Char := ['<', '!', '-', '-']

/-- What closes a comment. -/
def closing : List Char := ['-', '-', '>']

/-- The first comment of a text: its body, and the text after it. -/
def first? (cs : List Char) : Option (List Char × List Char) :=
  (Text.splitOnce? opening cs).bind fun (_, rest) => Text.splitOnce? closing rest

theorem length_of_first? {cs body rest : List Char} (h : first? cs = some (body, rest)) :
    rest.length < cs.length := by
  obtain ⟨⟨gap, inner⟩, ho, hc⟩ := Option.bind_eq_some_iff.1 h
  have h₁ := Text.length_of_splitOnce? ho
  have h₂ := Text.length_of_splitOnce? hc
  simp [opening, closing] at h₁ h₂
  omega

/-- The bodies of the comments of a text, left to right. -/
def bodies (cs : List Char) : List (List Char) :=
  match _h : first? cs with
  | none => []
  | some (body, rest) => body :: bodies rest
termination_by cs.length
decreasing_by exact length_of_first? _h

/-- Whether a text has a comment at all. -/
def hasComment (cs : List Char) : Bool := (first? cs).isSome

theorem bodies_eq_nil {cs : List Char} (h : first? cs = none) : bodies cs = [] := by
  rw [bodies]
  split <;> simp_all

/-- The first body comes first; the others are read from the text after it. -/
theorem bodies_eq_cons {cs body rest : List Char} (h : first? cs = some (body, rest)) :
    bodies cs = body :: bodies rest := by
  rw [bodies]
  split <;> simp_all

end DocLint.Comments
