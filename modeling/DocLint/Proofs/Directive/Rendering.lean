import DocLint.Proofs.Directive.Comments
import DocLint.Proofs.Directive.RuleIds
import DocLint.Proofs.Suppression
import Mathlib.Data.List.Infix

/-!
# Writing directives and reading them back

A directive is written as a comment with the keyword and the ids in it. Reading undoes writing,
whatever stands between the comments: comments are found where they were put, the keyword is found
in the place where it was put or a place before that differs only in blanks, and the ids are set
apart by the commas.

* `Directive.written`, `Directive.markup` — a directive as a comment, and comments in a text;
* `Directive.parse?_body` — the body of a written comment is read as the set of its ids;
* `Suppressor.visit_markup` — after markup made of directives the last of them waits.
-/

namespace DocLint

namespace Directive

/-- A directive as a comment, with a blank at each end and a comma and a blank between ids. -/
def written (keyword : String) (ids : List String) : String :=
  "<!-- " ++ keyword ++ " " ++ ", ".intercalate ids ++ " -->"

/-- Directives as comments, each with a gap before it, and what comes after the last one. -/
def markup (keyword : String) : List (String × List String) → String → String
  | [], tail => tail
  | (gap, ids) :: cs, tail => gap ++ (written keyword ids ++ markup keyword cs tail)

/-- A gap in which no comment opens, and ids that can be told apart and do not close one. -/
structure Separable (gap : String) (ids : List String) : Prop where
  gap : ¬Comments.opening <:+: gap.toList
  clean : ∀ id ∈ ids, RuleIds.Clean id
  ids : ∀ id ∈ ids, ¬Comments.closing <:+: id.toList

theorem separable_iff {gap : String} {ids : List String} :
    Separable gap ids ↔ ¬Comments.opening <:+: gap.toList ∧ (∀ id ∈ ids, RuleIds.Clean id) ∧
      ∀ id ∈ ids, ¬Comments.closing <:+: id.toList :=
  ⟨fun h => ⟨h.gap, h.clean, h.ids⟩, fun h => ⟨h.1, h.2.1, h.2.2⟩⟩

instance (gap : String) (ids : List String) : Decidable (Separable gap ids) :=
  decidable_of_iff' _ separable_iff

/-! ## One comment

The reader takes the first place where the keyword fits. In the body of a written comment only a
blank is in front of the keyword, so that this is where it was put or one place before. -/

/-- What a written comment has between its delimiters: the keyword between blanks, and the ids
behind it. -/
def body (keyword : String) (ids : List String) : List Char :=
  ' ' :: (keyword.toList ++ ' ' :: ((", ".intercalate ids).toList ++ [' ']))

theorem toList_written (keyword : String) (ids : List String) :
    (written keyword ids).toList = Comments.opening ++ (body keyword ids ++ Comments.closing) := by
  simp [written, body, Comments.opening, Comments.closing]

theorem not_infix_intercalate {ids : List String}
    (hids : ∀ id ∈ ids, ¬Comments.closing <:+: id.toList) :
    ¬Comments.closing <:+: (", ".intercalate ids).toList := by
  induction ids with
  | nil => decide
  | cons id ids ih =>
    obtain ⟨hid, hrest⟩ := List.forall_mem_cons.1 hids
    cases ids with
    | nil => rwa [String.intercalate_singleton]
    | cons id' ids =>
      rw [RuleIds.toList_intercalate_cons_cons]
      -- the empty text stands between the comma and the blank
      refine Text.not_infix_append_cons (by decide) hid ?_
      exact @Text.not_infix_append_cons _ [] _ ' ' (by decide) (by decide) (ih hrest)

/-- Nothing closes the comment before its end: no delimiter has a blank or a comma in it. -/
theorem not_infix_body {keyword : String} {ids : List String}
    (hkeyword : ¬Comments.closing <:+: keyword.toList)
    (hids : ∀ id ∈ ids, ¬Comments.closing <:+: id.toList) :
    ¬Comments.closing <:+: body keyword ids := by
  have hlist := Text.not_infix_append_cons (by decide : ' ' ∉ Comments.closing)
    (not_infix_intercalate hids) (by decide : ¬Comments.closing <:+: [])
  have hrest := Text.not_infix_append_cons (by decide : ' ' ∉ Comments.closing) hkeyword hlist
  exact Text.not_infix_append_cons (by decide : ' ' ∉ Comments.closing)
    (by decide : ¬Comments.closing <:+: []) hrest

/-- **The body of a written comment is read as the set of its ids.** It makes no difference whether
the keyword is found where it was put or one blank before. -/
theorem parse?_body {keyword : String} {ids : List String} (hkeyword : keyword ≠ "")
    (hids : ∀ id ∈ ids, RuleIds.Clean id) :
    parse? keyword (body keyword ids) = some ⟨RuleIds.ofList ids⟩ := by
  have hne : keyword.isEmpty = false := by simpa using hkeyword
  rw [parse?, hne, if_neg Bool.false_ne_true, body]
  have hlist (n : Nat) : RuleIds.parse (List.replicate n ' ' ++
      ((", ".intercalate ids).toList ++ List.replicate 1 ' ')) = RuleIds.ofList ids :=
    RuleIds.parse_intercalate hids RuleIds.separator_comma_blank
      (fun _ => Text.isBlank_of_mem_spaces) fun _ => Text.isBlank_of_mem_spaces
  -- the keyword may start with the blank before it, but then it leaves one more blank behind it
  rcases Text.splitOnce?_cons_append keyword.toList ' '
    (' ' :: ((", ".intercalate ids).toList ++ [' '])) with h | h
  · rw [h, Option.map_some]
    exact congrArg (fun r => some (Directive.mk r)) (hlist 1)
  · rw [h, Option.map_some]
    exact congrArg (fun r => some (Directive.mk r)) (hlist 2)

/-! ## Comments in a text -/

/-- The parts of a text of written directives, as the gaps and bodies of its comments. -/
def parts (keyword : String) (comments : List (String × List String)) :
    List (List Char × List Char) :=
  comments.map fun (gap, ids) => (gap.toList, body keyword ids)

theorem toList_markup (keyword : String) (comments : List (String × List String)) (tail : String) :
    (markup keyword comments tail).toList =
      Comments.written (parts keyword comments) tail.toList := by
  induction comments with
  | nil => rfl
  | cons c cs ih =>
    obtain ⟨gap, ids⟩ := c
    rw [markup, String.toList_append, String.toList_append, toList_written, ih, List.append_assoc,
      List.append_assoc]
    rfl

/-- The bodies of written directives are read back. Nothing in a gap opens a comment and nothing in
a body closes one, so that each delimiter is found where it was put. -/
theorem bodies_markup {keyword tail : String} {comments : List (String × List String)}
    (hkeyword : ¬Comments.closing <:+: keyword.toList)
    (hcomments : ∀ c ∈ comments, Separable c.1 c.2)
    (htail : ¬Comments.opening <:+: tail.toList) :
    Comments.bodies (markup keyword comments tail).toList =
      comments.map fun c => body keyword c.2 := by
  have hparts : ∀ p ∈ parts keyword comments,
      ¬Comments.opening <:+: p.1 ∧ ¬Comments.closing <:+: p.2 := by
    intro p hp
    obtain ⟨c, hc, rfl⟩ := List.mem_map.1 hp
    obtain ⟨hgap, -, hids⟩ := hcomments c hc
    exact ⟨hgap, not_infix_body hkeyword hids⟩
  rw [toList_markup, Comments.bodies_written hparts (Comments.first?_eq_none htail), parts,
    List.map_map]
  rfl

end Directive

namespace Suppressor

/-- The last of the directives that are written in some markup waits after it. The comments are gone
through from the last one, and what comes before it is not looked at. -/
theorem pending_visit_of_bodies {s : Suppressor} {node : Node} (hkind : node.kind = .html)
    {bodies : List (List Char)} {last : List Char} {d : Directive}
    (hbodies : Comments.bodies (markupText s.source node) = bodies ++ [last])
    (hlast : Directive.parse? s.keyword last = some d) :
    (s.visit node).pending = ⟨true, d.ruleIds⟩ := by
  rw [pending_visit_html hkind, hbodies, List.reverse_append, List.reverse_singleton,
    List.singleton_append, List.findSome?_cons, hlast]
  rfl

/-- **Reading undoes writing.** After raw markup made of directives, written with the keyword of the
suppressor and with anything between them that opens no comment, exactly the ids of the last one
wait for the next node. So a directive with ids is never read as one for every rule, and one without
ids always is. -/
theorem visit_markup {s : Suppressor} {node : Node} {comments : List (String × List String)}
    {gap tail : String} {ids : List String} (hkind : node.kind = .html)
    (hne : s.keyword ≠ "") (hkeyword : ¬Comments.closing <:+: s.keyword.toList)
    (hcomments : ∀ c ∈ comments ++ [(gap, ids)], Directive.Separable c.1 c.2)
    (htail : ¬Comments.opening <:+: tail.toList)
    (htext : markupText s.source node =
      (Directive.markup s.keyword (comments ++ [(gap, ids)]) tail).toList) :
    (s.visit node).pending = ⟨true, RuleIds.ofList ids⟩ ∧
      (∀ id, id ∈ (s.visit node).pending.ruleIds ↔ id ∈ ids) ∧
      (s.visit node).pending.ruleIds.Pairwise (· < ·) ∧
      ((s.visit node).pending.ruleIds = [] ↔ ids = []) := by
  have hlast : Directive.Separable gap ids := hcomments (gap, ids) (by simp)
  have hbodies : Comments.bodies (markupText s.source node) =
      (comments.map fun c => Directive.body s.keyword c.2) ++ [Directive.body s.keyword ids] := by
    rw [htext, Directive.bodies_markup hkeyword hcomments htail, List.map_append]
    rfl
  have hpending := pending_visit_of_bodies hkind hbodies (Directive.parse?_body hne hlast.clean)
  have hmem (id : String) : id ∈ RuleIds.ofList ids ↔ id ∈ ids := RuleIds.mem_ofList
  rw [hpending]
  refine ⟨rfl, hmem, RuleIds.pairwise_ofList ids, ?_⟩
  simp only [List.eq_nil_iff_forall_not_mem, hmem]

/-- A suppressor whose keyword could be part of a delimiter, with another directive waiting. -/
def dashed : Suppressor where
  source := "<!-<!-- -- a --> <!-- -- c, b, c -->->".toList
  keyword := "--"
  pending := ⟨true, ["a"]⟩

/-- The markup of its source, all of it. It has no value of its own, so that what it covers is
read. -/
def dashedMarkup : Node where
  kind := .html
  span := ⟨⟨1, 1, 0⟩, ⟨1, 39, 38⟩⟩

/-- The texts around the comments look like delimiters too, and one id is written twice. -/
theorem visit_dashed : (dashed.visit dashedMarkup).pending = ⟨true, ["b", "c"]⟩ := by
  have hids : RuleIds.ofList ["c", "b", "c"] = ["b", "c"] := by decide
  have hread := @visit_markup dashed dashedMarkup [("<!-", ["a"])] " " "->" ["c", "b", "c"] rfl
    (by decide) (by decide +kernel) (by decide +kernel) (by decide +kernel) (by decide +kernel)
  rw [hread.1, hids]

end Suppressor

end DocLint
