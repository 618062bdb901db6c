import DocLint.Directive.Comments

/-!
# Reading the comments of a text put together from parts

Gaps without an opening and bodies without a closing can be put together to a text in one way only
that a reader can undo: neither delimiter overlaps itself, so none is found where parts meet. What
follows the last comment may still open one, as long as nothing closes it. Read the other way round,
every text comes apart like this, and in no second way: the first comment determines the gap before
it, and the rest of the text is taken apart in turn.

* `Comments.written` — a text with given gaps and bodies;
* `Comments.bodies_written` — its bodies are read back;
* `Comments.first?_eq_some_iff`, `first?_eq_none_iff` — what the first comment is, and when there is
  none;
* `Comments.Decomposes` — what it is to take a text apart at its comments;
* `Comments.decomposition_exact` — every text comes apart in exactly one way, and its bodies are the
  ones that are read.
-/

namespace DocLint.Comments

theorem unbordered_opening : Text.Unbordered opening := by decide

theorem unbordered_closing : Text.Unbordered closing := by decide

/-- A text made of comments, each with a gap before it, and of what comes after the last one. -/
def written : List (List Char × List Char) → List Char → List Char
  | [], tail => tail
  | (gap, body) :: cs, tail => gap ++ (opening ++ (body ++ (closing ++ written cs tail)))

/-- The first comment is found behind the first gap: there is no opening delimiter in the gap, and
none can begin in it and end behind it. -/
theorem first?_append {gap body : List Char} (hgap : ¬opening <:+: gap)
    (hbody : ¬closing <:+: body) (rest : List Char) :
    first? (gap ++ (opening ++ (body ++ (closing ++ rest)))) = some (body, rest) := by
  rw [first?, unbordered_opening.splitOnce?_append hgap]
  exact unbordered_closing.splitOnce?_append hbody rest

theorem first?_eq_none {cs : List Char} (h : ¬opening <:+: cs) : first? cs = none := by
  rw [first?, Text.splitOnce?_eq_none h]
  rfl

/-- **The bodies are read back**, in order: behind each closing the reader stands where the writer
stood, before the next gap. -/
theorem bodies_written {cs : List (List Char × List Char)} {tail : List Char}
    (hcs : ∀ c ∈ cs, ¬opening <:+: c.1 ∧ ¬closing <:+: c.2) (htail : first? tail = none) :
    bodies (written cs tail) = cs.map Prod.snd := by
  induction cs with
  | nil => exact bodies_eq_nil htail
  | cons c cs ih =>
    obtain ⟨gap, body⟩ := c
    obtain ⟨hgap, hbody⟩ := hcs _ (List.mem_cons_self ..)
    rw [written, bodies_eq_cons (first?_append hgap hbody _),
      ih fun c hc => hcs c (List.mem_cons_of_mem _ hc), List.map_cons]

/-! ## The first comment -/

/-- A text without a comment: nothing opens one, or nothing closes the first one that is opened. -/
def Bare (cs : List Char) : Prop :=
  ¬opening <:+: cs ∨
    ∃ gap inner, cs = gap ++ (opening ++ inner) ∧ ¬opening <:+: gap ∧ ¬closing <:+: inner

/-- The first comment starts at the first opening and ends at the first closing behind that. -/
theorem first?_eq_some_iff {cs body rest : List Char} :
    first? cs = some (body, rest) ↔
      ∃ gap, ¬opening <:+: gap ∧ ¬closing <:+: body ∧
        cs = gap ++ (opening ++ (body ++ (closing ++ rest))) := by
  constructor
  · intro h
    obtain ⟨⟨gap, inner⟩, ho, hc⟩ := Option.bind_eq_some_iff.1 h
    refine ⟨gap, ?_, ?_, ?_⟩
    · exact Text.not_infix_of_splitOnce? (List.cons_ne_nil _ _) ho
    · exact Text.not_infix_of_splitOnce? (List.cons_ne_nil _ _) hc
    · rw [Text.splitOnce?_eq_some ho, Text.splitOnce?_eq_some hc, List.append_assoc,
        List.append_assoc]
  · rintro ⟨gap, hgap, hbody, rfl⟩
    exact first?_append hgap hbody rest

theorem first?_eq_none_iff {cs : List Char} : first? cs = none ↔ Bare cs := by
  constructor
  · intro h
    cases ho : Text.splitOnce? opening cs with
    | none => exact .inl (Text.splitOnce?_eq_none_iff.1 ho)
    | some parts =>
      obtain ⟨gap, inner⟩ := parts
      rw [first?, ho] at h
      refine .inr ⟨gap, inner, ?_, ?_, Text.splitOnce?_eq_none_iff.1 h⟩
      · rw [Text.splitOnce?_eq_some ho, List.append_assoc]
      · exact Text.not_infix_of_splitOnce? (List.cons_ne_nil _ _) ho
  · rintro (h | ⟨gap, inner, rfl, hgap, hinner⟩)
    · exact first?_eq_none h
    · rw [first?, unbordered_opening.splitOnce?_append hgap]
      exact Text.splitOnce?_eq_none hinner

/-! ## Taking a text apart

A text comes apart at its first comment: into the gap in front of it, its body, and a rest that
comes apart in turn. That it does so at all goes by recursion on the rest, and that it does so in
one way by induction on the comments of one of two decompositions. -/

/-- The parts of a text: comments, each a body with the gap before it, and what comes after. -/
structure Decomposition where
  comments : List (List Char × List Char)
  tail : List Char

namespace Decomposition

/-- The bodies of the comments, in order. -/
def bodies (d : Decomposition) : List (List Char) := d.comments.map Prod.snd

/-- The parts with one more comment before them. -/
def cons (gap body : List Char) (d : Decomposition) : Decomposition :=
  ⟨(gap, body) :: d.comments, d.tail⟩

end Decomposition

/-- Some parts make up a text, and each of them ends as soon as it can: no gap holds an opening, no
body a closing, and the tail no comment. -/
structure Decomposes (cs : List Char) (d : Decomposition) : Prop where
  text : cs = written d.comments d.tail
  gap : ∀ c ∈ d.comments, ¬opening <:+: c.1
  body : ∀ c ∈ d.comments, ¬closing <:+: c.2
  tail : Bare d.tail

namespace Decomposes

variable {cs gap body rest : List Char} {d d' : Decomposition}

/-- One more comment is put before what the rest of the text comes apart into. -/
theorem cons (hgap : ¬opening <:+: gap) (hbody : ¬closing <:+: body) (h : Decomposes rest d) :
    Decomposes (gap ++ (opening ++ (body ++ (closing ++ rest)))) (d.cons gap body) where
  text := by rw [h.text]; rfl
  gap := List.forall_mem_cons.2 ⟨hgap, h.gap⟩
  body := List.forall_mem_cons.2 ⟨hbody, h.body⟩
  tail := h.tail

/-- **Every text comes apart**: there are gaps, comments in between and a tail without a comment
that make up the text, by recursion on what is left behind the first comment. -/
theorem exists_decomposition (cs : List Char) : ∃ d, Decomposes cs d := by
  cases hfirst : first? cs with
  | none =>
    refine ⟨⟨[], cs⟩, rfl, ?_, ?_, first?_eq_none_iff.1 hfirst⟩
    · exact List.forall_mem_nil _
    · exact List.forall_mem_nil _
  | some found =>
    obtain ⟨body, rest⟩ := found
    obtain ⟨gap, hgap, hbody, hcs⟩ := first?_eq_some_iff.1 hfirst
    obtain ⟨d, hd⟩ := exists_decomposition rest
    rw [hcs]
    exact ⟨d.cons gap body, hd.cons hgap hbody⟩
termination_by cs.length
decreasing_by exact length_of_first? hfirst

/-- What is read first tells whether there is a comment at all, and splits off the first one. -/
theorem first?_eq (h : Decomposes cs d) :
    first? cs = match d.comments with
      | [] => none
      | (_, body) :: comments => some (body, written comments d.tail) := by
  obtain ⟨comments, tail⟩ := d
  rw [h.text]
  cases comments with
  | nil => exact first?_eq_none_iff.2 h.tail
  | cons c comments =>
    exact first?_append (h.gap c (List.mem_cons_self ..)) (h.body c (List.mem_cons_self ..)) _

/-- Without its first comment, a text comes apart into the other parts. -/
theorem of_cons {c : List Char × List Char} {comments : List (List Char × List Char)}
    {tail : List Char} (h : Decomposes cs ⟨c :: comments, tail⟩) :
    Decomposes (written comments tail) ⟨comments, tail⟩ where
  text := rfl
  gap := (List.forall_mem_cons.1 h.gap).2
  body := (List.forall_mem_cons.1 h.body).2
  tail := h.tail

/-- **No text comes apart in two ways.** The first comment is found at one place only, and what is
left behind it comes apart in one way by the induction. -/
theorem unique (h : Decomposes cs d) (h' : Decomposes cs d') : d = d' := by
  obtain ⟨comments, tail⟩ := d
  induction comments generalizing cs d' with
  | nil =>
    obtain ⟨comments', tail'⟩ := d'
    cases comments' with
    | nil =>
      have htail : tail = tail' := h.text.symm.trans h'.text
      rw [htail]
    | cons c comments' =>
      have hfirst := h.first?_eq.symm.trans h'.first?_eq
      cases hfirst
  | cons c comments ih =>
    obtain ⟨gap, body⟩ := c
    obtain ⟨comments', tail'⟩ := d'
    cases comments' with
    | nil =>
      have hfirst := h.first?_eq.symm.trans h'.first?_eq
      cases hfirst
    | cons c' comments' =>
      obtain ⟨gap', body'⟩ := c'
      -- both find the same first comment, so the gaps are what is left in front of it
      have hfirst := Option.some.inj (h.first?_eq.symm.trans h'.first?_eq)
      obtain ⟨rfl, hrest⟩ := Prod.mk.inj hfirst
      have hgap : gap = gap' := by
        have htext := h.text.symm.trans h'.text
        rw [written, written, hrest] at htext
        exact List.append_cancel_right htext
      have hd : (⟨comments, tail⟩ : Decomposition) = ⟨comments', tail'⟩ := by
        refine ih ?_ h.of_cons
        rw [hrest]
        exact h'.of_cons
      obtain ⟨rfl, rfl⟩ := Decomposition.mk.inj hd
      rw [hgap]

/-- The bodies that are read are those of the parts. The gaps and the tail are passed over, and
nothing in them is taken for a body. -/
theorem bodies_eq (h : Decomposes cs d) : Comments.bodies cs = d.bodies := by
  have hcomments : ∀ c ∈ d.comments, ¬opening <:+: c.1 ∧ ¬closing <:+: c.2 :=
    fun c hc => ⟨h.gap c hc, h.body c hc⟩
  rw [h.text, bodies_written hcomments (first?_eq_none_iff.2 h.tail), Decomposition.bodies]

/-- A comment is found exactly if there is one among the parts, so that asking whether there is a
comment and reading the comments never disagree. -/
theorem hasComment_iff (h : Decomposes cs d) : hasComment cs = true ↔ 1 ≤ d.comments.length := by
  rw [hasComment, h.first?_eq]
  obtain ⟨comments, tail⟩ := d
  cases comments with
  | nil => simp
  | cons c comments => simp

end Decomposes

/-- **Scanning for comments is exact.** Every text comes apart at its comments in exactly one way;
the bodies that are read are those of its comments, in order, and a comment is found exactly if
there is one. -/
theorem decomposition_exact (cs : List Char) :
    ∃ d, Decomposes cs d ∧ (∀ d', Decomposes cs d' → d' = d) ∧ bodies cs = d.bodies ∧
      (hasComment cs = true ↔ 1 ≤ d.comments.length) := by
  obtain ⟨d, hd⟩ := Decomposes.exists_decomposition cs
  exact ⟨d, hd, fun d' hd' => hd'.unique hd, hd.bodies_eq, hd.hasComment_iff⟩

/-- Delimiters that share a character do not mislead the reader. -/
example : bodies "<!--->--> <!-- a <!-- b -->-->".toList = ["->".toList, " a <!-- b ".toList] := by
  cbv

end DocLint.Comments
