import DocLint.Directive.RuleIds

/-!
# Lists of rule ids, as plain lists between commas

Closing up the blanks around commas before a list is read makes no difference to what is read: the
names between the commas are trimmed anyway. `RuleIds.names` reads a list without that step, and
cutting at a comma or adding blanks at either end is easily told for it.

* `RuleIds.map_trim_pieces_closeUp` — closing up changes no trimmed piece;
* `RuleIds.parse_eq` — so a list is read as the set of its names;
* `RuleIds.names_append_comma`, `names_append_of_blank` — the names around a comma, and blanks;
* `RuleIds.Clean` — the ids that may stand in a list: `clean_of_mem_names` says there are no others;
* `RuleIds.Separator` — commas and blanks, by which clean ids are joined and cut apart again;
* `RuleIds.parse_intercalate` — clean ids that are joined are read back as a set;
* `RuleIds.parse_exact` — what the set of a text is, and that it is read back.
-/

namespace DocLint.RuleIds

open Text

/-! ## Closing up

Blanks are held back until it is known whether a comma comes next. So a list is told from its first
comma: in front of it only the blanks that are held there are lost, and behind it closing up begins
again, without the blanks that come first. -/

theorem ne_comma_of_isBlank {c : Char} (h : isBlank c = true) : c ≠ ',' := by
  rintro rfl
  exact absurd h (by decide)

/-- Without a comma the blanks that are held are written after all: they are held back only in case
a comma comes next. -/
theorem closeUpFrom_of_not_mem {x : List Char} (hx : ',' ∉ x) (held : List Char) :
    closeUpFrom held false x = held.reverse ++ x := by
  induction x generalizing held with
  | nil => rw [closeUpFrom, List.append_nil]
  | cons c cs ih =>
    rw [List.mem_cons, not_or] at hx
    rw [closeUpFrom, if_neg (Ne.symm hx.1)]
    split
    · rw [if_neg Bool.false_ne_true, ih hx.2, List.reverse_cons, List.append_assoc]
      rfl
    · rw [ih hx.2]
      rfl

/-- Up to a comma the blanks at the end are left out. They are those that are held when the comma
comes, and behind it the closing up starts again. -/
theorem closeUpFrom_append {x held : List Char} (hx : ',' ∉ x)
    (hheld : ∀ c ∈ held, isBlank c = true) (y : List Char) :
    closeUpFrom held false (x ++ ',' :: y) =
      trimEnd (held.reverse ++ x) ++ ',' :: closeUpFrom [] true y := by
  induction x generalizing held with
  | nil =>
    have hnil : trimEnd (held.reverse ++ []) = [] := by
      refine dropTrailing_eq_nil_iff.2 fun c hc => hheld c ?_
      rwa [List.append_nil, List.mem_reverse] at hc
    rw [hnil, List.nil_append, closeUpFrom, if_pos rfl, List.nil_append]
  | cons c cs ih =>
    rw [List.mem_cons, not_or] at hx
    rw [List.cons_append, closeUpFrom, if_neg (Ne.symm hx.1)]
    by_cases hc : isBlank c = true
    · -- a blank is held back with the others: whether it stays is settled further on
      have hheld' : ∀ d ∈ c :: held, isBlank d = true := List.forall_mem_cons.2 ⟨hc, hheld⟩
      rw [if_pos hc, if_neg Bool.false_ne_true, ih hx.2 hheld', List.reverse_cons,
        List.append_assoc, List.singleton_append]
    · rw [if_neg hc, ih hx.2 (List.forall_mem_nil _), List.reverse_nil, List.nil_append, trimEnd,
        trimEnd, dropTrailing_append_cons (Bool.eq_false_iff.2 hc), List.append_assoc,
        List.cons_append]

/-- After a comma a text is closed up as if it had no blanks at its start, which are passed over
instead of held. -/
theorem closeUpFrom_true (cs : List Char) :
    closeUpFrom [] true cs = closeUpFrom [] false (trimStart cs) := by
  induction cs with
  | nil => rfl
  | cons c cs ih =>
    rw [trimStart] at ih ⊢
    by_cases hc : isBlank c = true
    · rw [List.dropWhile_cons_of_pos hc, ← ih, closeUpFrom, if_neg (ne_comma_of_isBlank hc),
        if_pos hc, if_pos rfl]
    · rw [List.dropWhile_cons_of_neg hc, closeUpFrom, closeUpFrom, if_neg hc, if_neg hc]

/-- Blanks in front of a text change no trimmed piece of it. They all go to the first piece, which
is trimmed. -/
theorem map_trim_pieces_append {lead : List Char} (hlead : ∀ c ∈ lead, isBlank c = true)
    (cs : List Char) : (pieces ',' (lead ++ cs)).map trim = (pieces ',' cs).map trim := by
  have hcomma : ',' ∉ lead := fun h => ne_comma_of_isBlank (hlead _ h) rfl
  have htrim (x : List Char) : trim (lead ++ x) = trim x := trim_append_of_blank_left hlead x
  by_cases h : ',' ∈ cs
  · obtain ⟨x, y, rfl, hx⟩ := List.eq_append_cons_of_mem h
    rw [← List.append_assoc, pieces_append_cons_of_not_mem (List.not_mem_append hcomma hx),
      pieces_append_cons_of_not_mem hx, List.map_cons, List.map_cons, htrim]
  · rw [pieces_of_not_mem (List.not_mem_append hcomma h), pieces_of_not_mem h, List.map_singleton,
      List.map_singleton, htrim]

theorem map_trim_pieces_trimStart (cs : List Char) :
    (pieces ',' (trimStart cs)).map trim = (pieces ',' cs).map trim := by
  have hblank : ∀ c ∈ cs.takeWhile isBlank, isBlank c = true :=
    fun c hc => List.all_eq_true.1 List.all_takeWhile c hc
  rw [← map_trim_pieces_append hblank, trimStart, List.takeWhile_append_dropWhile]

/-- **Closing up changes no trimmed piece**: the blanks that it takes away stand next to a comma,
where trimming takes them away as well. -/
theorem map_trim_pieces_closeUp (cs : List Char) :
    (pieces ',' (closeUp cs)).map trim = (pieces ',' cs).map trim := by
  by_cases h : ',' ∈ cs
  · obtain ⟨x, y, rfl, hx⟩ := List.eq_append_cons_of_mem h
    -- the first piece loses blanks at its end, the text after the comma those at its start
    have hend : ',' ∉ trimEnd x := fun h => hx (mem_of_mem_trimEnd h)
    have hrest := map_trim_pieces_closeUp (trimStart y)
    rw [closeUp] at hrest
    rw [closeUp, closeUpFrom_append hx (List.forall_mem_nil _), List.reverse_nil, List.nil_append,
      pieces_append_cons_of_not_mem hend, pieces_append_cons_of_not_mem hx, List.map_cons,
      List.map_cons, trim_trimEnd, closeUpFrom_true, hrest, map_trim_pieces_trimStart]
  · rw [closeUp, closeUpFrom_of_not_mem h, List.reverse_nil, List.nil_append]
termination_by cs.length
decreasing_by
  have hle : (trimStart y).length ≤ y.length := (List.dropWhile_sublist _).length_le
  subst_vars
  rw [List.length_append, List.length_cons]
  omega

/-! ## Names -/

/-- The names between the commas of a text, in order. Nothing is closed up first, and a name may
come more than once. -/
def names (cs : List Char) : List String :=
  ((pieces ',' cs).map trim).filterMap fun id =>
    if id.isEmpty then none else some (String.ofList id)

/-- **A list is read as the set of its names**: those between commas, without blanks around them,
each of them once and in their order. -/
theorem parse_eq (cs : List Char) : parse cs = ofList (names cs) := by
  rw [parse, map_trim_pieces_closeUp]
  rfl

/-- The names on both sides of a comma are read apart, as pieces end there. -/
theorem names_append_comma (a b : List Char) : names (a ++ ',' :: b) = names a ++ names b := by
  rw [names, pieces_append_cons, List.map_append, List.filterMap_append]
  rfl

/-- Blanks in front of a text make no difference to its names, since they are trimmed off the first
piece. -/
theorem names_append_of_blank {lead : List Char} (hlead : ∀ c ∈ lead, isBlank c = true)
    (cs : List Char) : names (lead ++ cs) = names cs := by
  rw [names, map_trim_pieces_append hlead]
  rfl

theorem names_of_blank {cs : List Char} (h : ∀ c ∈ cs, isBlank c = true) : names cs = [] := by
  have h := names_append_of_blank h []
  rwa [List.append_nil] at h

/-- Blanks behind a text make no difference to its names: they go to the last piece, which is found
by going from comma to comma. -/
theorem names_append_of_blank_right {tail : List Char} (htail : ∀ c ∈ tail, isBlank c = true)
    (cs : List Char) : names (cs ++ tail) = names cs := by
  by_cases h : ',' ∈ cs
  · obtain ⟨x, y, rfl, hx⟩ := List.eq_append_cons_of_mem h
    have hrest := names_append_of_blank_right htail y
    rw [List.append_assoc, List.cons_append, names_append_comma, names_append_comma, hrest]
  · have hcomma : ',' ∉ tail := fun h => ne_comma_of_isBlank (htail _ h) rfl
    rw [names, names, pieces_of_not_mem (List.not_mem_append h hcomma), pieces_of_not_mem h,
      List.map_singleton, List.map_singleton, trim_append_of_blank_right htail]
termination_by cs.length
decreasing_by
  subst_vars
  rw [List.length_append, List.length_cons]
  omega

/-- The names of a text are what trimming leaves of its pieces, as far as it leaves anything. -/
theorem mem_names_iff {cs : List Char} {id : String} :
    id ∈ names cs ↔ id ≠ "" ∧ ∃ piece ∈ pieces ',' cs, id = String.ofList (trim piece) := by
  rw [names, List.mem_filterMap]
  constructor
  · rintro ⟨trimmed, htrimmed, hid⟩
    obtain ⟨piece, hpiece, rfl⟩ := List.mem_map.1 htrimmed
    split at hid
    · cases hid
    · rename_i hne
      obtain rfl := Option.some.inj hid
      exact ⟨by simpa using hne, piece, hpiece, rfl⟩
  · rintro ⟨hne, piece, hpiece, rfl⟩
    refine ⟨trim piece, List.mem_map_of_mem hpiece, ?_⟩
    rw [if_neg]
    simpa using hne

/-! ## Lists that are written out

An id is clean if cutting and trimming leave it as it is. Joined by a separator, clean ids are cut
apart where they were joined, as all the commas are in the separators. -/

/-- An id that may stand in a list: it is not empty, has no comma in it, and neither starts nor ends
with a blank. -/
structure Clean (id : String) : Prop where
  ne_empty : id ≠ ""
  no_comma : ',' ∉ id.toList
  head : ∀ c ∈ id.toList.head?, isBlank c = false
  last : ∀ c ∈ id.toList.getLast?, isBlank c = false

theorem clean_iff {id : String} :
    Clean id ↔ id ≠ "" ∧ ',' ∉ id.toList ∧ id.toList.head?.all (fun c => !isBlank c) ∧
      id.toList.getLast?.all (fun c => !isBlank c) := by
  simp only [Option.all_eq_true, Bool.not_eq_true']
  exact ⟨fun h => ⟨h.ne_empty, h.no_comma, h.head, h.last⟩, fun h => ⟨h.1, h.2.1, h.2.2.1, h.2.2.2⟩⟩

instance (id : String) : Decidable (Clean id) := decidable_of_iff' _ clean_iff

theorem Clean.trim {id : String} (h : Clean id) : Text.trim id.toList = id.toList :=
  trim_eq_self h.head h.last

/-- A clean id is read as itself: it has no comma that would cut it, and no blank at its ends that
would be cut off. -/
theorem Clean.names {id : String} (h : Clean id) : names id.toList = [id] := by
  have hne : id.toList.isEmpty = false := by
    rw [List.isEmpty_eq_false_iff, ne_eq, String.toList_eq_nil_iff]
    exact h.ne_empty
  rw [RuleIds.names, pieces_of_not_mem h.no_comma, List.map_singleton, h.trim,
    List.filterMap_cons, hne, if_neg Bool.false_ne_true, List.filterMap_nil, String.ofList_toList]

/-- What is read as a name is a clean id: cutting has left no comma in it, and trimming no blank at
either end. -/
theorem clean_of_mem_names {cs : List Char} {id : String} (h : id ∈ names cs) : Clean id := by
  obtain ⟨hne, piece, hpiece, rfl⟩ := mem_names_iff.1 h
  refine ⟨hne, ?_, ?_, ?_⟩
  · rw [String.toList_ofList]
    intro hcomma
    exact not_mem_of_mem_pieces hpiece (mem_of_mem_trim hcomma)
  · intro c hc
    rw [String.toList_ofList] at hc
    exact isBlank_of_mem_head?_trim hc
  · intro c hc
    rw [String.toList_ofList] at hc
    exact isBlank_of_mem_getLast?_trim hc

/-- What may stand between two ids: one comma or more, with blanks around them as one likes. -/
structure Separator (sep : String) : Prop where
  comma : ',' ∈ sep.toList
  blank : ∀ c ∈ sep.toList, c = ',' ∨ isBlank c = true

theorem separator_iff {sep : String} :
    Separator sep ↔ ',' ∈ sep.toList ∧ sep.toList.all (fun c => c == ',' || isBlank c) := by
  simp only [List.all_eq_true, Bool.or_eq_true, beq_iff_eq]
  exact ⟨fun h => ⟨h.comma, h.blank⟩, fun h => ⟨h.1, h.2⟩⟩

instance (sep : String) : Decidable (Separator sep) := decidable_of_iff' _ separator_iff

theorem separator_comma_blank : Separator ", " := by decide

/-- Commas and blanks in front of a text make no difference to its names, since between such commas
there are only empty pieces. -/
theorem names_append_of_separating {lead : List Char}
    (hlead : ∀ c ∈ lead, c = ',' ∨ isBlank c = true) (cs : List Char) :
    names (lead ++ cs) = names cs := by
  induction lead with
  | nil => rfl
  | cons c lead ih =>
    obtain ⟨hc, hrest⟩ := List.forall_mem_cons.1 hlead
    rcases hc with rfl | hc
    · have hcut := names_append_comma [] (lead ++ cs)
      rw [names_of_blank (List.forall_mem_nil _), List.nil_append, List.nil_append] at hcut
      exact hcut.trans (ih hrest)
    · have hblank : ∀ d ∈ [c], isBlank d = true := List.forall_mem_singleton.2 hc
      exact (names_append_of_blank hblank (lead ++ cs)).trans (ih hrest)

/-- **The names on both sides of a separator are read apart**, whatever blanks and further commas
the separator is made of. -/
theorem Separator.names_append {sep : String} (h : Separator sep) (a b : List Char) :
    names (a ++ (sep.toList ++ b)) = names a ++ names b := by
  obtain ⟨x, y, hsep, hx⟩ := List.eq_append_cons_of_mem h.comma
  -- what is in front of the first comma is blank, and belongs to the text on the left
  have hblank : ∀ c ∈ x, isBlank c = true := by
    intro c hc
    rcases h.blank c (by rw [hsep]; exact List.mem_append_left _ hc) with rfl | hc'
    · exact absurd hc hx
    · exact hc'
  have hrest : ∀ c ∈ y, c = ',' ∨ isBlank c = true := by
    intro c hc
    refine h.blank c ?_
    rw [hsep]
    exact List.mem_append_right _ (List.mem_cons_of_mem _ hc)
  have hcut : a ++ (sep.toList ++ b) = (a ++ x) ++ ',' :: (y ++ b) := by
    rw [hsep, List.append_assoc, List.append_assoc, List.cons_append]
  rw [hcut, names_append_comma, names_append_of_blank_right hblank, names_append_of_separating hrest]

/-- **Clean ids joined by a separator are read back.** By induction on the ids: the first is read
apart from those behind the first separator. -/
theorem names_intercalate {ids : List String} (hids : ∀ id ∈ ids, Clean id) {sep : String}
    (hsep : Separator sep) : names (sep.intercalate ids).toList = ids := by
  induction ids with
  | nil =>
    rw [String.intercalate_nil, String.toList_empty]
    exact names_of_blank (List.forall_mem_nil _)
  | cons id ids ih =>
    obtain ⟨hid, hrest⟩ := List.forall_mem_cons.1 hids
    cases ids with
    | nil =>
      rw [String.intercalate_singleton]
      exact hid.names
    | cons id' ids =>
      rw [String.intercalate_cons_cons, String.toList_append, String.toList_append,
        List.append_assoc, hsep.names_append, hid.names, ih hrest, List.singleton_append]

/-- **A list that is written out is read as the set of its ids.** In which order they are written,
and how often, is lost. -/
theorem parse_toList_intercalate {ids : List String} (hids : ∀ id ∈ ids, Clean id) {sep : String}
    (hsep : Separator sep) : parse (sep.intercalate ids).toList = ofList ids := by
  rw [parse_eq, names_intercalate hids hsep]

/-- Blanks around a list that is written out make no difference. That is how the list stands in a
comment, behind the keyword and in front of the delimiter. -/
theorem parse_intercalate {ids : List String} (hids : ∀ id ∈ ids, Clean id) {sep : String}
    (hsep : Separator sep) {lead tail : List Char} (hlead : ∀ c ∈ lead, isBlank c = true)
    (htail : ∀ c ∈ tail, isBlank c = true) :
    parse (lead ++ ((sep.intercalate ids).toList ++ tail)) = ofList ids := by
  rw [parse_eq, names_append_of_blank hlead, names_append_of_blank_right htail, ← parse_eq,
    parse_toList_intercalate hids hsep]

/-- The first of several joined ids ends at a comma, and a blank follows. So a delimiter, in which
there is neither, lies on one side of them. -/
theorem toList_intercalate_cons_cons (id id' : String) (ids : List String) :
    (", ".intercalate (id :: id' :: ids)).toList =
      id.toList ++ ',' :: ' ' :: (", ".intercalate (id' :: ids)).toList := by
  rw [String.intercalate_cons_cons, String.toList_append, String.toList_append, List.append_assoc]
  rfl

/-! ## The set that is read -/

/-- **A list is read as a plain set, and reading it again changes nothing.** The ids of a text are
what trimming leaves of the pieces between its commas, as far as it leaves anything; they ascend,
and each is clean. Written out with any separator they are read back as they are, and so is every
other set of clean ids, in whatever order and however often its members are written. -/
theorem parse_exact (cs : List Char) :
    (∀ id, id ∈ parse cs ↔ id ≠ "" ∧ ∃ piece ∈ pieces ',' cs, id = String.ofList (trim piece)) ∧
    (parse cs).Pairwise (· < ·) ∧
    (∀ id ∈ parse cs, Clean id) ∧
    (∀ sep, Separator sep → parse (sep.intercalate (parse cs)).toList = parse cs) ∧
    ∀ ids : List String, (∀ id ∈ ids, Clean id) → ∀ sep, Separator sep →
      ∀ id, id ∈ parse (sep.intercalate ids).toList ↔ id ∈ ids := by
  have hmem (id : String) : id ∈ parse cs ↔ id ∈ names cs := by
    rw [parse_eq]
    exact mem_ofList
  have hclean : ∀ id ∈ parse cs, Clean id := fun id h => clean_of_mem_names ((hmem id).1 h)
  refine ⟨?_, pairwise_parse cs, hclean, ?_, ?_⟩
  · intro id
    rw [hmem]
    exact mem_names_iff
  · intro sep hsep
    rw [parse_toList_intercalate hclean hsep]
    exact ofList_of_pairwise (pairwise_parse cs)
  · intro ids hids sep hsep id
    rw [parse_toList_intercalate hids hsep]
    exact mem_ofList

/-- A list with commas and blanks in excess: its ids are written out with still more of them. -/
theorem noisyList_read_again :
    parse " b ,, a,\t".toList = ["a", "b"] ∧ Separator " ,\u3000, " ∧
    parse (" ,\u3000, ".intercalate (parse " b ,, a,\t".toList)).toList = ["a", "b"] := by
  have hread : parse " b ,, a,\t".toList = ["a", "b"] := by decide
  have hsep : Separator " ,\u3000, " := by decide
  refine ⟨hread, hsep, ?_⟩
  rw [(parse_exact " b ,, a,\t".toList).2.2.2.1 _ hsep]
  exact hread

end DocLint.RuleIds
