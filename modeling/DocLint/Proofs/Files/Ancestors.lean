import DocLint.Files.Path

/-!
# The paths above a path

The path above another is found in its text: what stands for no component is cut off the end, then
the last part, then once more what stands for none. What is left has the components of the whole
text but the last one. So going up from a path takes as many steps as it has components, and comes
to an end at the root or at the empty text.

* `Path.components_of_parent?` — one step up takes the last component away, and
  `Path.components_of_parent?_eq_none` — where none can be taken there is nothing but the root;
* `Path.Ascends` — the paths that one passes on the way up, and `Path.ascends_iff`;
* `Path.ancestors_eq` — the listing of these paths, one step at a time.
-/

namespace DocLint.Files.Path

/-! ## Parts between slashes -/

/-- The components that the parts of a text between slashes stand for. -/
def parts (cs : List Char) : List Component := (Text.pieces '/' cs).filterMap componentOf?

@[simp] theorem parts_nil : parts [] = [] := rfl

@[simp] theorem parts_dot : parts ['.'] = [] := rfl

theorem parts_append_cons (a b : List Char) : parts (a ++ '/' :: b) = parts a ++ parts b := by
  rw [parts, Text.pieces_append_cons, List.filterMap_append]
  rfl

theorem parts_append_slash (a : List Char) : parts (a ++ ['/']) = parts a := by
  rw [parts_append_cons, parts_nil, List.append_nil]

theorem parts_of_not_mem {cs : List Char} (h : '/' ∉ cs) : parts cs = (componentOf? cs).toList := by
  rw [parts, Text.pieces_of_not_mem h]
  cases hc : componentOf? cs <;> simp [hc]

/-- The first part of a text: what is in front of the first slash, or all of it if there is no
slash. -/
def firstPart (cs : List Char) : List Char := cs.takeWhile (· != '/')

theorem firstPart_append_cons (a b : List Char) : firstPart (a ++ '/' :: b) = firstPart a := by
  induction a with
  | nil => rfl
  | cons c a ih =>
    rw [firstPart, firstPart, List.cons_append, List.takeWhile_cons, List.takeWhile_cons]
    split
    · exact congrArg (c :: ·) ih
    · rfl

theorem firstPart_of_not_mem {cs : List Char} (h : '/' ∉ cs) : firstPart cs = cs := by
  induction cs with
  | nil => rfl
  | cons c cs ih =>
    obtain ⟨hc, hcs⟩ := not_or.1 fun hmem => h (List.mem_cons.2 hmem)
    rw [firstPart, List.takeWhile_cons, if_pos (bne_iff_ne.2 (Ne.symm hc))]
    exact congrArg (c :: ·) (ih hcs)

theorem head?_pieces (cs : List Char) : (Text.pieces '/' cs).head? = some (firstPart cs) := by
  induction cs with
  | nil => rfl
  | cons c cs ih =>
    rw [Text.pieces, firstPart, List.takeWhile_cons]
    by_cases hc : c = '/'
    · rw [if_pos hc, hc]
      rfl
    · rw [if_neg hc, if_pos (bne_iff_ne.2 hc)]
      cases hcs : Text.pieces '/' cs with
      | nil =>
        rw [hcs] at ih
        cases ih
      | cons p ps =>
        rw [hcs] at ih
        exact congrArg (fun p => some (c :: p)) (Option.some.inj ih)

/-- A path without a slash is relative, as an absolute one starts with a slash. -/
theorem isAbsolute_eq_false {path : String} (h : '/' ∉ path.toList) : isAbsolute path = false := by
  rw [isAbsolute, beq_eq_false_iff_ne]
  intro hhead
  exact h (List.mem_of_mem_head? hhead)

/-- What comes before the parts of a path: the root, or the dot that a relative path starts with. -/
def lead (absolute : Bool) (cs : List Char) : List Component :=
  if absolute then [.root] else if firstPart cs = ['.'] then [.here] else []

theorem components_eq (path : String) :
    components path = lead (isAbsolute path) path.toList ++ parts path.toList := by
  have hhead := head?_pieces path.toList
  rw [components, lead, parts]
  cases hpieces : Text.pieces '/' path.toList with
  | nil =>
    rw [hpieces] at hhead
    cases hhead
  | cons first rest =>
    rw [hpieces, List.head?_cons, Option.some_inj] at hhead
    simp only [hhead, isAbsolute, beq_iff_eq]

/-! ## The end of a text

From here on texts are reversed, as the path above another is found from the end. -/

/-- Nothing at the end of a reversed text stands for no component, unless it is the whole text. -/
structure IsCut (r : List Char) : Prop where
  no_slash : ∀ cs, r ≠ '/' :: cs
  no_dot : ∀ cs, r ≠ '.' :: '/' :: cs

theorem isCut_cutTrailing (r : List Char) : IsCut (cutTrailing r) := by
  fun_induction cutTrailing r with
  | case1 cs ih => exact ih
  | case2 cs ih => exact ih
  | case3 r hslash hdot => exact ⟨hslash, hdot⟩

theorem parts_cutTrailing (r : List Char) : parts (cutTrailing r).reverse = parts r.reverse := by
  fun_induction cutTrailing r with
  | case1 cs ih => rw [ih, List.reverse_cons, parts_append_slash]
  | case2 cs ih =>
    rw [ih, List.reverse_cons, List.reverse_cons, List.reverse_cons, parts_append_slash,
      List.append_assoc, List.singleton_append, parts_append_cons, parts_dot, List.append_nil]
  | case3 r => rfl

theorem firstPart_cutTrailing (r : List Char) :
    firstPart (cutTrailing r).reverse = firstPart r.reverse := by
  fun_induction cutTrailing r with
  | case1 cs ih => rw [ih, List.reverse_cons, firstPart_append_cons]
  | case2 cs ih =>
    rw [ih, List.reverse_cons, List.reverse_cons, List.reverse_cons, firstPart_append_cons,
      List.append_assoc, List.singleton_append, firstPart_append_cons]
  | case3 r => rfl

theorem cutTrailing_suffix (r : List Char) : cutTrailing r <:+ r := by
  fun_induction cutTrailing r with
  | case1 cs ih => exact ih.trans (List.suffix_cons '/' cs)
  | case2 cs ih => exact ih.trans (List.suffix_cons '.' ('/' :: cs))
  | case3 r => exact List.suffix_refl r

/-- A reversed text without what stands for no component at its end. A dot alone is such a text
behind the root, but not at the start of a relative path. -/
def bare (absolute : Bool) (r : List Char) : List Char :=
  if absolute && cutTrailing r == ['.'] then [] else cutTrailing r

section bare

variable (absolute : Bool) (r : List Char)

theorem isCut_bare : IsCut (bare absolute r) := by
  rw [bare]
  split
  · exact ⟨fun _ => nofun, fun _ => nofun⟩
  · exact isCut_cutTrailing r

theorem parts_bare : parts (bare absolute r).reverse = parts r.reverse := by
  rw [← parts_cutTrailing r, bare]
  split
  · rename_i h
    rw [Bool.and_eq_true, beq_iff_eq] at h
    rw [h.2]
    rfl
  · rfl

theorem bare_suffix : bare absolute r <:+ r := by
  rw [bare]
  split
  · exact List.nil_suffix
  · exact cutTrailing_suffix r

theorem lead_bare : lead absolute (bare absolute r).reverse = lead absolute r.reverse := by
  cases absolute with
  | true => rfl
  | false => exact congrArg (fun first => if first = ['.'] then _ else _) (firstPart_cutTrailing r)

theorem bare_true_ne_dot : bare true r ≠ ['.'] := by
  rw [bare]
  split
  · exact nofun
  · rename_i h
    simpa using h

end bare

theorem exists_componentOf? {piece : List Char} (hne : piece ≠ []) (hdot : piece ≠ ['.']) :
    ∃ c, c ≠ Component.root ∧ componentOf? piece = some c := by
  rw [componentOf?, if_neg (not_or.2 ⟨hne, hdot⟩)]
  split
  · exact ⟨.up, nofun, rfl⟩
  · exact ⟨.name (String.ofList piece), nofun, rfl⟩

/-- A reversed text is its last part and what is before it, which ends with a slash if it is there
at all. -/
theorem exists_cut (whole : List Char) :
    ∃ last rest, whole = last ++ rest ∧ whole.dropWhile (· != '/') = rest ∧ '/' ∉ last ∧
      (rest = [] ∨ ∃ above, rest = '/' :: above) := by
  refine ⟨whole.takeWhile (· != '/'), whole.dropWhile (· != '/'),
    List.takeWhile_append_dropWhile.symm, rfl, fun h => ?_, ?_⟩
  · simpa using List.all_eq_true.1 List.all_takeWhile '/' h
  · have hhead := List.head?_dropWhile_not (· != '/') whole
    cases hrest : whole.dropWhile (· != '/') with
    | nil => exact .inl rfl
    | cons c above =>
      rw [hrest] at hhead
      obtain rfl : c = '/' := by simpa using hhead
      exact .inr ⟨above, rfl⟩

/-- **The last part of a cut text** stands for a component, unless the text is a dot. -/
theorem exists_last {whole : List Char} (hcut : IsCut whole) (hne : whole ≠ [])
    (hdot : whole ≠ ['.']) :
    ∃ c, c ≠ Component.root ∧
      parts whole.reverse = parts (whole.dropWhile (· != '/')).reverse ++ [c] := by
  obtain ⟨last, rest, hwhole, hdrop, hlast, hrest⟩ := exists_cut whole
  -- nothing at the end of a cut text stands for no component, so that its last part stands for one
  obtain ⟨c, hroot, hc⟩ : ∃ c, c ≠ Component.root ∧ componentOf? last.reverse = some c := by
    refine exists_componentOf? ?_ ?_
    · rw [ne_eq, List.reverse_eq_nil_iff]
      rintro rfl
      rcases hrest with rfl | ⟨above, rfl⟩
      · exact hne hwhole
      · exact hcut.no_slash above hwhole
    · rw [ne_eq, List.reverse_eq_iff]
      rintro rfl
      rcases hrest with rfl | ⟨above, rfl⟩
      · exact hdot hwhole
      · exact hcut.no_dot above hwhole
  have hparts : parts last.reverse = [c] := by
    rw [parts_of_not_mem (by rwa [List.mem_reverse]), hc]
    rfl
  refine ⟨c, hroot, ?_⟩
  rw [hdrop, hwhole]
  rcases hrest with rfl | ⟨above, rfl⟩
  · rw [List.append_nil, hparts]
    rfl
  · rw [List.reverse_append, List.reverse_cons, List.append_assoc, List.singleton_append,
      parts_append_cons, hparts, parts_append_slash]

/-- The last part of a text is not what it starts with, unless the text is a dot. So a dot at the
start of a path is there until nothing else is left. -/
theorem lead_dropWhile (absolute : Bool) {whole : List Char} (hdot : whole ≠ ['.']) :
    lead absolute whole.reverse = lead absolute (whole.dropWhile (· != '/')).reverse := by
  cases absolute with
  | true => rfl
  | false =>
    obtain ⟨last, rest, hwhole, hdrop, hlast, hrest⟩ := exists_cut whole
    rw [hdrop, lead, lead]
    rcases hrest with rfl | ⟨above, rfl⟩
    · have hfirst : firstPart whole.reverse = whole.reverse := by
        refine firstPart_of_not_mem ?_
        rwa [List.mem_reverse, hwhole, List.append_nil]
      have hne : whole.reverse ≠ ['.'] := fun h => hdot (List.reverse_eq_iff.1 h)
      rw [hfirst, if_neg hne]
      rfl
    · rw [hwhole, List.reverse_append, List.reverse_cons, List.append_assoc,
        List.singleton_append, firstPart_append_cons, firstPart_append_cons]

/-! ## One step up -/

/-- What a path starts with if it is absolute. It is one slash: more of them are empty parts, which
stand for nothing. -/
def slash (absolute : Bool) : List Char := if absolute then ['/'] else []

/-- A path without that. Its parts are the parts of the path, and it is cut at the end as the path
is. -/
def body (path : String) : List Char :=
  if isAbsolute path then path.toList.tail else path.toList

theorem toList_eq (path : String) : path.toList = slash (isAbsolute path) ++ body path := by
  rw [body, slash]
  split
  · rename_i h
    rw [isAbsolute, beq_iff_eq] at h
    obtain ⟨cs, hcs⟩ := List.head?_eq_some_iff.1 h
    rw [hcs]
    rfl
  · rfl

/-- The components of a path, told by what is behind the root. The empty part in front of the root
of an absolute path stands for none. -/
theorem components_eq_body (path : String) :
    components path = lead (isAbsolute path) (body path) ++ parts (body path) := by
  rw [components_eq, toList_eq path]
  cases isAbsolute path with
  | true => exact congrArg ([Component.root] ++ ·) (parts_append_cons [] (body path))
  | false => rfl

/-- **One step up**, told by what is left of the reversed text: it is cut, loses what is its last
part then, and is cut again. If nothing is left by the first cut, there is no step. -/
theorem parent?_eq (path : String) :
    parent? path =
      if bare (isAbsolute path) (body path).reverse = [] then none
      else some (String.ofList (slash (isAbsolute path) ++
        (bare (isAbsolute path) ((bare (isAbsolute path) (body path).reverse).dropWhile
          (· != '/'))).reverse)) := by
  rw [parent?]
  simp only [List.isEmpty_iff]
  rfl

variable {p q : String}

/-- What one step up leaves is a text of the same sort: an absolute path stays absolute, and what is
left behind its root is cut again at the end. -/
theorem of_parent? (h : parent? p = some q) :
    bare (isAbsolute p) (body p).reverse ≠ [] ∧ isAbsolute q = isAbsolute p ∧
      body q = (bare (isAbsolute p) ((bare (isAbsolute p) (body p).reverse).dropWhile
        (· != '/'))).reverse := by
  rw [parent?_eq] at h
  split at h
  · cases h
  · rename_i hne
    have hq := congrArg String.toList (Option.some.inj h).symm
    rw [String.toList_ofList] at hq
    refine ⟨hne, ?_⟩
    cases habsolute : isAbsolute p with
    | true =>
      rw [habsolute] at hq
      have hq' : isAbsolute q = true := by
        rw [isAbsolute, hq]
        rfl
      refine ⟨hq', ?_⟩
      rw [body, if_pos hq', hq]
      rfl
    | false =>
      rw [habsolute] at hq
      -- a text that is left at the start of a relative one starts like it, or is empty
      have hprefix : q.toList <+: p.toList := by
        have hp : p.toList = (body p).reverse.reverse := by
          rw [toList_eq p, habsolute, List.reverse_reverse]
          rfl
        rw [hq, hp]
        exact List.reverse_prefix.2 ((bare_suffix ..).trans
          ((List.dropWhile_suffix _).trans (bare_suffix ..)))
      have hq' : isAbsolute q = false := by
        rw [isAbsolute, beq_eq_false_iff_ne] at habsolute ⊢
        intro hhead
        obtain ⟨rest, hrest⟩ := hprefix
        refine habsolute ?_
        rw [← hrest, List.head?_append, hhead]
        rfl
      refine ⟨hq', ?_⟩
      rw [body, hq', if_neg Bool.false_ne_true, hq]
      rfl

/-- **One step up takes the last component away**, and it is not the root. Neither cut changes the
components, so that all that is gone is what the last part stands for. -/
theorem components_of_parent? (h : parent? p = some q) :
    isAbsolute q = isAbsolute p ∧
      ∃ c, c ≠ Component.root ∧ components p = components q ++ [c] := by
  obtain ⟨hne, habsolute, hbody⟩ := of_parent? h
  refine ⟨habsolute, ?_⟩
  have hlead := lead_bare (isAbsolute p) (body p).reverse
  have hparts := parts_bare (isAbsolute p) (body p).reverse
  have hcut := isCut_bare (isAbsolute p) (body p).reverse
  rw [List.reverse_reverse] at hlead hparts
  rw [components_eq_body q, habsolute, hbody, lead_bare, parts_bare, components_eq_body p,
    ← hlead, ← hparts]
  generalize hwhole : bare (isAbsolute p) (body p).reverse = whole at hne hcut ⊢
  by_cases hdot : whole = ['.']
  · -- only a relative path can be a dot, and the dot is its one component
    have hrelative : isAbsolute p = false := by
      cases hp : isAbsolute p with
      | false => rfl
      | true =>
        rw [hp, hdot] at hwhole
        exact absurd hwhole (bare_true_ne_dot _)
    rw [hdot, hrelative]
    exact ⟨.here, nofun, rfl⟩
  · obtain ⟨c, hroot, hlast⟩ := exists_last hcut hne hdot
    refine ⟨c, hroot, ?_⟩
    rw [lead_dropWhile _ hdot, hlast, List.append_assoc]

/-- **Where no step up is left** there is nothing but the root, or nothing at all. -/
theorem components_of_parent?_eq_none (h : parent? p = none) :
    components p = if isAbsolute p then [.root] else [] := by
  rw [parent?_eq] at h
  split at h
  · rename_i hnil
    have hlead := lead_bare (isAbsolute p) (body p).reverse
    have hparts := parts_bare (isAbsolute p) (body p).reverse
    rw [List.reverse_reverse] at hlead hparts
    rw [components_eq_body, ← hlead, ← hparts, hnil]
    cases isAbsolute p <;> rfl
  · cases h

/-- Taking the last part of a cut text away shortens it, for the text does not end with a slash and
the part is not empty. -/
theorem length_dropWhile_lt {whole : List Char} (hcut : IsCut whole) (hne : whole ≠ []) :
    (whole.dropWhile (· != '/')).length < whole.length := by
  cases whole with
  | nil => exact absurd rfl hne
  | cons c cs =>
    have hc : (c != '/') = true := bne_iff_ne.2 fun heq => hcut.no_slash cs (by rw [heq])
    rw [List.dropWhile_cons, if_pos hc]
    exact Nat.lt_succ_of_le (List.dropWhile_suffix _).length_le

/-- A step up shortens the text, so that going up comes to an end after as many steps as the text
has characters, if not before. -/
theorem length_lt_of_parent? (h : parent? p = some q) : q.length < p.length := by
  obtain ⟨hne, habsolute, hbody⟩ := of_parent? h
  have hlt : (body q).length < (body p).length := by
    rw [hbody, List.length_reverse]
    calc
      _ ≤ _ := (bare_suffix ..).length_le
      _ < _ := length_dropWhile_lt (isCut_bare ..) hne
      _ ≤ (body p).reverse.length := (bare_suffix ..).length_le
      _ = (body p).length := List.length_reverse
  rw [← String.length_toList, ← String.length_toList, toList_eq p, toList_eq q, habsolute,
    List.length_append, List.length_append]
  exact Nat.add_lt_add_left hlt _

/-! ## All the way up

As each step takes a component away, going up comes to an end, and the end is the root or the empty
path. A relation says this without a limit on the steps, and the listing is shown to have it. -/

/-- **The way up from a path**: the path itself, then the paths that are left as one component after
the other is taken away, until none can be taken. -/
inductive Ascends : String → List String → Prop
  | top {p : String} (h : parent? p = none) : Ascends p [p]
  | up {p q : String} {above : List String} (h : parent? p = some q) (rest : Ascends q above) :
      Ascends p (p :: above)

theorem ascends_ancestorsUpTo {limit : Nat} {p : String} (h : p.length ≤ limit) :
    Ascends p (ancestorsUpTo limit p) := by
  induction limit generalizing p with
  | zero =>
    obtain rfl : p = "" := by
      rw [← String.length_toList, Nat.le_zero, List.length_eq_zero_iff] at h
      exact String.toList_eq_nil_iff.1 h
    exact .top (by decide)
  | succ limit ih =>
    rw [ancestorsUpTo]
    cases hp : parent? p with
    | none => exact .top hp
    | some q =>
      have hlt := length_lt_of_parent? hp
      exact .up hp (ih (by omega))

/-- **Going up comes to an end**: the paths above a path are a way up. Each of them is shorter than
the one below, so that there are no more of them than the path has characters. -/
theorem ascends (p : String) : Ascends p (ancestors p) := ascends_ancestorsUpTo (Nat.le_refl p.length)

/-- Going up passes the same paths each time: there is one way up from a path, and `ancestors` lists
it. -/
theorem ascends_iff {p : String} {above : List String} : Ascends p above ↔ above = ancestors p := by
  constructor
  · intro h
    have hall := ascends p
    generalize ancestors p = other at hall
    induction h generalizing other with
    | top hp =>
      cases hall with
      | top => rfl
      | up hq => rw [hp] at hq; cases hq
    | up hp _ ih =>
      cases hall with
      | top hq => rw [hp] at hq; cases hq
      | up hq hrest =>
        obtain rfl := Option.some.inj (hp.symm.trans hq)
        rw [ih _ hrest]
  · rintro rfl
    exact ascends p

/-- The paths above a path, one step at a time. The limit on the steps, by which they are listed, is
never met. -/
theorem ancestors_eq (p : String) :
    ancestors p = p :: (parent? p).elim [] ancestors := by
  cases hp : parent? p with
  | none => exact (ascends_iff.1 (.top hp)).symm
  | some q => exact (ascends_iff.1 (.up hp (ascends q))).symm

/-- **Every path on the way up** starts as the first one does, and has the first of its
components. -/
theorem Ascends.components_of_mem {a p : String} {above : List String} (hway : Ascends p above)
    (h : a ∈ above) :
    isAbsolute a = isAbsolute p ∧ ∃ rest, components p = components a ++ rest := by
  induction hway with
  | @top p hp =>
    obtain rfl := List.mem_singleton.1 h
    exact ⟨rfl, [], (List.append_nil _).symm⟩
  | @up p q above hp _ ih =>
    rcases List.mem_cons.1 h with rfl | h
    · exact ⟨rfl, [], (List.append_nil _).symm⟩
    · obtain ⟨habsolute, c, -, hlast⟩ := components_of_parent? hp
      obtain ⟨habsolute', rest, hrest⟩ := ih h
      refine ⟨habsolute'.trans habsolute, rest ++ [c], ?_⟩
      rw [hlast, hrest, List.append_assoc]

example : ancestors "./a//../b/." = ["./a//../b/.", "./a//..", "./a", ".", ""] := by decide

end DocLint.Files.Path
