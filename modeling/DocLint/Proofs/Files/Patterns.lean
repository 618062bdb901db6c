import DocLint.Files.Selection
import DocLint.Proofs.Files.Lengths

/-!
# The pattern for the documents below a directory

The pattern is made of the path of the directory, with a part for directories and a part for names
behind it. Where no character of the path stands for others, the path is read as it is, part by
part, and the names that are wanted are those with the extension at their end.

* `Pattern.wildcards_append` — plain characters at the start of a pattern stand for themselves;
* `Pattern.pieces_slashed` — the parts of a path are the first parts of every pattern below it, and
  `Pattern.byteSize_front`, how long they are together;
* `Pattern.toList_extensionPattern`, `Pattern.parse_behind` — the text of the pattern and its parts;
* `Pattern.covers_many_iff` — a star and plain characters stand for the names that end with those.
-/

namespace DocLint.Files

/-- A text in which no character stands for others. An argument is no pattern exactly if it is such
a text. -/
def Pattern.Plain (cs : List Char) : Prop := ∀ c ∈ cs, c ≠ '*' ∧ c ≠ '?' ∧ c ≠ '['

theorem isPattern_eq_false_iff {argument : String} :
    isPattern argument = false ↔ Pattern.Plain argument.toList := by
  simp [isPattern, Pattern.Plain, List.any_eq_false, and_assoc]

namespace Pattern

open Files.Path (slashed slashed_cons)

/-! ## Reading plain characters -/

/-- **Plain characters at the start** stand for themselves, and what comes behind them is read as it
would be at that place. -/
theorem wildcards_append {a b : List Char} (ha : Plain a) {limit place : Nat} {before : Option Char}
    {ws : List Wildcard} (hlimit : a.length ≤ limit)
    (hb : wildcards (limit - a.length) (place + a.length) (a.getLast?.or before) b = .ok ws) :
    wildcards limit place before (a ++ b) = .ok (a.map .char ++ ws) := by
  induction a generalizing limit place before with
  | nil => exact hb
  | cons c a ih =>
    obtain ⟨⟨hstar, hany, hbracket⟩, ha⟩ := List.forall_mem_cons.1 ha
    obtain ⟨limit, rfl⟩ := Nat.exists_eq_add_of_le' (Nat.le_of_add_left_le hlimit)
    rw [List.length_cons] at hlimit hb
    have hlast : (c :: a).getLast?.or before = a.getLast?.or (some c) := by
      cases a with
      | nil => rfl
      | cons d a =>
        rw [List.getLast?_cons_cons, List.getLast?_eq_some_getLast (List.cons_ne_nil d a)]
        rfl
    rw [hlast, Nat.add_sub_add_right, Nat.add_comm a.length 1, ← Nat.add_assoc] at hb
    rw [List.cons_append, wildcards, if_neg hany, if_neg hstar, if_neg hbracket,
      ih ha (Nat.le_of_add_le_add_right hlimit) hb]
    rfl

theorem wildcards_of_plain {cs : List Char} (h : Plain cs) {limit place : Nat}
    {before : Option Char} (hlimit : cs.length ≤ limit) :
    wildcards limit place before cs = .ok (cs.map .char) := by
  have hall : wildcards limit place before (cs ++ []) = .ok (cs.map .char ++ []) :=
    wildcards_append h hlimit (by rw [wildcards])
  rwa [List.append_nil, List.append_nil] at hall

/-- One star stands for any characters, unless another star follows it, which would be counted with
it. -/
theorem wildcards_star (limit place : Nat) (before : Option Char) {rest : List Char}
    (h : rest.head? ≠ some '*') :
    wildcards (limit + 1) place before ('*' :: rest) =
      (wildcards limit (place + 1) (some '*') rest).map (.many :: ·) := by
  have htake : rest.takeWhile (· == '*') = [] := by
    cases rest with
    | nil => rfl
    | cons c cs => exact List.takeWhile_cons_of_neg (by simpa using h)
  have hdrop : rest.dropWhile (· == '*') = rest := by
    cases rest with
    | nil => rfl
    | cons c cs => exact List.dropWhile_cons_of_neg (by simpa using h)
  rw [wildcards, if_neg (by decide), if_pos rfl]
  dsimp only
  rw [htake, hdrop]
  cases wildcards limit (place + 1) (some '*') rest <;> rfl

/-- Two stars between slashes stand for no characters. What they stand for is told when the parts
are read one by one. -/
theorem wildcards_stars (limit place : Nat) (rest : List Char) :
    wildcards (limit + 1) place (some '/') ('*' :: '*' :: '/' :: rest) =
      wildcards limit (place + 2) (some '*') ('/' :: rest) := by
  rw [wildcards, if_neg (by decide), if_pos rfl]
  change (wildcards limit (place + 2) (some '*') ('/' :: rest)).map ([] ++ ·) = _
  cases wildcards limit (place + 2) (some '*') ('/' :: rest) <;> rfl

theorem read_of_plain {cs : List Char} (h : Plain cs) : read cs = .ok (cs.map .char) :=
  wildcards_of_plain h (Nat.le_refl _)

/-- A part of plain characters is a name, even if all there is in it is a dot, or nothing. -/
theorem part_of_plain {cs : List Char} (h : Plain cs) : part cs = .ok (.name (cs.map .char)) := by
  have hne : cs ≠ ['*', '*'] := by
    rintro rfl
    exact (h '*' (List.mem_cons_self ..)).1 rfl
  rw [part, if_neg hne, read_of_plain h]
  rfl

theorem literal?_map_char (cs : List Char) : literal? (cs.map .char) = some cs := by
  induction cs with
  | nil => rfl
  | cons c cs ih => rw [List.map_cons, literal?, ih]; rfl

/-- The parts of a pattern that are spelled out. A search looks for each of them as it is, and lists
no directory for it. -/
def literals (qs : List (List Char)) : List PatternPart := qs.map fun q => .name (q.map .char)

/-! ## The parts of a path -/

/-- The last part of a text between slashes is empty only behind a slash. A path that ends like that
is one of a directory. -/
theorem eq_slash_of_getLast?_pieces {cs : List Char}
    (h : (Text.pieces '/' cs).getLast? = some []) : cs = [] ∨ cs.getLast? = some '/' := by
  by_cases hslash : '/' ∈ cs
  · refine .inr ?_
    obtain ⟨last, rest, hcut, -, hlast, hrest⟩ := Path.exists_cut cs.reverse
    rw [List.reverse_eq_iff, List.reverse_append] at hcut
    rcases hrest with rfl | ⟨above, rfl⟩
    · rw [hcut, List.reverse_nil, List.nil_append, List.mem_reverse] at hslash
      exact absurd hslash hlast
    · rw [List.reverse_cons, List.append_assoc, List.singleton_append] at hcut
      have hnot : '/' ∉ last.reverse := by rwa [List.mem_reverse]
      rw [hcut, Text.pieces_append_cons, Text.pieces_of_not_mem hnot, List.getLast?_concat,
        Option.some_inj] at h
      rw [hcut, h, List.getLast?_concat]
  · rw [Text.pieces_of_not_mem hslash] at h
    exact .inl (Option.some.inj h)

/-- **The parts of a path** are the first parts of what goes on behind it. A slash that the path has
at its end already is not put there twice, so that no empty part gets in between. -/
theorem pieces_slashed {cs : List Char} (hne : cs ≠ []) (rest : List Char) :
    Text.pieces '/' (slashed cs ++ rest) = pieces cs ++ Text.pieces '/' rest := by
  rw [slashed, pieces]
  by_cases hlast : cs.getLast? = some '/'
  · obtain ⟨front, rfl⟩ := List.getLast?_eq_some_iff.1 hlast
    have hpieces : Text.pieces '/' (front ++ ['/']) = Text.pieces '/' front ++ [[]] :=
      Text.pieces_append_cons '/' front []
    rw [if_pos hlast, hpieces, List.getLast?_concat]
    simp only [if_true, List.dropLast_concat]
    rw [List.append_assoc, List.singleton_append, Text.pieces_append_cons]
  · have hnone : (Text.pieces '/' cs).getLast? ≠ some [] := fun h =>
      (eq_slash_of_getLast?_pieces h).elim hne hlast
    simp only [if_neg hlast, if_neg hnone]
    rw [List.append_assoc, List.singleton_append, Text.pieces_append_cons]

/-- A path has an empty part behind its last slash, or none: the parts of a pattern are told without
it. -/
theorem pieces_eq_or (cs : List Char) :
    Text.pieces '/' cs = pieces cs ∨ Text.pieces '/' cs = pieces cs ++ [[]] := by
  rw [pieces]
  by_cases hlast : (Text.pieces '/' cs).getLast? = some []
  · obtain ⟨front, hfront⟩ := List.getLast?_eq_some_iff.1 hlast
    refine .inr ?_
    rw [hfront]
    simp
  · exact .inl (by simp [hlast])

/-- What the parts of a path take up, each with a slash behind it. -/
def taken : List (List Char) → Nat
  | [] => 0
  | q :: qs => Text.byteSize q + 1 + taken qs

theorem taken_cons (q : List Char) (qs : List (List Char)) :
    taken (q :: qs) = Text.byteSize q + 1 + taken qs := rfl

theorem taken_append (qs rs : List (List Char)) : taken (qs ++ rs) = taken qs + taken rs := by
  induction qs with
  | nil => exact (Nat.zero_add _).symm
  | cons q qs ih => rw [List.cons_append, taken_cons, ih, taken_cons, ← Nat.add_assoc]

/-- The parts of a text take up the text, and one slash, which is the one that the last of them has
no need of. -/
theorem taken_pieces (cs : List Char) : taken (Text.pieces '/' cs) = Text.byteSize cs + 1 := by
  induction cs with
  | nil => rfl
  | cons c cs ih =>
    obtain ⟨q, qs, hpieces⟩ : ∃ q qs, Text.pieces '/' cs = q :: qs :=
      List.exists_cons_of_ne_nil fun hnil => by
        rw [hnil] at ih
        cases ih
    rw [hpieces, taken_cons] at ih
    by_cases hc : c = '/'
    · subst hc
      have hcut : Text.pieces '/' ([] ++ '/' :: cs) = [[]] ++ Text.pieces '/' cs :=
        Text.pieces_append_cons '/' [] cs
      rw [List.nil_append] at hcut
      rw [hcut, hpieces, taken_append, taken_cons, taken_cons, Text.byteSize_cons]
      change 0 + 1 + 0 + _ = 1 + _ + 1
      omega
    · have hcut : Text.pieces '/' (c :: cs) = (c :: q) :: qs := by
        rw [Text.pieces, if_neg hc, hpieces]
      rw [hcut, taken_cons, Text.byteSize_cons, Text.byteSize_cons]
      omega

/-- **The front of a path** is what it starts with and what its parts take up. So it can be told
part by part how long a search has made it. -/
theorem byteSize_front {path : String} (hne : path.toList ≠ []) :
    Text.byteSize (Path.front path) =
      Text.byteSize (Path.slash (Path.isAbsolute path)) + taken (pieces (Path.body path)) := by
  -- the last slash of a text begins one more part, which is empty
  have hslashed {cs : List Char} (h : cs ≠ []) :
      Text.byteSize (slashed cs) = taken (pieces cs) := by
    have hall := taken_pieces (slashed cs ++ [])
    rw [pieces_slashed h, taken_append, List.append_nil] at hall
    exact Nat.add_right_cancel hall.symm
  have htext := Path.toList_eq path
  rw [Path.front_of_ne hne]
  cases habsolute : Path.isAbsolute path with
  | true =>
    rw [habsolute] at htext
    change path.toList = '/' :: Path.body path at htext
    rw [htext, slashed_cons, Text.byteSize_cons]
    by_cases hbody : Path.body path = []
    · rw [if_pos ⟨hbody, rfl⟩, hbody]
      rfl
    · rw [if_neg fun h => hbody h.1, hslashed hbody]
      rfl
  | false =>
    rw [habsolute] at htext
    change path.toList = Path.body path at htext
    rw [htext, hslashed (htext ▸ hne)]
    exact (Nat.zero_add _).symm

theorem slash_not_mem_of_mem_pieces {cs q : List Char} (h : q ∈ pieces cs) : '/' ∉ q := by
  have hmem : q ∈ Text.pieces '/' cs := by
    rcases pieces_eq_or cs with heq | heq
    · rw [heq]
      exact h
    · rw [heq]
      exact List.mem_append_left _ h
  exact Text.not_mem_of_mem_pieces hmem

theorem plain_of_mem_pieces {cs q : List Char} (h : Plain cs) (hq : q ∈ pieces cs) : Plain q := by
  intro c hc
  have hmem : c ∈ (Text.pieces '/' cs).flatten := by
    rcases pieces_eq_or cs with heq | heq
    · rw [heq]
      exact List.mem_flatten_of_mem hq hc
    · rw [heq]
      exact List.mem_flatten_of_mem (List.mem_append_left _ hq) hc
  rw [Text.flatten_pieces] at hmem
  exact h c (List.mem_of_mem_filter hmem)

/-! ## The pattern of an extension

The pattern is put together as a text, to be read part by part again. Only what was put behind the
path has stars in it, and there is a slash in front of that, so that it is read as if it stood
alone. -/

/-- A text that can be an extension in a pattern: it is plain and not empty, and has neither a slash
of any kind nor a dot in it. -/
structure IsExtension (e : List Char) : Prop where
  plain : Plain e
  no_slash : '/' ∉ e
  no_backslash : '\\' ∉ e
  no_dot : '.' ∉ e
  ne_nil : e ≠ []

theorem isExtension {e : String} (h : e ∈ documentExtensions) : IsExtension e.toList := by
  have hall : ∀ e ∈ documentExtensions, isPattern e = false ∧ '/' ∉ e.toList ∧ '\\' ∉ e.toList ∧
      '.' ∉ e.toList ∧ e.toList ≠ [] := by decide
  obtain ⟨hplain, hslash, hbackslash, hdot, hne⟩ := hall e h
  exact ⟨isPattern_eq_false_iff.1 hplain, hslash, hbackslash, hdot, hne⟩

/-- What a pattern for names with an extension starts with: the part for directories, and the star
and the dot of the part for names. -/
def below : List Char := ['*', '*', '/', '*', '.']

/-- The pattern for names with an extension, behind the path of a directory. -/
def behind (cs e : List Char) : List Char := slashed cs ++ (below ++ e)

variable {e : List Char}

theorem behind_cons (c : Char) (cs e : List Char) :
    behind (c :: cs) e =
      c :: ((if cs = [] ∧ c = '/' then [] else slashed cs) ++ (below ++ e)) := by
  rw [behind, slashed_cons, List.cons_append]

/-- The pattern does not end like the path of a directory, so that what is found need not be one. -/
theorem getLast?_behind (he : IsExtension e) (cs : List Char) :
    (behind cs e).getLast? ≠ some '/' := by
  rw [behind, ← List.append_assoc, List.getLast?_append_of_ne_nil _ he.ne_nil]
  exact fun h => he.no_slash (List.mem_of_getLast? h)

/-- **The text of the pattern** for the names with an extension below a directory. The backslashes
of the path would be slashes in it, which is why there must be none. -/
theorem toList_extensionPattern {directory extension : String} (hne : directory.toList ≠ [])
    (hdirectory : '\\' ∉ directory.toList) (he : IsExtension extension.toList) :
    (extensionPattern directory extension).toList = behind directory.toList extension.toList := by
  have hname : '/' ∉ ("*." ++ extension).toList := by
    rw [String.toList_append]
    simp [he.no_slash]
  have hstars : (Path.join directory "**").toList = slashed directory.toList ++ ['*', '*'] := by
    rw [Path.toList_join (by decide), Path.front_of_ne hne]
    rfl
  have hopen : slashed (slashed directory.toList ++ ['*', '*']) =
      slashed directory.toList ++ ['*', '*', '/'] := by
    rw [slashed, if_neg (by simp), List.append_assoc]
    rfl
  have htext : (Path.join (Path.join directory "**") ("*." ++ extension)).toList =
      behind directory.toList extension.toList := by
    have hsome : (Path.join directory "**").toList ≠ [] := by
      rw [hstars]
      exact List.append_ne_nil_of_right_ne_nil _ (List.cons_ne_nil _ _)
    rw [Path.toList_join hname, Path.front_of_ne hsome, hstars, hopen, String.toList_append, behind,
      List.append_assoc]
    rfl
  have hslashed : '\\' ∉ slashed directory.toList := by
    rw [slashed]
    split <;> simp [hdirectory]
  -- no slash is put in the place of a backslash, as there is no backslash in the whole pattern
  have hkept : ∀ c ∈ behind directory.toList extension.toList,
      (if c = '\\' then '/' else c) = c := by
    intro c hc
    refine if_neg ?_
    rintro rfl
    have hbelow : '\\' ∉ below := by decide
    simp [behind, hslashed, hbelow, he.no_backslash] at hc
  rw [extensionPattern, String.toList_ofList, htext, List.map_congr_left hkept, List.map_id']

/-- What is wanted behind the directory makes sense wherever it stands. The two stars are between
slashes, which is all that is asked of them. -/
theorem wildcards_below (he : IsExtension e) (place : Nat) :
    wildcards (below ++ e).length place (some '/') (below ++ e) =
      .ok (.char '/' :: .many :: ('.' :: e).map .char) := by
  have hlimit : (below ++ e).length = e.length + 5 := by
    rw [List.length_append, Nat.add_comm]
    rfl
  have hslash : Plain ['/'] := by simp [Plain]
  have hname (place : Nat) : wildcards (e.length + 2) place (some '*') ('.' :: e) =
      .ok (('.' :: e).map .char) :=
    wildcards_of_plain (List.forall_mem_cons.2 ⟨by simp, he.plain⟩) (Nat.le_succ _)
  rw [hlimit]
  change wildcards (e.length + 4 + 1) place (some '/') ('*' :: '*' :: '/' :: '*' :: '.' :: e) = _
  rw [wildcards_stars]
  refine wildcards_append (b := '*' :: '.' :: e) hslash (Nat.le_add_left 1 _) ?_
  change wildcards (e.length + 2 + 1) _ _ _ = _
  rw [wildcards_star _ _ _ (by simp), hname]
  rfl

/-- The pattern makes sense as a whole. This is asked before it is cut at the slashes, and the two
stars must have a slash on both sides then. -/
theorem read_behind {cs : List Char} (hcs : Plain cs) (he : IsExtension e) :
    ∃ ws, read (behind cs e) = .ok ws := by
  have hplain : Plain (slashed cs) := by
    rw [slashed]
    split
    · exact hcs
    · exact List.forall_mem_append.2 ⟨hcs, by simp⟩
  have hlast : (slashed cs).getLast?.or none = some '/' := by
    rw [slashed]
    split
    · rename_i hlast
      rw [hlast]
      rfl
    · rw [List.getLast?_concat]
      rfl
  have hbelow := wildcards_below he (0 + (slashed cs).length)
  have hlimit : (below ++ e).length = (behind cs e).length - (slashed cs).length := by
    rw [behind, @List.length_append _ (slashed cs), Nat.add_sub_cancel_left]
  rw [← hlast, hlimit] at hbelow
  exact ⟨_, wildcards_append hplain (by simp [behind]) hbelow⟩

/-- What is wanted behind the directory, part by part: any directories, and then a name that ends
with the extension. -/
theorem mapM_part_below (he : IsExtension e) :
    [['*', '*'], '*' :: '.' :: e].mapM part =
      .ok [.directories, .name (.many :: ('.' :: e).map .char)] := by
  have hname : part ('*' :: '.' :: e) = .ok (.name (.many :: ('.' :: e).map .char)) := by
    have hdot : wildcards (e.length + 1) 1 (some '*') ('.' :: e) = .ok (('.' :: e).map .char) :=
      wildcards_of_plain (List.forall_mem_cons.2 ⟨by simp, he.plain⟩) (Nat.le_refl _)
    rw [part, if_neg (by simp), read, List.length_cons, List.length_cons,
      wildcards_star _ _ _ (by simp), hdot]
    rfl
  rw [List.mapM_cons, List.mapM_cons, hname]
  rfl

theorem mapM_part_of_plain {qs : List (List Char)} (h : ∀ q ∈ qs, Plain q) :
    qs.mapM part = .ok (literals qs) := by
  induction qs with
  | nil => rfl
  | cons q qs ih =>
    obtain ⟨hq, hqs⟩ := List.forall_mem_cons.1 h
    rw [List.mapM_cons, part_of_plain hq, ih hqs]
    rfl

/-- Names in front of a pattern stay as they are: only parts for directories are put together. -/
theorem collapse_literals (qs : List (List Char)) (ps : List PatternPart) :
    collapse (literals qs ++ ps) = literals qs ++ collapse ps := by
  induction qs with
  | nil => rfl
  | cons q qs ih =>
    change collapse (.name (q.map .char) :: (literals qs ++ ps)) = _
    rw [collapse, ih]
    · rfl
    · exact nofun

theorem pieces_below (he : IsExtension e) :
    Text.pieces '/' (below ++ e) = [['*', '*'], '*' :: '.' :: e] := by
  have hname : '/' ∉ '*' :: '.' :: e := by simp [he.no_slash]
  change Text.pieces '/' (['*', '*'] ++ '/' :: '*' :: '.' :: e) = _
  rw [Text.pieces_append_cons, Text.pieces_of_not_mem (by decide), Text.pieces_of_not_mem hname]
  rfl

theorem pieces_behind (he : IsExtension e) {cs : List Char} (hne : cs ≠ []) :
    pieces (behind cs e) = pieces cs ++ [['*', '*'], '*' :: '.' :: e] := by
  have hlast : (pieces cs ++ [['*', '*'], '*' :: '.' :: e]).getLast? = some ('*' :: '.' :: e) := by
    rw [List.getLast?_append]
    rfl
  rw [behind, pieces, pieces_slashed hne, pieces_below he, hlast]
  simp

/-- **The parts of the pattern** between slashes: those of the directory come first. -/
theorem pieces_body_behind (he : IsExtension e) {directory : String}
    (hne : directory.toList ≠ []) :
    pieces (if (behind directory.toList e).head? = some '/' then (behind directory.toList e).tail
        else behind directory.toList e) =
      pieces (Path.body directory) ++ [['*', '*'], '*' :: '.' :: e] := by
  obtain ⟨c, rest, htext⟩ := List.exists_cons_of_ne_nil hne
  by_cases hslash : c = '/'
  · subst hslash
    have hbody : Path.body directory = rest := by
      rw [Path.body, Path.isAbsolute, htext]
      rfl
    rw [htext, hbody, behind_cons, List.head?_cons, if_pos rfl, List.tail_cons]
    by_cases hrest : rest = []
    · subst hrest
      rw [if_pos ⟨rfl, rfl⟩, List.nil_append, pieces, pieces_below he]
      simp [pieces, Text.pieces]
    · rw [if_neg (fun h => hrest h.1)]
      exact pieces_behind he hrest
  · have hbody : Path.body directory = c :: rest := by
      rw [Path.body, Path.isAbsolute, htext, List.head?_cons]
      exact if_neg (by simpa using hslash)
    rw [htext, hbody, ← pieces_behind he (List.cons_ne_nil c rest), behind_cons, List.head?_cons,
      if_neg (fun h => hslash (Option.some.inj h))]

/-- **What the pattern is read as**: the parts of the directory, any number of directories, and a
name with the extension. -/
theorem parse_behind {directory : String} (hne : directory.toList ≠ [])
    (hplain : Plain directory.toList) (he : IsExtension e) :
    parse (behind directory.toList e) =
      .ok (literals (pieces (Path.body directory)) ++
        [.directories, .name (.many :: ('.' :: e).map .char)]) := by
  obtain ⟨ws, hread⟩ := read_behind hplain he
  have hbody : Plain (Path.body directory) := by
    rw [Path.toList_eq directory] at hplain
    exact fun c hc => hplain c (List.mem_append_right _ hc)
  have hparts := mapM_part_of_plain fun q hq => plain_of_mem_pieces hbody hq
  have hall := pieces_body_behind he hne
  rw [parse, hread]
  change ((pieces _).mapM part).bind (fun parts => .ok (collapse parts)) = _
  rw [hall, List.mapM_append, hparts, mapM_part_below he]
  exact congrArg Except.ok (collapse_literals _ _)

/-! ## Names with the extension -/

theorem covers_map_char_iff {cs name : List Char} :
    covers (cs.map .char) name = true ↔ name = cs := by
  induction cs generalizing name with
  | nil => exact List.isEmpty_iff
  | cons c cs ih =>
    cases name with
    | nil => exact ⟨nofun, nofun⟩
    | cons d name =>
      change (d == c && covers (cs.map .char) name) = true ↔ _
      rw [Bool.and_eq_true, beq_iff_eq, ih, List.cons.injEq]

theorem coversMany_iff {rest : List Char → Bool} {name : List Char} :
    covers.coversMany rest name = true ↔ ∃ tail, tail <:+ name ∧ rest tail = true := by
  induction name with
  | nil => simp [covers.coversMany]
  | cons c name ih =>
    rw [covers.coversMany, Bool.or_eq_true, ih]
    simp only [List.suffix_cons_iff, or_and_right, exists_or, exists_eq_left]

/-- **A star and plain characters** stand for the names that end with those. Something must be left
in front for the star, but it may be nothing. -/
theorem covers_many_iff {cs name : List Char} :
    covers (.many :: cs.map .char) name = true ↔ cs <:+ name := by
  change covers.coversMany (covers (cs.map .char)) name = true ↔ _
  rw [coversMany_iff]
  simp only [covers_map_char_iff, exists_eq_right]

end Pattern

end DocLint.Files
