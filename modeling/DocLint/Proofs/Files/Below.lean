import DocLint.Files.Selection
import DocLint.Proofs.Files.Patterns
import DocLint.Proofs.Files.Searching
import Mathlib.Data.List.TakeWhile

/-!
# The documents below a directory

For the pattern of an extension the search goes to the directory, part by part of its path, and then
looks at everything below it. So what is selected for a directory are the files below it whose names
end with one of the extensions of documents, as those are spelled. All this is said of a directory
that the search gets to: it does not if there is a backslash in the path, which is taken for a slash,
or an empty part behind a dot at the start.

A search does not keep the path as it was spelled. The dots it starts with are left out of what is
found, and so are its empty parts (`searchedAs`); what is left is never longer, so that the length of
a path is no reason to miss a document that could be named otherwise.

* `Pattern.exists_expand_literals` — a search goes where the parts that are spelled out lead;
* `exists_documentsBelow` — what is found below a directory;
* `IsDocumentBelow`, `mem_documents_iff` — what lies there, and that this is what is found.
-/

namespace DocLint.Files

/-! ## The path of the working directory -/

namespace Path

theorem components_ne_nil {p : String} (h : p ≠ "") : components p ≠ [] := by
  intro hnil
  rw [components_eq, List.append_eq_nil_iff] at hnil
  obtain ⟨hlead, hparts⟩ := hnil
  cases habsolute : isAbsolute p with
  | true =>
    rw [habsolute] at hlead
    cases hlead
  | false =>
    have hdot : firstPart p.toList ≠ ['.'] := fun hdot => by
      rw [habsolute, lead, if_neg Bool.false_ne_true, if_pos hdot] at hlead
      cases hlead
    have hempty : firstPart p.toList ≠ [] := by
      obtain ⟨c, cs, hcs⟩ := List.exists_cons_of_ne_nil (mt String.toList_eq_nil_iff.1 h)
      rw [isAbsolute, hcs, List.head?_cons, beq_eq_false_iff_ne] at habsolute
      rw [hcs, firstPart, List.takeWhile_cons_of_pos]
      · exact List.cons_ne_nil _ _
      · simpa using habsolute
    obtain ⟨c, -, hc⟩ := exists_componentOf? hempty hdot
    rw [parts, List.filterMap_eq_nil_iff] at hparts
    have hnone := hparts _ (List.mem_of_mem_head? (head?_pieces p.toList))
    rw [hc] at hnone
    cases hnone

/-- One part of a path is the working directory only as a dot. Other texts for it, such as one with
a slash behind the dot, have more parts than one. -/
theorem eq_dot_of_same {q : String} (hslash : '/' ∉ q.toList) (h : same q "." = true) :
    q.toList = ['.'] := by
  have hhere : Component.here ∈ components q := by
    rw [beq_iff_eq.1 h]
    decide
  rw [← firstPart_of_not_mem hslash]
  exact (here_mem_components_iff.1 hhere).2

/-- A path with a part behind it is the working directory only if the path is. So a search that has
gone further than that keeps the path it has come to. -/
theorem same_dot_of_join {q path : String} (hslash : '/' ∉ q.toList) (hne : path ≠ "")
    (h : same (join path q) "." = true) : same path "." = true := by
  have hcomponents := Disk.components_join hslash (mt String.toList_eq_nil_iff.1 hne)
  rw [beq_iff_eq.1 h] at hcomponents
  obtain ⟨c, cs, hcs⟩ := List.exists_cons_of_ne_nil (components_ne_nil hne)
  rw [hcs] at hcomponents
  obtain ⟨rfl, hrest⟩ := List.cons.inj (hcomponents.symm.trans (by decide : _ = [Component.here]))
  rw [(List.append_eq_nil_iff.1 hrest).1] at hcs
  exact beq_iff_eq.2 hcs

end Path

/-! ## Where the search starts

A search goes from one part of the pattern to the next, and puts each behind the path it has come
to. The induction keeps that this path leads where the parts lead, that it is the one that the parts
spell out, and that there is room for those that are left. -/

/-- The parts of a path with no empty part behind the dots it starts with. Behind those dots an
empty part would be looked up as the empty path, which leads nowhere. -/
def Ungapped (qs : List (List Char)) : Prop := (qs.dropWhile (· = ['.'])).head? ≠ some []

namespace Found

variable {f : Found} {q : List Char} {qs : List (List Char)}

/-- The path that is spelled out by some parts behind what was found, each of them put behind the
others as a search does it. -/
def behind (f : Found) (qs : List (List Char)) : String :=
  ((if Path.same f.path "." then qs.dropWhile (· = ['.']) else qs).map String.ofList).foldl
    Path.join f.base

theorem behind_nil (f : Found) : f.behind [] = f.base := by
  rw [behind]
  split <;> rfl

/-- **One part further** the same path is spelled out by the other parts. What the induction over
the parts of a path keeps is this path. -/
theorem behind_cons (hslash : '/' ∉ q) (hpath : f.path ≠ "") (e : Entry) :
    f.behind (q :: qs) = Found.behind ⟨f.pathOf (String.ofList q), e⟩ qs := by
  have hpiece : '/' ∉ (String.ofList q).toList := by rwa [String.toList_ofList]
  rw [behind, behind, base, base]
  dsimp only
  rw [pathOf]
  by_cases hhere : Path.same f.path "." = true
  · rw [if_pos hhere, if_pos hhere, if_pos hhere]
    by_cases hdot : q = ['.']
    · -- one more dot for the working directory, which is left out
      subst hdot
      rw [List.dropWhile_cons_of_pos (by decide), if_pos (by decide), if_pos (by decide)]
    · have hother : ¬ Path.same (String.ofList q) "." = true := fun hsame => by
        have htext := Path.eq_dot_of_same hpiece hsame
        rw [String.toList_ofList] at htext
        exact hdot htext
      rw [List.dropWhile_cons_of_neg (by simpa using hdot), if_neg hother, if_neg hother,
        List.map_cons, List.foldl_cons, Disk.join_relative hpiece]
      rfl
  · have hother : ¬ Path.same (Path.join f.path (String.ofList q)) "." = true := fun hsame =>
      hhere (Path.same_dot_of_join hpiece hpath hsame)
    rw [if_neg hhere, if_neg hhere, if_neg hhere, if_neg hother, if_neg hother]
    rfl

/-- What is spelled out behind a path is no longer than the parts make it. It may be shorter, as of
dots and empty parts nothing is kept at the start. -/
theorem byteSize_front_behind (f : Found) (hslash : ∀ q ∈ qs, '/' ∉ q) :
    Text.byteSize (Path.front (f.behind qs)) ≤
      Text.byteSize (Path.front f.base) + Pattern.taken qs := by
  have hfold : ∀ rs : List (List Char), (∀ q ∈ rs, '/' ∉ q) → ∀ path : String,
      Text.byteSize (Path.front ((rs.map String.ofList).foldl Path.join path)) ≤
        Text.byteSize (Path.front path) + Pattern.taken rs := by
    intro rs hrs
    induction rs with
    | nil => exact fun path => Nat.le_refl _
    | cons q rs ih =>
      intro path
      obtain ⟨hq, hrs⟩ := List.forall_mem_cons.1 hrs
      have hpiece : '/' ∉ (String.ofList q).toList := by rwa [String.toList_ofList]
      have hone := Path.byteSize_front_join_le hpiece path
      rw [String.toList_ofList] at hone
      have hmore := ih hrs (Path.join path (String.ofList q))
      rw [List.map_cons, List.foldl_cons, Pattern.taken_cons]
      omega
  rw [behind]
  split
  · have hcut := List.takeWhile_append_dropWhile (p := (· = ['.'])) (l := qs)
    have hrest := hfold (qs.dropWhile (· = ['.']))
      (fun q hq => hslash q ((List.dropWhile_suffix _).subset hq)) f.base
    rw [← hcut, Pattern.taken_append, hcut]
    omega
  · exact hfold qs hslash f.base

/-- The path that another part is put behind is no longer than that of what was found: at the
working directory nothing is in front. -/
theorem byteSize_front_base (f : Found) :
    Text.byteSize (Path.front f.base) ≤ Text.byteSize (Path.front f.path) := by
  rw [base]
  split
  · exact Nat.zero_le _
  · exact Nat.le_refl _

/-- One part further there is some text, and no gap behind it. It is the first part that is neither
a dot nor empty that closes the gap for good. -/
theorem ungapped_pathOf (hslash : '/' ∉ q)
    (hpath : f.path ≠ "") (hgap : Path.same f.path "." = true → Ungapped (q :: qs)) :
    f.pathOf (String.ofList q) ≠ "" ∧
      (Path.same (f.pathOf (String.ofList q)) "." = true → Ungapped qs) := by
  have hpiece : '/' ∉ (String.ofList q).toList := by rwa [String.toList_ofList]
  rw [pathOf]
  by_cases hhere : Path.same f.path "." = true
  · have hq := hgap hhere
    rw [if_pos hhere]
    constructor
    · intro hempty
      rw [String.ofList_eq_empty_iff] at hempty
      rw [hempty] at hq
      exact hq rfl
    · intro hsame
      have hdot := Path.eq_dot_of_same hpiece hsame
      rw [String.toList_ofList] at hdot
      rwa [hdot, Ungapped, List.dropWhile_cons_of_pos (by decide)] at hq
  · rw [if_neg hhere]
    exact ⟨Disk.join_ne_empty hpiece (mt String.toList_eq_nil_iff.1 hpath),
      fun hsame => absurd (Path.same_dot_of_join hpiece hpath hsame) hhere⟩

end Found

namespace Pattern

variable {d : Disk}

/-- **A search goes where the parts that are spelled out lead**, if there is no gap behind the dots
that stand for the working directory, and the parts are not too long together. -/
theorem exists_expand_literals {qs : List (List Char)} {f : Found} {s t : Spot}
    (hf : Found.Stands d f s) (hslash : ∀ q ∈ qs, '/' ∉ q)
    (hgap : Path.same f.path "." = true → Ungapped qs)
    (hroom : Text.byteSize (Path.front f.base) + taken qs ≤ Path.maxBytes + 1)
    (hfollow : s.follow (qs.map Step.ofPiece) = .ok t) :
    ∃ g, Found.Stands d g t ∧ g.base = f.behind qs ∧
      ∀ ps, expand d (literals qs ++ ps) f = expand d ps g := by
  induction qs generalizing f s with
  | nil =>
    obtain rfl := Except.ok.inj hfollow
    exact ⟨f, hf, f.behind_nil.symm, fun _ => rfl⟩
  | cons q qs ih =>
    obtain ⟨hq, hqs⟩ := List.forall_mem_cons.1 hslash
    have hpiece : '/' ∉ (String.ofList q).toList := by rwa [String.toList_ofList]
    have hpath := d.ne_empty_of_find hf.leads
    obtain ⟨hne, hrest⟩ := Found.ungapped_pathOf hq hpath hgap
    rw [taken_cons] at hroom
    -- what is looked up next is short enough, and leaves room for the parts behind it
    have hfits : Path.fits (f.pathOf (String.ofList q)) = true := by
      rw [Path.fits_iff, Found.pathOf_eq hpiece, Path.toList_join hpiece, Text.byteSize_append,
        String.toList_ofList]
      omega
    have hnext : Text.byteSize (Path.front (f.pathOf (String.ofList q))) ≤
        Text.byteSize (Path.front f.base) + (Text.byteSize q + 1) := by
      have hone := Path.byteSize_front_join_le hpiece f.base
      rwa [String.toList_ofList, ← Found.pathOf_eq hpiece] at hone
    rw [List.map_cons, Spot.follow] at hfollow
    split at hfollow
    · rename_i u hu
      have hg : Found.Stands d ⟨f.pathOf (String.ofList q), u.here⟩ u :=
        hf.step hpiece hne hfits (by rwa [String.toList_ofList])
      have hbase := Found.byteSize_front_base ⟨f.pathOf (String.ofList q), u.here⟩
      dsimp only at hbase
      obtain ⟨g, hstands, hspelled, hexpand⟩ := ih hg hqs hrest (by omega) hfollow
      refine ⟨g, hstands, hspelled.trans (Found.behind_cons hq hpath u.here).symm, fun ps => ?_⟩
      rw [← hexpand ps]
      change expand d (.name (q.map .char) :: (literals qs ++ ps)) f = _
      rw [expand, literal?_map_char]
      dsimp only
      rw [Found.at?_eq_some hg.leads]
      exact List.append_nil _
    · cases hfollow

/-- Everything below, if its name ends as it should. How deep it lies makes no difference, and
neither does what is there. -/
theorem mem_expand_below {cs : List Char} {f g : Found} :
    f ∈ expand d [.directories, .name (.many :: cs.map .char)] g ↔
      ∃ last, (last, f) ∈ g.descendants ∧ cs <:+ last.toList := by
  rw [expand, List.mem_flatMap]
  constructor
  · rintro ⟨⟨last, h⟩, hmem, hf⟩
    obtain ⟨hmem, hcovers⟩ := List.mem_filter.1 hmem
    obtain rfl : f = h := List.mem_singleton.1 hf
    exact ⟨last, hmem, covers_many_iff.1 hcovers⟩
  · rintro ⟨last, hmem, hsuffix⟩
    exact ⟨(last, f), List.mem_filter.2 ⟨hmem, covers_many_iff.2 hsuffix⟩,
      List.mem_singleton_self f⟩

end Pattern

/-! ## The directory

The pattern begins with the parts of the path of the directory, each of which stands for itself
only. So the search comes to the directory and to no other place, and what it finds there is what is
listed below. -/

/-- **A directory whose documents are looked for where it is**: nothing in its path stands for other
characters or for a slash, and no empty part comes behind a dot at its start. -/
structure Searchable (directory : String) : Prop where
  plain : isPattern directory = false
  no_backslash : '\\' ∉ directory.toList
  no_gap : Path.isAbsolute directory = true ∨ Ungapped (Pattern.pieces directory.toList)

/-- The path of a directory as a search spells it in the paths of what is below: part by part, without
the dots that a relative path starts with. -/
def searchedAs (directory : String) : String :=
  let parts := Pattern.pieces (Path.body directory)
  if Path.isAbsolute directory then (parts.map String.ofList).foldl Path.join "/"
  else ((parts.dropWhile (· = ['.'])).map String.ofList).foldl Path.join ""

/-- This is what is spelled out behind the place where the search starts, be it the root or the
working directory. -/
theorem behind_start (directory : String) (e : Entry) :
    Found.behind ⟨if Path.isAbsolute directory then "/" else ".", e⟩
      (Pattern.pieces (Path.body directory)) = searchedAs directory := by
  rw [searchedAs]
  cases Path.isAbsolute directory with
  | true =>
    have hother : ¬ Path.same "/" "." = true := by decide
    rw [if_pos rfl, if_pos rfl, Found.behind, Found.base, if_neg hother, if_neg hother]
  | false =>
    have hhere : Path.same "." "." = true := by decide
    rw [if_neg Bool.false_ne_true, if_neg Bool.false_ne_true, Found.behind, Found.base,
      if_pos hhere, if_pos hhere]

/-- Where the search starts, nothing is spelled out but the root: the working directory is left out
of what is found. -/
theorem byteSize_front_start (directory : String) (e : Entry) :
    Text.byteSize (Path.front
      (Found.base ⟨if Path.isAbsolute directory then "/" else ".", e⟩)) =
        Text.byteSize (Path.slash (Path.isAbsolute directory)) := by
  cases Path.isAbsolute directory with
  | true =>
    have hother : ¬ Path.same "/" "." = true := by decide
    have hroot : Text.byteSize (Path.front "/") = 1 := by decide
    rw [if_pos rfl, Found.base, if_neg hother]
    exact hroot
  | false =>
    have hhere : Path.same "." "." = true := by decide
    rw [if_neg Bool.false_ne_true, Found.base, if_pos hhere]
    rfl

/-- **A search does not make the path longer.** It only leaves out dots at the start and empty
parts, so that whatever could be named behind the path can be named behind what is left of it. -/
theorem byteSize_front_searchedAs {directory : String} (hne : directory.toList ≠ []) :
    Text.byteSize (Path.front (searchedAs directory)) ≤ Text.byteSize (Path.front directory) := by
  have hle := Found.byteSize_front_behind
    (⟨if Path.isAbsolute directory then "/" else ".", .file []⟩ : Found)
    fun q (hq : q ∈ Pattern.pieces (Path.body directory)) => Pattern.slash_not_mem_of_mem_pieces hq
  rwa [behind_start, byteSize_front_start, ← Pattern.byteSize_front hne] at hle

/-- The search for the documents of such a directory starts without a gap. From the root there can
be no such gap, as no dot is in front of the parts. -/
theorem Searchable.ungapped {directory : String} (h : Searchable directory)
    (hstart : Path.same (if Path.isAbsolute directory then "/" else ".") "." = true) :
    Ungapped (Pattern.pieces (Path.body directory)) := by
  cases habsolute : Path.isAbsolute directory with
  | true =>
    rw [habsolute] at hstart
    exact absurd hstart (by decide)
  | false =>
    rw [Path.body, habsolute, if_neg Bool.false_ne_true]
    exact h.no_gap.resolve_left (by rw [habsolute]; exact Bool.false_ne_true)

/-- An empty part at the end of a path leads nowhere else. The pattern for the documents has no such
part, as others come behind it. -/
theorem Spot.follow_pieces {s t : Spot} {cs : List Char}
    (h : s.follow ((Text.pieces '/' cs).map Step.ofPiece) = .ok t) :
    s.follow ((Pattern.pieces cs).map Step.ofPiece) = .ok t := by
  rcases Pattern.pieces_eq_or cs with heq | heq
  · rwa [heq] at h
  · rw [heq, List.map_append, follow_append] at h
    cases hfront : s.follow ((Pattern.pieces cs).map Step.ofPiece) with
    | error f =>
      rw [hfront] at h
      cases h
    | ok u =>
      rw [hfront] at h
      change u.follow [.stay] = _ at h
      rw [follow_singleton] at h
      rw [eq_of_step_stay h]

variable {d : Disk} {directory : String} {s : Spot}

/-- **The way to a directory**: where it starts, which a search starts from, too, and the parts of
its path behind the root. -/
theorem exists_start_of_find (h : d.find directory = .ok s) :
    ∃ u, Found.Stands d ⟨if Path.isAbsolute directory then "/" else ".", u.here⟩ u ∧
      u.follow ((Pattern.pieces (Path.body directory)).map Step.ofPiece) = .ok s := by
  obtain ⟨-, -, u, hstart, hfollow⟩ := d.find_eq_ok_iff.1 h
  -- the path has a step at least, so where it starts there is a directory
  have hstay : u.step .stay = .ok u := by
    cases hsteps : Disk.steps directory with
    | nil =>
      have hhead := Path.head?_pieces directory.toList
      rw [Disk.steps, List.map_eq_nil_iff] at hsteps
      rw [hsteps] at hhead
      cases hhead
    | cons next steps =>
      rw [hsteps] at hfollow
      exact Spot.step_stay_of_follow hfollow
  have htext := Path.toList_eq directory
  cases habsolute : Path.isAbsolute directory with
  | true =>
    have hroot : d.find "/" = .ok u := by
      refine d.find_eq_ok_iff.2 ⟨by decide, by decide, u, ?_, ?_⟩
      · rw [← hstart]
        exact d.start_congr habsolute.symm
      · change u.follow [.stay, .stay] = _
        rw [Spot.follow_stay, Spot.follow_singleton, hstay]
    refine ⟨u, ⟨hroot, rfl⟩, Spot.follow_pieces ?_⟩
    rw [Disk.steps, htext, habsolute] at hfollow
    -- the empty part in front of the root says to stay there
    change u.follow (.stay :: (Text.pieces '/' (Path.body directory)).map Step.ofPiece) = _
      at hfollow
    rwa [Spot.follow, hstay] at hfollow
  | false =>
    have hhere : d.find "." = .ok u := by
      refine d.find_eq_ok_iff.2 ⟨by decide, by decide, u, ?_, ?_⟩
      · rw [← hstart]
        exact d.start_congr habsolute.symm
      · change u.follow [.stay] = _
        rw [Spot.follow_singleton, hstay]
    refine ⟨u, ⟨hhere, rfl⟩, Spot.follow_pieces ?_⟩
    rw [Disk.steps, htext, habsolute] at hfollow
    exact hfollow

/-- **The search for an extension** goes to the directory and looks below it. No part of the path
stands for anything else than itself, so that there is one place only to look below. -/
theorem exists_search (hsearchable : Searchable directory) (h : d.find directory = .ok s) :
    ∃ g, Found.Stands d g s ∧ g.base = searchedAs directory ∧ ∀ e ∈ documentExtensions,
      Pattern.search d (extensionPattern directory e) =
        .ok (Pattern.expand d [.directories, .name (.many :: ('.' :: e.toList).map .char)] g) := by
  have hne : directory.toList ≠ [] := mt String.toList_eq_nil_iff.1 (d.ne_empty_of_find h)
  obtain ⟨u, hu, hfollow⟩ := exists_start_of_find h
  -- the parts together are not longer than the path, which was short enough to be looked up
  have hroom : Text.byteSize (Path.front
      (Found.base ⟨if Path.isAbsolute directory then "/" else ".", u.here⟩)) +
        Pattern.taken (Pattern.pieces (Path.body directory)) ≤ Path.maxBytes + 1 := by
    rw [byteSize_front_start, ← Pattern.byteSize_front hne]
    calc
      _ ≤ _ := Path.byteSize_front_le directory
      _ ≤ _ := Nat.add_le_add_right (Path.fits_iff.1 (d.fits_of_find h)) 1
  obtain ⟨g, hg, hspelled, hexpand⟩ := Pattern.exists_expand_literals hu
    (fun _ => Pattern.slash_not_mem_of_mem_pieces) hsearchable.ungapped hroom hfollow
  refine ⟨g, hg, hspelled.trans (behind_start directory u.here), fun e he => ?_⟩
  have hextension := Pattern.isExtension he
  have htext := Pattern.toList_extensionPattern hne hsearchable.no_backslash hextension
  have hparse := Pattern.parse_behind hne (isPattern_eq_false_iff.1 hsearchable.plain) hextension
  have habsolute : Path.isAbsolute (extensionPattern directory e) = Path.isAbsolute directory := by
    obtain ⟨c, cs, hcs⟩ := List.exists_cons_of_ne_nil hne
    rw [Path.isAbsolute, htext, hcs, Pattern.behind_cons, Path.isAbsolute, hcs]
    rfl
  rw [Pattern.search, htext, hparse, habsolute]
  change Except.ok (if _ then _ else _) = _
  rw [if_neg (Pattern.getLast?_behind hextension _), Found.at?_eq_some hu.leads, ← hexpand]
  exact congrArg Except.ok (List.append_nil _)

/-- **What is found below a directory**: everything there with a name that ends with an extension of
documents. -/
theorem exists_documentsBelow (hsearchable : Searchable directory) (h : d.find directory = .ok s) :
    ∃ g, Found.Stands d g s ∧ g.base = searchedAs directory ∧ ∀ f, f ∈ documentsBelow d directory ↔
      ∃ last, (last, f) ∈ g.descendants ∧
        ∃ e ∈ documentExtensions, '.' :: e.toList <:+ last.toList := by
  obtain ⟨g, hg, hspelled, hsearch⟩ := exists_search hsearchable h
  refine ⟨g, hg, hspelled, fun f => ?_⟩
  rw [documentsBelow, List.mem_flatMap]
  constructor
  · rintro ⟨e, he, hf⟩
    rw [hsearch e he] at hf
    obtain ⟨last, hlast, hsuffix⟩ := Pattern.mem_expand_below.1 hf
    exact ⟨last, hlast, e, he, hsuffix⟩
  · rintro ⟨last, hlast, e, he, hsuffix⟩
    refine ⟨e, he, ?_⟩
    rw [hsearch e he]
    exact Pattern.mem_expand_below.2 ⟨last, hlast, hsuffix⟩

/-- **The paths of the files** among what was found: each path is asked once more whether it leads
to a file, whatever was listed under it. -/
theorem mem_filePaths_iff {found : List Found} {p : String} :
    p ∈ filePaths d found ↔ (∃ f ∈ found, f.path = p) ∧ d.isFile p = true := by
  rw [filePaths, List.mem_mergeSort, List.mem_filter, List.mem_map]

theorem isFile_iff {path : String} :
    d.isFile path = true ↔ ∃ t, d.find path = .ok t ∧ t.here.isFile = true := by
  rw [Disk.isFile, Disk.entry]
  cases d.find path with
  | error f =>
    constructor
    · intro h
      cases h
    · rintro ⟨t, ht, -⟩
      cases ht
  | ok t =>
    constructor
    · intro h
      exact ⟨t, rfl, h⟩
    · rintro ⟨t, ht, h⟩
      cases ht
      exact h

/-- **A document below a directory**: names lead down from the directory to a file, the last of them
ends with an extension of documents, and the path of the directory with the names behind it, as a
search spells it, leads to that file. -/
def IsDocumentBelow (d : Disk) (directory path : String) : Prop :=
  ∃ (s t : Spot) (names : List String) (last extension : String),
    d.find directory = .ok s ∧ s.follow (names.map .down) = .ok t ∧ t.here.isFile = true ∧
    names.getLast? = some last ∧ extension ∈ documentExtensions ∧
    '.' :: extension.toList <:+ last.toList ∧
    path = names.foldl Path.join (searchedAs directory) ∧ d.find path = .ok t

/-- The path of a directory as a search spells it leads to the directory. It may have other
components at its start, but it takes the same steps. -/
theorem reach_searchedAs (hsearchable : Searchable directory) (h : d.find directory = .ok s) :
    d.reach (searchedAs directory) = .ok s := by
  obtain ⟨g, hg, hspelled, -⟩ := exists_search hsearchable h
  rw [← hspelled, Found.reach_base, d.reach_of_find hg.leads]

/-- **The documents below a directory** are the files that are found there. Names that are listed
below it are a way down, and the path that the search gives each of them is the one of the documents
below. -/
theorem mem_documents_iff (htree : d.root.IsTree) (hsearchable : Searchable directory)
    (h : d.find directory = .ok s) {p : String} :
    p ∈ filePaths d (documentsBelow d directory) ↔ IsDocumentBelow d directory p := by
  obtain ⟨g, hg, hspelled, hbelow⟩ := exists_documentsBelow hsearchable h
  have hhere := (Disk.inTree_of_find htree h).here
  have hgTree : g.entry.IsTree := by rwa [hg.entry_eq]
  have hreach := reach_searchedAs hsearchable h
  rw [mem_filePaths_iff]
  constructor
  · rintro ⟨⟨f, hf, rfl⟩, hfile⟩
    obtain ⟨last, hmem, extension, hextension, hsuffix⟩ := (hbelow f).1 hf
    obtain ⟨names, hlast, hlisted, hpath⟩ := (Found.mem_descendants_iff hgTree).1 hmem
    have hne : names ≠ [] := by
      rintro rfl
      cases hlast
    obtain ⟨t, ht, htFile⟩ := isFile_iff.1 hfile
    -- the file that the path leads to is reached by the names that are listed
    rw [hpath, hspelled] at ht ⊢
    obtain ⟨-, hfollow⟩ :=
      (d.find_foldl_join hreach (hgTree.isName_of_mem_contents hlisted) hne).1 ht
    exact ⟨s, t, names, last, extension, h, hfollow, htFile, hlast, hextension, hsuffix, rfl, ht⟩
  · rintro ⟨s', t, names, last, extension, hs', hfollow, htFile, hlast, hextension, hsuffix, rfl,
      ht⟩
    obtain rfl := Except.ok.inj (hs'.symm.trans h)
    have hne : names ≠ [] := by
      rintro rfl
      cases hlast
    -- a way down leads to what is listed, so that the search finds it
    obtain ⟨hlisted, -⟩ := (Spot.mem_contents_iff hhere hne).2 ⟨t, hfollow, rfl⟩
    refine ⟨⟨⟨names.foldl Path.join (searchedAs directory), t.here⟩, (hbelow _).2
      ⟨last, ?_, extension, hextension, hsuffix⟩, rfl⟩, isFile_iff.2 ⟨t, ht, htFile⟩⟩
    exact (Found.mem_descendants_iff hgTree).2
      ⟨names, hlast, by rwa [hg.entry_eq], by rw [hspelled]⟩

end DocLint.Files
