import DocLint.Files.Search
import DocLint.Proofs.Files.Lengths
import DocLint.Proofs.Files.Trees

/-!
# What a search finds

A search goes from a place to what is next to it or below it, and adds the name to the path. A part
that is spelled out is looked up, so that the path with the part behind it leads there. What is below
a directory is only listed: the names are read where the directory is, and nobody asks whether the
paths made of them lead anywhere. Whether they do is told by the names and by the length of the path.

* `Disk.reach_foldl_join`, `Disk.find_foldl_join` — a way down behind a path, and when the path that
  spells it leads there;
* `Found.Stands` — a path with what is there, and the place;
* `Found.Stands.step` — one part further, if the path stays short enough;
* `Found.mem_descendants_iff` — everything below what was found.
-/

namespace DocLint.Files

/-! ## Names behind a path -/

theorem Path.moves_join {name : String} (hname : Disk.IsName name) (path : String) :
    moves (join path name) = moves path ++ [.down name] := by
  obtain ⟨front, hsteps, hfront⟩ := Disk.steps_join hname.no_slash path
  rw [← Disk.filter_steps, hsteps, List.filter_append, hfront, hname.down]
  rfl

namespace Disk

variable (d : Disk) {path name : String} {names : List String} {t : Spot}

/-- One name further: the path with a name behind it leads where the name leads from the place of
the path. -/
theorem reach_join (hname : IsName name) (path : String) :
    d.reach (Path.join path name) = (d.reach path).bind fun s => s.step (.down name) := by
  rw [reach, reach, d.start_congr (isAbsolute_join hname.no_slash path), Path.moves_join hname]
  cases d.start path with
  | error f => rfl
  | ok start =>
    change start.follow (Path.moves path ++ [.down name]) = (start.follow (Path.moves path)).bind _
    rw [Spot.follow_append]
    simp only [Spot.follow_singleton]

/-- **Some names further**: the names behind a path are a way down from its place. -/
theorem reach_foldl_join (hnames : ∀ name ∈ names, IsName name) (path : String) :
    d.reach (names.foldl Path.join path) =
      (d.reach path).bind fun s => s.follow (names.map .down) := by
  induction names generalizing path with
  | nil => cases hreach : d.reach path <;> simp [hreach, Except.bind, Spot.follow]
  | cons name names ih =>
    obtain ⟨hname, hnames⟩ := List.forall_mem_cons.1 hnames
    rw [List.foldl_cons, ih hnames, d.reach_join hname]
    cases d.reach path with
    | error f => rfl
    | ok s =>
      change (s.step (.down name)).bind _ = s.follow (.down name :: names.map .down)
      rw [Spot.follow]
      cases s.step (.down name) <;> rfl

/-- A path that ends with a name leads where its components do, if it is short enough. A name at the
end asks for no directory, unlike a slash or a dot would. -/
theorem find_join (hname : IsName name) (hfits : Path.fits (Path.join path name) = true) :
    d.find (Path.join path name) = d.reach (Path.join path name) := by
  rw [d.find_join_piece hname.no_slash (hname.join_ne_empty path) hfits, hname.down,
    d.reach_join hname]

/-- **A way down behind a path** is spelled by the path with the names behind it, if that is short
enough. -/
theorem find_foldl_join {s : Spot} (hreach : d.reach path = .ok s)
    (hnames : ∀ name ∈ names, IsName name) (hne : names ≠ []) :
    d.find (names.foldl Path.join path) = .ok t ↔
      Path.fits (names.foldl Path.join path) = true ∧ s.follow (names.map .down) = .ok t := by
  have hfollow : d.reach (names.foldl Path.join path) = s.follow (names.map .down) := by
    rw [d.reach_foldl_join hnames, hreach]
    rfl
  rw [← hfollow]
  constructor
  · intro h
    exact ⟨d.fits_of_find h, d.reach_of_find h⟩
  · rintro ⟨hfits, h⟩
    obtain ⟨front, last, rfl⟩ := List.eq_nil_or_concat names |>.resolve_left hne
    rw [List.concat_eq_append, List.foldl_append] at hfits h ⊢
    have hlast : IsName last := hnames last (by simp)
    exact (d.find_join hlast hfits).trans h

end Disk

namespace Found

variable {d : Disk} {f : Found} {s t : Spot} {path name : String}

/-- **A path with what is there**, and the place of it. A search keeps the first two, and where it
looks further is told by the third. -/
structure Stands (d : Disk) (f : Found) (s : Spot) : Prop where
  leads : d.find f.path = .ok s
  entry_eq : f.entry = s.here

theorem at?_eq_some (h : d.find path = .ok s) : at? d path = some ⟨path, s.here⟩ := by
  rw [at?, Disk.entry, h]
  rfl

/-! ## One part further -/

/-- The path that another part is put behind: that of the working directory is left out. -/
def base (f : Found) : String := if Path.same f.path "." then "" else f.path

theorem pathOf_eq (hslash : '/' ∉ name.toList) (f : Found) :
    f.pathOf name = Path.join f.base name := by
  rw [pathOf, base]
  by_cases hhere : Path.same f.path "." = true
  · rw [if_pos hhere, if_pos hhere, Disk.join_relative hslash]
    exact (if_pos rfl).symm
  · rw [if_neg hhere, if_neg hhere]

/-- Leaving out the working directory makes no difference to where a path leads. That is why a
search may leave it out of the paths it gives. -/
theorem reach_base (d : Disk) (f : Found) : d.reach f.base = d.reach f.path := by
  rw [base]
  split
  · rename_i hhere
    obtain ⟨habsolute, -, hmoves⟩ := Path.same_iff.1 hhere
    exact (d.reach_congr (habsolute.trans (by decide)) (hmoves.trans (by decide))).symm
  · rfl

/-- **One part further** than what was found, if there is any text, and not too much. The path is
looked up anew for each part, and not only the part from where the search is. -/
theorem Stands.step (h : Stands d f s) (hslash : '/' ∉ name.toList) (hne : f.pathOf name ≠ "")
    (hfits : Path.fits (f.pathOf name) = true)
    (hstep : s.step (Step.ofPiece name.toList) = .ok t) :
    Stands d ⟨f.pathOf name, t.here⟩ t := by
  refine ⟨?_, rfl⟩
  rw [pathOf_eq hslash] at hne hfits
  change d.find (f.pathOf name) = _
  rw [pathOf_eq hslash, d.find_join_piece hslash hne hfits, reach_base, d.reach_of_find h.leads]
  exact hstep

/-! ## Everything below -/

/-- **What is below what was found**: all that is listed there, with its names behind the path. -/
theorem mem_descendants_iff (htree : f.entry.IsTree) {last : String} {g : Found} :
    (last, g) ∈ f.descendants ↔
      ∃ names, names.getLast? = some last ∧ (names, g.entry) ∈ f.entry.contents ∧
        g.path = names.foldl Path.join f.base := by
  -- the first name is put behind the path in the way that other parts are
  have hpath {names : List String} {name : String} {more : List String} {e : Entry}
      (hnames : names = name :: more) (hmem : (names, e) ∈ f.entry.contents) :
      more.foldl Path.join (f.pathOf name) = names.foldl Path.join f.base := by
    subst hnames
    have hname := htree.isName_of_mem_contents hmem name (List.mem_cons_self ..)
    rw [List.foldl_cons, pathOf_eq hname.no_slash]
  have hend (name : String) (more : List String) :
      (name :: more).getLast? = some ((name :: more).getLastD name) := by
    rw [List.getLast?_cons, List.getLastD_cons, List.getLastD_eq_getLast?]
  rw [descendants, List.mem_filterMap]
  constructor
  · rintro ⟨⟨names, e⟩, hmem, hlast⟩
    cases names with
    | nil => cases hlast
    | cons name more =>
      obtain ⟨rfl, rfl⟩ := Prod.mk.inj (Option.some.inj hlast)
      exact ⟨name :: more, hend name more, hmem, hpath rfl hmem⟩
  · rintro ⟨names, hlast, hmem, hg⟩
    cases names with
    | nil => cases hlast
    | cons name more =>
      rw [hend, Option.some_inj] at hlast
      refine ⟨(name :: more, g.entry), hmem, congrArg some (Prod.ext hlast ?_)⟩
      dsimp only
      rw [hpath rfl hmem, ← hg]

end Found

end DocLint.Files
