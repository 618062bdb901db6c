import DocLint.Proofs.Configuration.Nearest
import Mathlib.Data.List.Infix

/-!
# Configurations from around a directory

The way up from a directory is cut off the text of its path, and a configuration on it is looked up
where that text leads. A name that is cut off has led down, so as long as only names are cut off the
search goes from a directory to those it is in, and the place of the directory decides what it comes
to. Two dots that are cut off have led up: the path without them is below the directory, and what
the search finds there is not around it.

A path that is so long that no configuration can be looked up behind it is no longer on the way up,
where each path is shorter than the one before. So whether a path is short enough is asked once, of
the directory itself.

* `Path.findSome?_ancestors` — the way up, told by the steps of the path;
* `Config.outcome` — what a search comes to, wherever it ends;
* `Config.comes_from_around` — without two dots, the configuration is around the directory and all
  spellings of the path agree on it;
* `Config.dots_lead_below` — with two dots, neither holds.
-/

namespace DocLint

open Files

namespace Files

/-! ## The way up by steps -/

/-- **The way up by steps**: a search on the way up for something that the steps decide tries the
steps of the path, and then takes the last of them away time and again. -/
theorem Path.findSome?_ancestors {α : Type} {f : String → Option α} {g : List Step → Option α}
    {path : String} (hf : ∀ p ∈ ancestors path, f p = g (moves p)) :
    (ancestors path).findSome? f =
      (moves path).reverse.tails.findSome? fun steps => g steps.reverse := by
  have hway := ascends path
  generalize ancestors path = above at hway hf
  induction hway with
  | @top p hp =>
    have hmoves : moves p = [] := by
      rw [moves, components_of_parent?_eq_none hp]
      split <;> rfl
    rw [List.findSome?_singleton, hf p (List.mem_singleton_self p), hmoves]
    exact (List.findSome?_singleton ..).symm
  | @up p q above hp _ ih =>
    obtain ⟨-, c, -, hlast⟩ := components_of_parent? hp
    obtain ⟨hfp, hf⟩ := List.forall_mem_cons.1 hf
    have hmoves : moves p = moves q ++ c.step?.toList := by
      rw [moves, hlast, List.filterMap_append, ← moves]
      cases c <;> rfl
    rw [List.findSome?_cons, hfp, ih hf]
    cases hstep : c.step? with
    | some next =>
      rw [hstep, Option.toList_some] at hmoves
      rw [hmoves, List.reverse_concat, List.tails_cons, List.findSome?_cons, List.reverse_cons,
        List.reverse_reverse]
    | none =>
      -- a dot was taken away, and the same steps are tried once more
      rw [hstep, Option.toList_none, List.append_nil] at hmoves
      obtain ⟨rest, hrest⟩ :
          ∃ rest, (moves q).reverse.tails = (moves q).reverse :: rest := by
        cases (moves q).reverse <;> exact ⟨_, rfl⟩
      rw [hmoves, hrest, List.findSome?_cons, List.reverse_reverse]
      cases g (moves q) <;> rfl

/-- What can be looked at under a name where some steps lead. There is no path in it, so that two
spellings of one way need not be compared. -/
def Disk.seenAfter (start : Except Fault Spot) (name : String) (steps : List Step) : Option Entry :=
  ((start.bind fun s => s.follow steps).toOption.bind fun s => s.here.child? name).filter
    fun e => !e.isSealed

/-- What is seen from a directory is told by its steps, if its path is short enough. -/
theorem Disk.sees_eq_seenAfter (d : Disk) {path name : String}
    (hfits : Path.fits (Path.join path name) = true) :
    d.sees path name = seenAfter (d.start path) name (Path.moves path) := by
  rw [sees, if_pos hfits, holds, reach, seenAfter]

end Files

namespace Config

variable {d : Disk} {directory : String}

/-! ## Where the configuration is -/

/-- A configuration that is found is seen from some path on the way up. It is loaded from there, and
what is seen further up plays no part. -/
theorem exists_of_find {path : String} {c : Config}
    (h : find d directory = .ok (some (path, c))) :
    load d path = .ok c ∧
      ∃ above e, above ∈ Path.ancestors directory ∧ path = Path.join above fileName ∧
        d.sees above fileName = some e := by
  rw [find] at h
  split at h
  · cases h
  · rename_i found hfound
    split at h
    · cases h
    · rename_i settings hload
      obtain ⟨rfl, rfl⟩ := Prod.mk.inj (Option.some.inj (Except.ok.inj h))
      obtain ⟨above, habove, rfl⟩ := List.mem_map.1 (List.mem_of_find?_eq_some hfound)
      have hleads := List.find?_some hfound
      rw [d.leads_join isName_fileName, Option.isSome_iff_exists] at hleads
      obtain ⟨e, he⟩ := hleads
      exact ⟨hload, above, e, habove, rfl, he⟩

/-- **Only names cut off**: what is left of a path leads to the same place or to one around it. -/
theorem names_prefix_of_reach {above : String} {rest : List Component} {r s : Spot}
    (habsolute : Path.isAbsolute above = Path.isAbsolute directory)
    (hcut : Path.components directory = Path.components above ++ rest)
    (hup : Component.up ∉ rest) (hr : d.reach above = .ok r) (hs : d.reach directory = .ok s) :
    r.names <+: s.names := by
  obtain ⟨names, hnames⟩ := Component.exists_names hup
  have hmoves : Path.moves directory = Path.moves above ++ names.map .down := by
    rw [Path.moves, hcut, List.filterMap_append, hnames, Path.moves]
  obtain ⟨start, hr, hs⟩ := d.exists_start habsolute hr hs
  rw [hmoves, Spot.follow_append, hr] at hs
  exact ⟨names, (Spot.names_of_follow hs).symm⟩

/-! ## What a search comes to

An error says by which path a configuration was found, so that searches along two spellings of a
path end in different ones. What they come to is compared without the path. -/

/-- What a search comes to, wherever it ends: the settings that govern the directory, if any, or
what is wrong with them. -/
def outcome (d : Disk) (directory : String) : Except (Fault ⊕ ConfigFault) (Option Config) :=
  ((find d directory).map fun found => found.map Prod.snd).mapError ConfigError.cause

/-- What the settings in an entry come to, wherever it is: the error that loading it may end in is
told without the path. -/
def settled (e : Entry) : Except (Fault ⊕ ConfigFault) (Option Config) :=
  ((ofEntry fileName e).map some).mapError ConfigError.cause

/-- One round of a search, without the path of what it finds: the settings that are seen here, or
what a search from the path above comes to. -/
theorem outcome_round (d : Disk) (directory : String) :
    outcome d directory =
      match d.sees directory fileName with
      | some e => settled e
      | none => (Path.parent? directory).elim (.ok none) (outcome d) := by
  rw [outcome, find_eq]
  cases d.sees directory fileName with
  | some e =>
    dsimp only
    rw [settled, ofEntry_about _ fileName]
    cases ofEntry fileName e with
    | ok c => rfl
    | error error => exact congrArg Except.error (error.cause_about _)
  | none => cases Path.parent? directory <;> rfl

/-- **What a search comes to** is told by the first configuration that is seen on the way up. -/
theorem outcome_eq (d : Disk) (directory : String) :
    outcome d directory =
      ((Path.ancestors directory).findSome? (d.sees · fileName)).elim (.ok none) settled := by
  have hway := Path.ascends directory
  generalize Path.ancestors directory = above at hway
  induction hway with
  | @top p hp =>
    rw [outcome_round, hp, List.findSome?_singleton]
    cases d.sees p fileName <;> rfl
  | @up p q above hp _ ih =>
    rw [outcome_round, hp, List.findSome?_cons]
    cases d.sees p fileName with
    | some e => rfl
    | none => exact ih

/-- **The steps of the path decide**, and where they start, if a configuration can be looked up in
the directory itself. -/
theorem outcome_congr {other : String}
    (habsolute : Path.isAbsolute other = Path.isAbsolute directory)
    (hmoves : Path.moves other = Path.moves directory)
    (hfits : Path.fits (Path.join directory fileName) = true)
    (hfits' : Path.fits (Path.join other fileName) = true) :
    outcome d other = outcome d directory := by
  have hfirst (path : String) (h : Path.isAbsolute path = Path.isAbsolute directory)
      (hshort : Path.fits (Path.join path fileName) = true) :
      (Path.ancestors path).findSome? (d.sees · fileName) =
        (Path.moves path).reverse.tails.findSome? fun steps =>
          Disk.seenAfter (d.start directory) fileName steps.reverse := by
    refine Path.findSome?_ancestors fun above habove => ?_
    have hway := Path.ascends path
    obtain ⟨hsort, -⟩ := hway.components_of_mem habove
    -- what is further up is not longer, so that it can be looked up as well
    have hle := Path.byteSize_front_of_mem hway habove
    rw [d.sees_eq_seenAfter (Path.fits_join isName_fileName.no_slash hle hshort),
      d.start_congr (hsort.trans h)]
  rw [outcome_eq, outcome_eq, hfirst other habsolute hfits', hfirst directory rfl hfits, hmoves]

/-- **Without two dots a configuration comes from around.** A configuration that is found for a
directory is in a file of that name where a path on the way up leads; if two dots are not among what
was cut off, that is in the directory itself or in one around it. And whichever way a path without
two dots spells the place of the directory, the search comes to the same, as long as a configuration
can be looked up behind the path. -/
theorem comes_from_around {s : Spot} (hfind : d.find directory = .ok s) :
    (∀ path c, find d directory = .ok (some (path, c)) →
      load d path = .ok c ∧
      ∃ above rest t outer, above ∈ Path.ancestors directory ∧
        Path.components directory = Path.components above ++ rest ∧
        path = Path.join above fileName ∧ d.find path = .ok t ∧ t.names = outer ++ [fileName] ∧
        (Component.up ∉ rest → outer <+: s.names)) ∧
    ∀ other t, Path.isAbsolute other = Path.isAbsolute directory → d.find other = .ok t →
      t.names = s.names → Component.up ∉ Path.components directory →
      Component.up ∉ Path.components other → Path.fits (Path.join directory fileName) = true →
      Path.fits (Path.join other fileName) = true → outcome d other = outcome d directory := by
  have hs := d.reach_of_find hfind
  constructor
  · intro path c h
    obtain ⟨hload, above, e, habove, rfl, he⟩ := exists_of_find h
    obtain ⟨habsolute, rest, hcut⟩ := (Path.ascends directory).components_of_mem habove
    obtain ⟨r, t, hr, ht, -, hnames⟩ := d.exists_of_sees isName_fileName he
    exact ⟨hload, above, rest, t, r.names, habove, hcut, rfl, ht, hnames, fun hup =>
      names_prefix_of_reach habsolute hcut hup hr hs⟩
  · intro other t habsolute ht hnames hup hup' hfits hfits'
    have hmoves := moves_eq_of_names_eq habsolute hs (d.reach_of_find ht) hnames hup hup'
    exact outcome_congr habsolute hmoves hfits hfits'

/-- A folder in another one, which has a configuration. The inner folder has none, and neither has
the working directory. -/
def nestedFolders : Disk where
  root := .directory
    [("a", .directory
        [(fileName, .file (Utf8.encode "rules.no-todo.enabled=false".toList)),
          ("b", .directory [])])]

/-- Both spellings of the inner folder lead to the configuration in the outer one. One of them has a
dot in the middle, the other at its start and an empty part behind it. -/
theorem nestedFolders_either_way :
    ∃ s c t outer, nestedFolders.find "a/./b" = .ok s ∧ s.names = ["a", "b"] ∧
      find nestedFolders "a/./b" = .ok (some ("a/.txtlint.toml", c)) ∧
      nestedFolders.find "a/.txtlint.toml" = .ok t ∧ t.names = outer ++ [fileName] ∧
      outer <+: s.names ∧
      outcome nestedFolders "./a//b/" = outcome nestedFolders "a/./b" := by
  have hup : Component.up ∉ Path.components "a/./b" := by decide
  have hup' : Component.up ∉ Path.components "./a//b/" := by decide
  obtain ⟨s, hs, hnames⟩ : ∃ s, nestedFolders.find "a/./b" = .ok s ∧ s.names = ["a", "b"] :=
    ⟨_, rfl, rfl⟩
  obtain ⟨t, ht, hnames'⟩ : ∃ t, nestedFolders.find "./a//b/" = .ok t ∧ t.names = ["a", "b"] :=
    ⟨_, rfl, rfl⟩
  obtain ⟨c, hfound⟩ : ∃ c, find nestedFolders "a/./b" = .ok (some ("a/.txtlint.toml", c)) := by
    have hfile : (find nestedFolders "a/./b").toOption.map (Option.map Prod.fst) =
        some (some "a/.txtlint.toml") := by decide +kernel
    generalize find nestedFolders "a/./b" = found at hfile ⊢
    rcases found with e | _ | ⟨path, c⟩
    · cases hfile
    · cases hfile
    · obtain rfl := Option.some.inj (Option.some.inj hfile)
      exact ⟨c, rfl⟩
  obtain ⟨hplace, hspelling⟩ := comes_from_around hs
  obtain ⟨-, above, rest, file, outer, -, hcut, -, hfile, hfileNames, houter⟩ := hplace _ c hfound
  rw [hcut, List.mem_append, not_or] at hup
  refine ⟨s, c, file, outer, hs, hnames, hfound, hfile, hfileNames, houter hup.2, ?_⟩
  exact hspelling "./a//b/" t rfl ht (hnames'.trans hnames.symm) (by decide) hup' (by decide)
    (by decide)

/-- **Two dots lead below.** The working directory, by a path that goes down and up again, is
governed by the configuration of the folder in between; by a dot, it is governed by none. -/
theorem dots_lead_below :
    nestedFolders.isDirectory "a/.." = true ∧
    (nestedFolders.find "a/..").toOption.map Spot.names = some [] ∧
    (find nestedFolders "a/..").toOption.map (Option.map Prod.fst) =
      some (some "a/.txtlint.toml") ∧
    (nestedFolders.find "a/.txtlint.toml").toOption.map Spot.names = some (["a"] ++ [fileName]) ∧
    ¬ ["a"] <+: ([] : List String) ∧
    (nestedFolders.find ".").toOption.map Spot.names = some [] ∧
    (outcome nestedFolders ".").toOption = some none ∧
    (outcome nestedFolders "a/..").toOption ≠ some none := by
  decide +kernel

end Config

end DocLint
