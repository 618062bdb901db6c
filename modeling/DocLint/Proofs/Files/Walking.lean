import DocLint.Files.Disk
import DocLint.Proofs.Files.Ancestors
import Mathlib.Data.List.Basic

/-!
# Where paths lead

A path is followed part by part. The parts that stand for no component change nothing as long as
something follows them, so what a directory holds under a name depends on the components of the path
of the directory only. A path that names only names leads down all the way, and the places it leads
to are in each other, as the paths above it are cut off the end of its text.

* `Path.moves` — the steps that the components of a path stand for;
* `Spot.follow_append`, `Spot.follow_filter` — following two paths in a row, and leaving out steps to
  where one is;
* `Spot.names_of_follow` — a way down is added to the names of the place where it starts;
* `Disk.reach`, `Disk.holds` — the place of a directory, and what is there under a name;
* `Disk.sees`, `Disk.Hides` — what of that can be looked at, and what is there but cannot;
* `Disk.find_join_eq_ok_iff`, `Disk.entry_join_eq_ok_iff` — this is where the path of the directory
  with the name behind it leads, and what is there;
* `moves_eq_of_names_eq` — without two dots, the place a path leads to tells its steps;
* `Path.same_iff` — the steps of a path, and how it starts, tell its components.
-/

namespace DocLint.Files

/-- The step that a component stands for behind the start of a path. The root and the dot at a start
are where one is already. -/
def Component.step? : Component → Option Step
  | .root | .here => none
  | .up => some .up
  | .name s => some (.down s)

/-- The component that a step is taken for. None is, to stay where one is. -/
def Step.component? : Step → Option Component
  | .stay => none
  | .up => some .up
  | .down s => some (.name s)

/-- The steps that the components of a path stand for. -/
def Path.moves (path : String) : List Step := (components path).filterMap Component.step?

/-- Whether a step leads elsewhere, or says to stay. -/
def Step.leaves (s : Step) : Bool := s != .stay

theorem Step.filter_map_ofPiece (pieces : List (List Char)) :
    (pieces.map ofPiece).filter leaves =
      (pieces.filterMap Path.componentOf?).filterMap Component.step? := by
  induction pieces with
  | nil => rfl
  | cons piece pieces ih =>
    by_cases hstay : piece = [] ∨ piece = ['.']
    · have hpiece : ofPiece piece = .stay := if_pos hstay
      have hnone : Path.componentOf? piece = none := if_pos hstay
      rw [List.map_cons, hpiece, List.filterMap_cons_none hnone, ← ih]
      rfl
    · by_cases hup : piece = ['.', '.']
      · rw [List.map_cons, hup]
        exact congrArg (Step.up :: ·) ih
      · have hpiece : ofPiece piece = .down (String.ofList piece) := by
          rw [ofPiece, if_neg hstay, if_neg hup]
        have hsome : Path.componentOf? piece = some (.name (String.ofList piece)) := by
          rw [Path.componentOf?, if_neg hstay, if_neg hup]
        rw [List.map_cons, hpiece, List.filterMap_cons_some hsome]
        exact congrArg (Step.down (String.ofList piece) :: ·) ih

/-- What a path starts with is no step. So the steps are those of its parts, be it absolute or
relative. -/
theorem Path.moves_eq (path : String) :
    moves path = (parts path.toList).filterMap Component.step? := by
  have hlead : (lead (isAbsolute path) path.toList).filterMap Component.step? = [] := by
    rw [lead]
    split
    · rfl
    · split <;> rfl
  rw [moves, components_eq, List.filterMap_append, hlead, List.nil_append]

/-- **The steps of a path** are those of its components, and steps to where one is. -/
theorem Disk.filter_steps (path : String) :
    (steps path).filter Step.leaves = Path.moves path := by
  rw [Path.moves_eq]
  exact Step.filter_map_ofPiece _

namespace Spot

/-- Following two ways in a row: the second one starts where the first has ended, and there is no
second one if the first cannot be followed. -/
theorem follow_append (s : Spot) (a b : List Step) :
    s.follow (a ++ b) = (s.follow a).bind fun t => t.follow b := by
  induction a generalizing s with
  | nil => rfl
  | cons next a ih =>
    rw [List.cons_append, follow, follow]
    cases s.step next with
    | error f => rfl
    | ok t => exact ih t

theorem follow_singleton (s : Spot) (next : Step) : s.follow [next] = s.step next := by
  rw [follow]
  cases s.step next <;> rfl

/-- Ways that lead to the same place from everywhere do so behind one more step. So ways can be
compared from their ends on, and not only as a whole. -/
theorem follow_cons_congr {a b : List Step} (h : ∀ t : Spot, t.follow a = t.follow b) {s : Spot}
    {next : Step} : s.follow (next :: a) = s.follow (next :: b) := by
  rw [follow, follow]
  cases s.step next with
  | error f => rfl
  | ok t => exact h t

theorem eq_of_step_stay {s t : Spot} (h : s.step .stay = .ok t) : t = s := by
  obtain ⟨here, above⟩ := s
  cases here with
  | directory entries => exact (Except.ok.inj h).symm
  | _ => cases h

/-- What a way starts from is a directory, so that one can stay there. This is why leaving out such
steps makes no file a directory. -/
theorem step_stay_of_follow {s t : Spot} {next : Step} {steps : List Step}
    (h : s.follow (next :: steps) = .ok t) : s.step .stay = .ok s := by
  obtain ⟨here, above⟩ := s
  cases here with
  | directory entries => rfl
  | _ => cases h

/-- A step to where one is makes no difference to the steps behind it. It only asks whether one is
in a directory, and so does the next step. -/
theorem follow_stay (s : Spot) (next : Step) (steps : List Step) :
    s.follow (.stay :: next :: steps) = s.follow (next :: steps) := by
  obtain ⟨here, above⟩ := s
  cases here <;> rfl

/-- Steps to where one is may be left out if a step follows them. At the end they may not: a file
with a slash behind it is none. -/
theorem follow_filter (s : Spot) (steps : List Step) (last : Step) :
    s.follow (steps ++ [last]) = s.follow (steps.filter Step.leaves ++ [last]) := by
  induction steps generalizing s with
  | nil => rfl
  | cons next steps ih =>
    cases next with
    | stay =>
      rw [List.filter_cons_of_neg (by decide), ← ih, List.cons_append]
      cases hrest : steps ++ [last] with
      | nil => exact absurd hrest (List.append_ne_nil_of_right_ne_nil _ (List.cons_ne_nil _ _))
      | cons other rest => exact follow_stay s other rest
    | up => exact follow_cons_congr ih
    | down name => exact follow_cons_congr ih

/-- What is reached with steps to where one is is reached without them. The other way round it holds
for directories only. -/
theorem follow_filter_of_ok {s t : Spot} {steps : List Step} (h : s.follow steps = .ok t) :
    s.follow (steps.filter Step.leaves) = .ok t := by
  induction steps generalizing s with
  | nil => exact h
  | cons next steps ih =>
    rw [follow] at h
    split at h
    · rename_i u hu
      cases next with
      | stay =>
        obtain rfl := eq_of_step_stay hu
        exact ih h
      | up =>
        change s.follow (.up :: steps.filter Step.leaves) = _
        rw [follow, hu]
        exact ih h
      | down name =>
        change s.follow (.down name :: steps.filter Step.leaves) = _
        rw [follow, hu]
        exact ih h
    · cases h

/-- One step down goes to what the directory holds under the name, unless that is sealed. It is kept
in mind what the step was taken from, for the way back up. -/
theorem step_down_eq_ok_iff {s t : Spot} {name : String} :
    s.step (.down name) = .ok t ↔
      ∃ e, s.here.child? name = some e ∧ e.isSealed = false ∧
        t = ⟨e, (name, s.here) :: s.above⟩ := by
  obtain ⟨here, above⟩ := s
  cases here with
  | directory entries =>
    rw [step]
    cases (Entry.directory entries).child? name with
    | none =>
      constructor
      · intro h
        cases h
      · rintro ⟨e, he, -⟩
        cases he
    | some e =>
      cases e with
      | sealed fault =>
        constructor
        · intro h
          cases h
        · rintro ⟨e, he, hopen, -⟩
          cases he
          cases hopen
      | _ =>
        constructor
        · intro h
          exact ⟨_, rfl, rfl, (Except.ok.inj h).symm⟩
        · rintro ⟨e, he, -, ht⟩
          cases he
          rw [ht]
  | _ =>
    -- there is no step from what is no directory, and nothing in it
    constructor
    · intro h
      cases h
    · rintro ⟨e, he, -⟩
      cases he

/-- **A way down** adds its names to those of the place where it starts. The names of a place tell
the way to it from the root, whatever path led there. -/
theorem names_of_follow {s t : Spot} {names : List String}
    (h : s.follow (names.map .down) = .ok t) : t.names = s.names ++ names := by
  induction names generalizing s with
  | nil =>
    obtain rfl := Except.ok.inj h
    exact (List.append_nil _).symm
  | cons name names ih =>
    rw [List.map_cons, follow] at h
    split at h
    · rename_i u hu
      obtain ⟨e, -, -, rfl⟩ := step_down_eq_ok_iff.1 hu
      rw [ih h, Spot.names, Spot.names, List.map_cons, List.reverse_cons, List.append_assoc]
      rfl
    · cases h

end Spot

namespace Disk

variable (d : Disk)

/-- The place that the components of a path lead to. The empty path stands for the working directory
here. -/
def reach (path : String) : Except Fault Spot :=
  (d.start path).bind fun s => s.follow (Path.moves path)

/-- What is in the directory of a path under a name, be it such that it can be looked at or not. -/
def holds (path name : String) : Option Entry :=
  (d.reach path).toOption.bind fun s => s.here.child? name

/-- What is seen in the directory of a path under a name, by the path with the name behind it: what
the directory holds there, if that can be looked at and the path is not too long. -/
def sees (path name : String) : Option Entry :=
  if Path.fits (Path.join path name) then (d.holds path name).filter fun e => !e.isSealed else none

/-- The directory of a path holds something under a name that is not seen there. It is sealed, or
the path of it is too long. -/
def Hides (path name : String) : Prop :=
  ∃ e, d.holds path name = some e ∧
    (e.isSealed = true ∨ Path.fits (Path.join path name) = false)

/-- Paths that are both absolute or both relative start at the same place: at the root, or at the
working directory. -/
theorem start_congr {p q : String} (h : Path.isAbsolute p = Path.isAbsolute q) :
    d.start p = d.start q := by
  rw [start, start, h]

/-- **The steps of a path decide** where it leads, and where they start. Spellings that differ in
dots and slashes only lead to one place. -/
theorem reach_congr {p q : String} (habsolute : Path.isAbsolute p = Path.isAbsolute q)
    (hmoves : Path.moves p = Path.moves q) : d.reach p = d.reach q := by
  rw [reach, reach, d.start_congr habsolute, hmoves]

theorem reach_eq_ok_iff {path : String} {s : Spot} :
    d.reach path = .ok s ↔
      ∃ start, d.start path = .ok start ∧ start.follow (Path.moves path) = .ok s := by
  rw [reach]
  cases d.start path with
  | error f => exact ⟨nofun, nofun⟩
  | ok start => exact ⟨fun h => ⟨start, rfl, h⟩, fun ⟨_, hstart, h⟩ => Except.ok.inj hstart ▸ h⟩

/-- Paths of one sort are followed from one place, so that it is enough to compare their steps. -/
theorem exists_start {p q : String} {s t : Spot}
    (habsolute : Path.isAbsolute p = Path.isAbsolute q) (hp : d.reach p = .ok s)
    (hq : d.reach q = .ok t) :
    ∃ start : Spot, start.follow (Path.moves p) = .ok s ∧ start.follow (Path.moves q) = .ok t := by
  obtain ⟨start, hstart, hp⟩ := d.reach_eq_ok_iff.1 hp
  obtain ⟨start', hstart', hq⟩ := d.reach_eq_ok_iff.1 hq
  rw [d.start_congr habsolute, hstart'] at hstart
  obtain rfl := Except.ok.inj hstart
  exact ⟨start', hp, hq⟩

theorem refusal?_eq_none_iff {path : String} :
    refusal? path = none ↔ path ≠ "" ∧ Path.fits path = true := by
  rw [refusal?, ne_eq, ← String.isEmpty_iff]
  cases path.isEmpty <;> cases Path.fits path <;> simp

/-- **Where a path leads**: it has some text, but not too much, and its steps can be taken from
where it starts. -/
theorem find_eq_ok_iff {path : String} {s : Spot} :
    d.find path = .ok s ↔ path ≠ "" ∧ Path.fits path = true ∧
      ∃ start, d.start path = .ok start ∧ start.follow (steps path) = .ok s := by
  rw [← and_assoc, ← refusal?_eq_none_iff, find]
  cases refusal? path with
  | some fault => exact ⟨nofun, fun h => nomatch h.1⟩
  | none =>
    rw [eq_self_iff_true, true_and]
    cases d.start path with
    | error f => exact ⟨nofun, nofun⟩
    | ok start => exact ⟨fun h => ⟨start, rfl, h⟩, fun ⟨_, hstart, h⟩ => Except.ok.inj hstart ▸ h⟩

theorem ne_empty_of_find {path : String} {s : Spot} (h : d.find path = .ok s) : path ≠ "" :=
  (d.find_eq_ok_iff.1 h).1

theorem fits_of_find {path : String} {s : Spot} (h : d.find path = .ok s) : Path.fits path = true :=
  (d.find_eq_ok_iff.1 h).2.1

/-- A path that leads somewhere leads where its components do. The converse needs the path to be
short enough, and its last part to stand for a component. -/
theorem reach_of_find {path : String} {s : Spot} (h : d.find path = .ok s) :
    d.reach path = .ok s := by
  obtain ⟨-, -, start, hstart, hfollow⟩ := d.find_eq_ok_iff.1 h
  refine d.reach_eq_ok_iff.2 ⟨start, hstart, ?_⟩
  rw [← filter_steps]
  exact Spot.follow_filter_of_ok hfollow

/-! ## A part behind a path

The part is put behind a slash, which is there already or is added. What is in front of the slash
has the components of the path, so that the part is one step more, whatever the path ends with. -/

section join

variable {piece : String}

theorem join_relative (hslash : '/' ∉ piece.toList) (path : String) :
    Path.join path piece =
      if path.toList = [] then piece
      else if path.toList.getLast? = some '/' then path ++ piece else path ++ "/" ++ piece := by
  rw [Path.join, Path.isAbsolute_eq_false hslash]
  rfl

/-- The text of a path with a part behind it. What comes before the last slash stands for the same
components as the path. -/
theorem toList_join (hslash : '/' ∉ piece.toList) {path : String} (hne : path.toList ≠ []) :
    ∃ front, (Path.join path piece).toList = front ++ '/' :: piece.toList ∧
      Path.parts front = Path.parts path.toList ∧
      Path.firstPart front = Path.firstPart path.toList ∧
      (Path.join path piece).toList.head? = path.toList.head? := by
  have hhead (tail : List Char) : (path.toList ++ tail).head? = path.toList.head? := by
    obtain ⟨c, cs, hcs⟩ := List.exists_cons_of_ne_nil hne
    rw [hcs]
    rfl
  rw [join_relative hslash, if_neg hne]
  split
  · rename_i hlast
    obtain ⟨front, hfront⟩ := List.getLast?_eq_some_iff.1 hlast
    refine ⟨front, ?_, ?_, ?_, ?_⟩
    · rw [String.toList_append, hfront, List.append_assoc]
      rfl
    · rw [hfront, Path.parts_append_slash]
    · rw [hfront, Path.firstPart_append_cons]
    · rw [String.toList_append, hhead]
  · refine ⟨path.toList, ?_, rfl, rfl, ?_⟩
    · rw [String.toList_append, String.toList_append, List.append_assoc]
      rfl
    · rw [String.toList_append, String.toList_append, List.append_assoc, hhead]

theorem join_ne_empty (hslash : '/' ∉ piece.toList) {path : String} (hne : path.toList ≠ []) :
    Path.join path piece ≠ "" := by
  intro hempty
  obtain ⟨front, htext, -, -, -⟩ := toList_join hslash hne
  rw [hempty] at htext
  exact absurd htext.symm (List.append_ne_nil_of_right_ne_nil _ (List.cons_ne_nil _ _))

theorem isAbsolute_join (hslash : '/' ∉ piece.toList) (path : String) :
    Path.isAbsolute (Path.join path piece) = Path.isAbsolute path := by
  by_cases hne : path.toList = []
  · rw [join_relative hslash, if_pos hne, Path.isAbsolute_eq_false hslash, Path.isAbsolute, hne]
    rfl
  · obtain ⟨front, -, -, -, hhead⟩ := toList_join hslash hne
    rw [Path.isAbsolute, Path.isAbsolute, hhead]

/-- A part behind a path stands for one more component, or for none if it is empty or a dot. -/
theorem components_join (hslash : '/' ∉ piece.toList) {path : String} (hne : path.toList ≠ []) :
    Path.components (Path.join path piece) =
      Path.components path ++ (Path.componentOf? piece.toList).toList := by
  obtain ⟨front, htext, hparts, hfirst, -⟩ := toList_join hslash hne
  rw [Path.components_eq, Path.components_eq, isAbsolute_join hslash, htext,
    Path.parts_append_cons, hparts, Path.parts_of_not_mem hslash, Path.lead, Path.lead,
    Path.firstPart_append_cons, hfirst, List.append_assoc]

/-- The last of the steps of a path with a part behind it is the step of the part. -/
theorem steps_join (hslash : '/' ∉ piece.toList) (path : String) :
    ∃ front, steps (Path.join path piece) = front ++ [Step.ofPiece piece.toList] ∧
      front.filter Step.leaves = Path.moves path := by
  have hone : (Text.pieces '/' piece.toList).map Step.ofPiece = [Step.ofPiece piece.toList] := by
    rw [Text.pieces_of_not_mem hslash, List.map_singleton]
  by_cases hne : path.toList = []
  · refine ⟨[], ?_, ?_⟩
    · rw [join_relative hslash, if_pos hne, steps, hone]
      rfl
    · rw [Path.moves_eq, hne]
      rfl
  · obtain ⟨front, htext, hparts, -, -⟩ := toList_join hslash hne
    refine ⟨(Text.pieces '/' front).map Step.ofPiece, ?_, ?_⟩
    · rw [steps, htext, Text.pieces_append_cons, List.map_append, hone]
    · rw [Step.filter_map_ofPiece, Path.moves_eq, ← hparts]
      rfl

/-- **A path with a part behind it** leads from the place of the path where the part leads, if it is
not too long. -/
theorem find_join_piece (hslash : '/' ∉ piece.toList) {path : String}
    (hne : Path.join path piece ≠ "") (hfits : Path.fits (Path.join path piece) = true) :
    d.find (Path.join path piece) =
      (d.reach path).bind fun s => s.step (Step.ofPiece piece.toList) := by
  obtain ⟨front, hsteps, hfront⟩ := steps_join hslash path
  have hrefusal : refusal? (Path.join path piece) = none := refusal?_eq_none_iff.2 ⟨hne, hfits⟩
  rw [find, hrefusal, d.start_congr (isAbsolute_join hslash path), reach, hsteps]
  cases d.start path with
  | error f => rfl
  | ok s =>
    change s.follow (front ++ [_]) = (s.follow (Path.moves path)).bind _
    rw [Spot.follow_filter, hfront, Spot.follow_append]
    simp only [Spot.follow_singleton]

end join

/-! ## A name behind a path

What is in a directory can be asked for by a path, but not all of it is seen like this. The path
must be short enough, and the entry one that can be looked at. -/

/-- A text that is a name: it has no slash, and stands for no other component. -/
structure IsName (name : String) : Prop where
  no_slash : '/' ∉ name.toList
  down : Step.ofPiece name.toList = .down name

variable {name : String}

namespace IsName

theorem ne_empty (hname : IsName name) : name ≠ "" := by
  rintro rfl
  cases hname.down

/-- The component that a name stands for is the name, as it is none of those that are spelled by
dots. -/
theorem componentOf?_eq (hname : IsName name) :
    Path.componentOf? name.toList = some (.name name) := by
  have hstay : ¬ (name.toList = [] ∨ name.toList = ['.']) := fun h => by
    have hdown := hname.down
    rw [Step.ofPiece, if_pos h] at hdown
    cases hdown
  have hup : name.toList ≠ ['.', '.'] := fun h => by
    have hdown := hname.down
    rw [Step.ofPiece, if_neg hstay, if_pos h] at hdown
    cases hdown
  rw [Path.componentOf?, if_neg hstay, if_neg hup, String.ofList_toList]

theorem join_ne_empty (hname : IsName name) (path : String) : Path.join path name ≠ "" := by
  by_cases hne : path.toList = []
  · rw [join_relative hname.no_slash, if_pos hne]
    exact hname.ne_empty
  · exact Disk.join_ne_empty hname.no_slash hne

end IsName

theorem holds_eq_some_iff {path : String} {e : Entry} :
    d.holds path name = some e ↔ ∃ r, d.reach path = .ok r ∧ r.here.child? name = some e := by
  rw [holds]
  cases d.reach path with
  | error f => exact ⟨nofun, nofun⟩
  | ok r => exact ⟨fun h => ⟨r, rfl, h⟩, fun ⟨_, hr, h⟩ => Except.ok.inj hr ▸ h⟩

/-- **What is seen is what is held**, unless the directory hides it: what is sealed cannot be looked
at, and neither can anything by a path that is too long. -/
theorem sees_eq_some_iff {path : String} {e : Entry} :
    d.sees path name = some e ↔
      d.holds path name = some e ∧ e.isSealed = false ∧ Path.fits (Path.join path name) = true := by
  rw [sees]
  cases Path.fits (Path.join path name) with
  | false => simp
  | true => simp [Option.filter_eq_some_iff]

theorem sees_eq_none_iff {path : String} :
    d.sees path name = none ↔ d.holds path name = none ∨ d.Hides path name := by
  rw [sees, Hides]
  cases d.holds path name with
  | none => simp
  | some e => cases Path.fits (Path.join path name) <;> simp [Option.filter_eq_none_iff]

/-- **A path with a name behind it** leads one name further down than the path, to what is seen there
from the directory of the path. -/
theorem find_join_eq_ok_iff (hname : IsName name) {path : String} {t : Spot} :
    d.find (Path.join path name) = .ok t ↔
      d.sees path name = some t.here ∧
        ∃ r, d.reach path = .ok r ∧ t.above = (name, r.here) :: r.above := by
  rw [sees_eq_some_iff, holds_eq_some_iff]
  cases hfits : Path.fits (Path.join path name) with
  | false =>
    refine ⟨fun h => ?_, fun h => absurd h.1.2.2 Bool.false_ne_true⟩
    rw [d.fits_of_find h] at hfits
    cases hfits
  | true =>
    -- the last step goes from the place of the path to what is there under the name
    rw [find_join_piece d hname.no_slash (hname.join_ne_empty path) hfits, hname.down]
    cases d.reach path with
    | error f => exact ⟨nofun, nofun⟩
    | ok r =>
      change r.step (.down name) = .ok t ↔ _
      rw [Spot.step_down_eq_ok_iff]
      constructor
      · rintro ⟨e, he, hopen, rfl⟩
        exact ⟨⟨⟨r, rfl, he⟩, hopen, rfl⟩, r, rfl, rfl⟩
      · rintro ⟨⟨⟨r', hr', he⟩, hopen, -⟩, r'', hr'', habove⟩
        obtain rfl := Except.ok.inj hr'
        obtain rfl := Except.ok.inj hr''
        exact ⟨t.here, he, hopen, by rw [← habove]⟩

/-- What a directory sees is in it: the path with the name behind it leads to a place that is one
name below that of the path. -/
theorem exists_of_sees (hname : IsName name) {path : String} {e : Entry}
    (h : d.sees path name = some e) :
    ∃ r t, d.reach path = .ok r ∧ d.find (Path.join path name) = .ok t ∧ t.here = e ∧
      t.names = r.names ++ [name] := by
  obtain ⟨r, hr, -⟩ := d.holds_eq_some_iff.1 (d.sees_eq_some_iff.1 h).1
  refine ⟨r, ⟨e, (name, r.here) :: r.above⟩, hr,
    (d.find_join_eq_ok_iff hname).2 ⟨h, r, hr, rfl⟩, rfl, ?_⟩
  rw [Spot.names, Spot.names, List.map_cons, List.reverse_cons]

/-- **What is behind a path under a name** is what is seen there from the directory of the path. -/
theorem entry_join_eq_ok_iff (hname : IsName name) {path : String} {e : Entry} :
    d.entry (Path.join path name) = .ok e ↔ d.sees path name = some e := by
  rw [entry]
  constructor
  · intro h
    cases hfind : d.find (Path.join path name) with
    | error f =>
      rw [hfind] at h
      cases h
    | ok t =>
      rw [hfind] at h
      obtain rfl := Except.ok.inj h
      exact ((d.find_join_eq_ok_iff hname).1 hfind).1
  · intro h
    obtain ⟨r, t, -, hfind, rfl, -⟩ := d.exists_of_sees hname h
    rw [hfind]
    rfl

theorem leads_join (hname : IsName name) (path : String) :
    d.leads (Path.join path name) = (d.sees path name).isSome := by
  rw [leads]
  cases hentry : d.entry (Path.join path name) with
  | ok e =>
    rw [(entry_join_eq_ok_iff d hname).1 hentry]
    rfl
  | error f =>
    cases hsees : d.sees path name with
    | none => rfl
    | some e =>
      rw [(entry_join_eq_ok_iff d hname).2 hsees] at hentry
      cases hentry

end Disk

/-! ## Paths without two dots

Names lead down and no step leads up again. So all the names of the path are among those of the
place, and the place tells the steps. -/

theorem Component.exists_names {cs : List Component} (h : Component.up ∉ cs) :
    ∃ names : List String, cs.filterMap Component.step? = names.map .down := by
  induction cs with
  | nil => exact ⟨[], rfl⟩
  | cons c cs ih =>
    obtain ⟨names, hnames⟩ := ih fun hmem => h (List.mem_cons_of_mem _ hmem)
    cases c with
    | root => exact ⟨names, hnames⟩
    | here => exact ⟨names, hnames⟩
    | up => exact absurd (List.mem_cons_self ..) h
    | name s => exact ⟨s :: names, congrArg (Step.down s :: ·) hnames⟩

/-- Without two dots the steps of a path lead down by names, so that no step undoes another. -/
theorem Path.exists_moves {path : String} (h : Component.up ∉ components path) :
    ∃ names : List String, moves path = names.map .down := Component.exists_names h

/-- Without two dots, paths to the same place take the same steps. With them a way can go down and
up again, and the place does not tell that it did. -/
theorem moves_eq_of_names_eq {d : Disk} {directory other : String} {s t : Spot}
    (habsolute : Path.isAbsolute other = Path.isAbsolute directory)
    (hs : d.reach directory = .ok s) (ht : d.reach other = .ok t) (hnames : t.names = s.names)
    (hup : Component.up ∉ Path.components directory)
    (hup' : Component.up ∉ Path.components other) :
    Path.moves other = Path.moves directory := by
  obtain ⟨names, hmoves⟩ := Path.exists_moves hup
  obtain ⟨names', hmoves'⟩ := Path.exists_moves hup'
  obtain ⟨start, ht, hs⟩ := d.exists_start habsolute ht hs
  rw [hmoves] at hs
  rw [hmoves'] at ht
  have hdown : start.names ++ names' = start.names ++ names := by
    rw [← Spot.names_of_follow hs, ← Spot.names_of_follow ht, hnames]
  rw [hmoves, hmoves', List.append_cancel_left hdown]

/-! ## Paths with the same components -/

namespace Path

theorem not_mem_parts {c : Component} (h : c = .root ∨ c = .here) (cs : List Char) :
    c ∉ parts cs := by
  intro hc
  obtain ⟨piece, -, hpiece⟩ := List.mem_filterMap.1 hc
  rw [componentOf?] at hpiece
  split at hpiece
  · cases hpiece
  · split at hpiece <;> rcases h with rfl | rfl <;> cases hpiece

theorem isAbsolute_iff {p : String} : isAbsolute p = true ↔ Component.root ∈ components p := by
  rw [components_eq, lead, List.mem_append]
  have hparts := not_mem_parts (.inl rfl) p.toList
  cases isAbsolute p with
  | true => simp
  | false => by_cases hdot : firstPart p.toList = ['.'] <;> simp [hdot, hparts]

/-- The dot that a relative path starts with. It is the only dot that is a component, and an
absolute path has none. -/
theorem here_mem_components_iff {p : String} :
    Component.here ∈ components p ↔ isAbsolute p = false ∧ firstPart p.toList = ['.'] := by
  rw [components_eq, lead, List.mem_append]
  have hparts := not_mem_parts (.inr rfl) p.toList
  cases isAbsolute p with
  | true => simp [hparts]
  | false => by_cases hdot : firstPart p.toList = ['.'] <;> simp [hdot, hparts]

/-- **The steps of a path tell its components** behind what it starts with. Nothing of a part is
lost but whether it was spelled with dots or slashes around it. -/
theorem parts_eq_filterMap_moves (p : String) :
    parts p.toList = (moves p).filterMap Step.component? := by
  have hback : ∀ c ∈ parts p.toList, c.step?.bind Step.component? = some c := by
    intro c hc
    cases c with
    | root => exact absurd hc (not_mem_parts (.inl rfl) _)
    | here => exact absurd hc (not_mem_parts (.inr rfl) _)
    | up => rfl
    | name s => rfl
  rw [moves_eq, List.filterMap_filterMap, List.filterMap_congr hback, List.filterMap_some]

/-- **Paths with the same components** start alike and take the same steps. Dropping paths that came
before goes by nothing else. -/
theorem same_iff {p q : String} :
    same p q = true ↔ isAbsolute p = isAbsolute q ∧
      (Component.here ∈ components p ↔ Component.here ∈ components q) ∧ moves p = moves q := by
  rw [same, beq_iff_eq]
  constructor
  · intro h
    refine ⟨?_, by rw [h], by rw [moves, h, moves]⟩
    rw [Bool.eq_iff_iff, isAbsolute_iff, h, isAbsolute_iff]
  · rintro ⟨habsolute, hhere, hmoves⟩
    rw [here_mem_components_iff, here_mem_components_iff, habsolute] at hhere
    rw [components_eq, components_eq, parts_eq_filterMap_moves, hmoves, ← parts_eq_filterMap_moves,
      habsolute, lead, lead]
    cases hq : isAbsolute q with
    | true => rfl
    | false =>
      have hdot : firstPart p.toList = ['.'] ↔ firstPart q.toList = ['.'] := by
        simpa [hq] using hhere
      simp only [hdot]

end Path

end DocLint.Files
