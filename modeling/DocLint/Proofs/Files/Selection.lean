import DocLint.Proofs.Files.Below
import DocLint.Proofs.Files.Order
import Mathlib.Data.List.Nodup
import Mathlib.Data.List.Pairwise

/-!
# The files that are selected

Each argument stands for some paths, and the paths of all arguments are gone through in their order:
one that has the components of a path before it is dropped. So nothing an argument stands for gets
lost, and no path is selected twice. A file may be, as paths are compared and not the places they
lead to: from the root and from the working directory, with a dot at the start and without one, or
with two dots, one file has paths of different components. It is enough to write a dot in front of a
pattern and of a path, as a search leaves the dot out and the path keeps it.

* `sorted_filePaths` — the paths of what was found;
* `pairwise_dropRepeated`, `dropRepeated_append` — dropping paths that came before;
* `StandsFor`, `Fails` — what an argument stands for, and why it may fail;
* `of_expandArgument`, `selectFiles_append` — one argument, and arguments behind others;
* `IsSelection`, `selection_exact` — when files are selected, and which;
* `dotted_twice` — one file that is selected twice.
-/

namespace DocLint.Files

variable {d : Disk}

/-! ## The paths of what was found -/

/-- **The paths of what was found** come in their order, component by component, whatever the order
of the directories they were found in. -/
theorem sorted_filePaths (found : List Found) :
    (filePaths d found).Pairwise fun p q => Path.lt q p = false := by
  have htrans (p q r : String) (hpq : (!Path.lt q p) = true) (hqr : (!Path.lt r q) = true) :
      (!Path.lt r p) = true := by
    rw [Bool.not_eq_true'] at hpq hqr ⊢
    exact Path.not_lt_trans hpq hqr
  have htotal (p q : String) : (!Path.lt q p || !Path.lt p q) = true := by
    simpa using Path.not_lt_total p q
  exact (List.pairwise_mergeSort htrans htotal _).imp fun h => by simpa using h

theorem filePaths_eq_nil_iff {found : List Found} :
    filePaths d found = [] ↔ ∀ f ∈ found, d.isFile f.path = false := by
  simp only [List.eq_nil_iff_forall_not_mem, mem_filePaths_iff, not_and, Bool.not_eq_true]
  exact ⟨fun h f hf => h f.path ⟨f, hf, rfl⟩, fun h _ ⟨f, hf, hp⟩ => hp ▸ h f hf⟩

/-! ## Dropping paths that came before

What is kept depends on the components of what was seen, and on nothing else of it. So arguments can
be gone through each by itself, and what they come to be put together afterwards. -/

theorem dropRepeated_sublist (seen ps : List String) : (dropRepeated seen ps).Sublist ps := by
  induction ps generalizing seen with
  | nil => exact List.Sublist.refl _
  | cons p ps ih =>
    rw [dropRepeated]
    split
    · exact (ih seen).cons p
    · exact (ih (p :: seen)).cons_cons p

theorem mem_of_mem_dropRepeated {p : String} {seen ps : List String}
    (h : p ∈ dropRepeated seen ps) : p ∈ ps := (dropRepeated_sublist seen ps).subset h

/-- Nothing with the components of what was seen is left, whether it was seen from the start or on
the way. -/
theorem same_eq_false_of_mem_dropRepeated {p q : String} {seen ps : List String}
    (hp : p ∈ dropRepeated seen ps) (hq : q ∈ seen) : Path.same p q = false := by
  induction ps generalizing seen with
  | nil => cases hp
  | cons r ps ih =>
    rw [dropRepeated] at hp
    split at hp
    · exact ih hp hq
    · rename_i hr
      rcases List.mem_cons.1 hp with rfl | hp
      · rw [Bool.eq_false_iff]
        exact fun hsame => hr (List.any_eq_true.2 ⟨q, hq, hsame⟩)
      · exact ih hp (List.mem_cons_of_mem r hq)

/-- **No path is selected twice**, however it is spelled: what has the components of a path that was
seen is dropped, and every path that is kept is seen from then on. -/
theorem pairwise_dropRepeated (seen ps : List String) :
    (dropRepeated seen ps).Pairwise fun p q => Path.same p q = false := by
  induction ps generalizing seen with
  | nil => exact List.Pairwise.nil
  | cons p ps ih =>
    rw [dropRepeated]
    split
    · exact ih seen
    · refine List.pairwise_cons.2 ⟨fun q hq => ?_, ih (p :: seen)⟩
      rw [Path.same_comm]
      exact same_eq_false_of_mem_dropRepeated hq (List.mem_cons_self ..)

theorem nodup_dropRepeated (seen ps : List String) : (dropRepeated seen ps).Nodup := by
  refine (pairwise_dropRepeated seen ps).imp fun h => ?_
  rintro rfl
  rw [Path.same_self] at h
  cases h

theorem dropRepeated_cons (p : String) (ps : List String) :
    dropRepeated [] (p :: ps) = p :: dropRepeated [p] ps := rfl

/-- Something with the components of each path is left, or was seen before. So what is dropped has
been kept before under another spelling. -/
theorem exists_same_of_mem {p : String} (seen : List String) {ps : List String} (hp : p ∈ ps) :
    ∃ q, Path.same p q = true ∧ (q ∈ seen ∨ q ∈ dropRepeated seen ps) := by
  induction ps generalizing seen with
  | nil => cases hp
  | cons r ps ih =>
    rw [dropRepeated]
    rcases List.mem_cons.1 hp with rfl | hp
    · split
      · rename_i hseen
        obtain ⟨q, hq, hsame⟩ := List.any_eq_true.1 hseen
        exact ⟨q, hsame, .inl hq⟩
      · exact ⟨p, Path.same_self p, .inr (List.mem_cons_self ..)⟩
    · split
      · exact ih seen hp
      · obtain ⟨q, hsame, hq⟩ := ih (r :: seen) hp
        refine ⟨q, hsame, ?_⟩
        rcases hq with hq | hq
        · rcases List.mem_cons.1 hq with rfl | hq
          · exact .inr (List.mem_cons_self ..)
          · exact .inl hq
        · exact .inr (List.mem_cons_of_mem r hq)

/-- Only the components of what was seen make a difference, so that what was seen twice need be kept
in mind once only. -/
theorem dropRepeated_congr {seen seen' : List String}
    (h : ∀ p, seen.any (Path.same p) = seen'.any (Path.same p)) (ps : List String) :
    dropRepeated seen ps = dropRepeated seen' ps := by
  induction ps generalizing seen seen' with
  | nil => rfl
  | cons p ps ih =>
    have hcons (q : String) :
        (p :: seen).any (Path.same q) = (p :: seen').any (Path.same q) := by
      rw [List.any_cons, List.any_cons, h q]
    rw [dropRepeated, dropRepeated, h p, ih h, ih hcons]

/-- What was seen may be dropped afterwards. So paths can be gone through as if nothing had been
seen, and then those that were seen be taken out. -/
theorem dropRepeated_append_seen (early seen ps : List String) :
    dropRepeated (early ++ seen) ps =
      (dropRepeated seen ps).filter fun p => !early.any (Path.same p) := by
  induction ps generalizing seen with
  | nil => rfl
  | cons p ps ih =>
    rw [dropRepeated, dropRepeated, List.any_append]
    cases hseen : seen.any (Path.same p) with
    | true => rw [Bool.or_true, if_pos rfl, if_pos rfl, ih]
    | false =>
      rw [Bool.or_false, if_neg Bool.false_ne_true, List.filter_cons, ← ih]
      cases hearly : early.any (Path.same p) with
      | true =>
        rw [if_pos rfl, Bool.not_true, if_neg Bool.false_ne_true]
        -- `p` has been seen under another spelling, so that adding it changes nothing
        refine dropRepeated_congr (fun q => ?_) ps
        rw [List.any_append, List.any_append, List.any_cons]
        cases hq : Path.same q p with
        | false => rfl
        | true =>
          obtain ⟨r, hr, hsame⟩ := List.any_eq_true.1 hearly
          have hqr : early.any (Path.same q) = true :=
            List.any_eq_true.2 ⟨r, hr, Path.same_trans hq hsame⟩
          rw [hqr]
          rfl
      | false =>
        rw [if_neg Bool.false_ne_true, Bool.not_false, if_pos rfl]
        refine congrArg (p :: ·) (dropRepeated_congr (fun q => ?_) ps)
        rw [List.any_cons, List.any_append, List.any_append, List.any_cons]
        cases Path.same q p <;> cases early.any (Path.same q) <;> rfl

/-- Paths behind others are gone through with those of the others seen that are left. -/
theorem dropRepeated_behind (seen ps qs : List String) :
    dropRepeated seen (ps ++ qs) =
      dropRepeated seen ps ++ dropRepeated (dropRepeated seen ps ++ seen) qs := by
  induction ps generalizing seen with
  | nil => rfl
  | cons p ps ih =>
    rw [List.cons_append, dropRepeated, dropRepeated]
    split
    · exact ih seen
    · rw [ih, List.cons_append]
      refine congrArg (fun rest => p :: (dropRepeated (p :: seen) ps ++ rest))
        (dropRepeated_congr (fun q => ?_) qs)
      rw [List.any_append, List.any_cons, List.cons_append, List.any_cons, List.any_append]
      cases Path.same q p <;> cases (dropRepeated (p :: seen) ps).any (Path.same q) <;> rfl

/-- **Paths behind others** are gone through as if alone, and then the ones dropped that the others
have. -/
theorem dropRepeated_append (ps qs : List String) :
    dropRepeated [] (ps ++ qs) =
      dropRepeated [] ps ++
        (dropRepeated [] qs).filter fun q => !(dropRepeated [] ps).any (Path.same q) := by
  rw [dropRepeated_behind, dropRepeated_append_seen]

/-! ## One argument

What an argument stands for is said of the disk, and so is why it may fail. Both are held against
the selection branch by branch, and from then on it is asked what they say. -/

variable {argument : String}

/-- **What an argument stands for**: the files that a pattern stands for, the documents below a
directory, or the one file that it names. -/
def StandsFor (d : Disk) (argument path : String) : Prop :=
  (isPattern argument = true ∧ d.isFile path = true ∧
    ∃ found, Pattern.search d argument = .ok found ∧ ∃ f ∈ found, f.path = path) ∨
  (isPattern argument = false ∧ d.isDirectory argument = true ∧ IsDocumentBelow d argument path) ∨
  (isPattern argument = false ∧ d.isFile argument = true ∧ path = argument)

/-- **Why nothing can be selected for an argument**: it is a pattern that makes no sense, or one
that no file matches, or a path that leads to no file and to no directory. Such a path may lead
nowhere, but it may as well lead to a pipe. -/
def Fails (d : Disk) (argument : String) : SelectionError → Prop
  | .badPattern pattern fault =>
    argument = pattern ∧ isPattern argument = true ∧ Pattern.search d argument = .error fault
  | .noMatch pattern =>
    argument = pattern ∧ isPattern argument = true ∧
      ∃ found, Pattern.search d argument = .ok found ∧ ∀ f ∈ found, d.isFile f.path = false
  | .missing path =>
    argument = path ∧ isPattern argument = false ∧ d.isDirectory argument = false ∧
      d.isFile argument = false

/-- The documents of an argument are looked for where it is, if it is a directory. -/
def IsLocated (d : Disk) (argument : String) : Prop :=
  isPattern argument = false → d.isDirectory argument = true → Searchable argument

/-- **Which argument fails first**: all before it stand for something. What comes behind it is not
looked at, and may make no sense at all. -/
def FailsFirst (d : Disk) (arguments : List String) (e : SelectionError) : Prop :=
  ∃ before argument after, arguments = before ++ argument :: after ∧
    (∀ a ∈ before, ∀ e', ¬ Fails d a e') ∧ Fails d argument e

theorem not_failsFirst_nil (e : SelectionError) : ¬ FailsFirst d [] e := by
  rintro ⟨before, argument, after, h, -⟩
  exact List.append_ne_nil_of_right_ne_nil _ (List.cons_ne_nil _ _) h.symm

theorem failsFirst_cons_iff {arguments : List String} {e : SelectionError} :
    FailsFirst d (argument :: arguments) e ↔
      Fails d argument e ∨ (∀ e', ¬ Fails d argument e') ∧ FailsFirst d arguments e := by
  constructor
  · rintro ⟨before, a, after, hsplit, hbefore, he⟩
    cases before with
    | nil =>
      obtain ⟨rfl, -⟩ := List.cons.inj hsplit
      exact .inl he
    | cons b before =>
      obtain ⟨rfl, hrest⟩ := List.cons.inj hsplit
      obtain ⟨hfine, hbefore⟩ := List.forall_mem_cons.1 hbefore
      exact .inr ⟨hfine, before, a, after, hrest, hbefore, he⟩
  · rintro (he | ⟨hfine, before, a, after, rfl, hbefore, he⟩)
    · exact ⟨[], argument, arguments, rfl, fun _ h => (List.not_mem_nil h).elim, he⟩
    · exact ⟨argument :: before, a, after, rfl, List.forall_mem_cons.2 ⟨hfine, hbefore⟩, he⟩

/-- A directory is no file. So an argument is one of the two at most, and stands for paths in one
way. -/
theorem isFile_eq_false {path : String} (h : d.isDirectory path = true) :
    d.isFile path = false := by
  rw [Disk.isDirectory] at h
  rw [Disk.isFile]
  cases hentry : d.entry path with
  | error f => rfl
  | ok e =>
    rw [hentry] at h
    cases e with
    | directory entries => rfl
    | _ => cases h

/-- **Why an argument fails**, and that it fails for one reason only: each branch of the selection
is left with one. -/
theorem expandArgument_eq_error_iff {e : SelectionError} :
    expandArgument d argument = .error e ↔ Fails d argument e := by
  rw [expandArgument]
  cases hpattern : isPattern argument with
  | true =>
    rw [if_pos rfl]
    cases hsearch : Pattern.search d argument with
    | error fault => cases e <;> simp [Fails, hpattern, hsearch]
    | ok found =>
      by_cases hnone : filePaths d found = []
      · have hfiles := filePaths_eq_nil_iff.1 hnone
        cases e <;> simp +contextual [Fails, hpattern, hsearch, hnone, hfiles]
      · have hfiles := mt filePaths_eq_nil_iff.2 hnone
        cases e <;> simp [Fails, hpattern, hsearch, hnone, hfiles]
  | false =>
    rw [if_neg Bool.false_ne_true]
    cases hdirectory : d.isDirectory argument with
    | true => cases e <;> simp [Fails, hpattern, hdirectory]
    | false =>
      rw [if_neg Bool.false_ne_true]
      cases hfile : d.isFile argument <;> cases e <;> simp [Fails, hpattern, hdirectory, hfile]

/-- **The paths that an argument stands for** come in their order. They are all files, and there is
no other that the argument stands for, if its documents are looked for where it is. -/
theorem of_expandArgument (htree : d.root.IsTree) {ps : List String}
    (h : expandArgument d argument = .ok ps) :
    (∀ p ∈ ps, d.isFile p = true) ∧ ps.Pairwise (fun p q => Path.lt q p = false) ∧
      (IsLocated d argument → ∀ p, p ∈ ps ↔ StandsFor d argument p) := by
  rw [expandArgument] at h
  cases hpattern : isPattern argument with
  | true =>
    rw [hpattern, if_pos rfl] at h
    split at h
    · cases h
    · rename_i found hsearch
      dsimp only at h
      split at h
      · cases h
      · obtain rfl := Except.ok.inj h
        refine ⟨fun p hp => (mem_filePaths_iff.1 hp).2, sorted_filePaths found, fun _ p => ?_⟩
        simp [mem_filePaths_iff, StandsFor, hpattern, hsearch, and_comm]
  | false =>
    rw [hpattern, if_neg Bool.false_ne_true] at h
    split at h
    · rename_i hdirectory
      obtain rfl := Except.ok.inj h
      refine ⟨fun p hp => (mem_filePaths_iff.1 hp).2, sorted_filePaths _, fun hlocated p => ?_⟩
      -- what is a directory is found, and then the search for its documents finds all of them
      obtain ⟨s, hs⟩ : ∃ s, d.find argument = .ok s := by
        rw [Disk.isDirectory, Disk.entry] at hdirectory
        cases hfind : d.find argument with
        | error f =>
          rw [hfind] at hdirectory
          cases hdirectory
        | ok s => exact ⟨s, rfl⟩
      rw [mem_documents_iff htree (hlocated hpattern hdirectory) hs]
      simp [StandsFor, hpattern, hdirectory, isFile_eq_false hdirectory]
    · rename_i hdirectory
      rw [Bool.not_eq_true] at hdirectory
      split at h
      · rename_i hfile
        obtain rfl := Except.ok.inj h
        refine ⟨List.forall_mem_singleton.2 hfile, List.pairwise_singleton .., fun _ p => ?_⟩
        simp [StandsFor, hpattern, hdirectory, hfile]
      · cases h

/-- **An argument stands for files** that are there: for a pattern or a directory each path is asked
for, and a plain argument is taken only if it leads to one. -/
theorem StandsFor.isFile {path : String} (h : StandsFor d argument path) :
    d.isFile path = true := by
  rcases h with ⟨-, hfile, -⟩ | ⟨-, -, s, t, names, last, extension, -, -, hfile, -, -, -, -, ht⟩ |
    ⟨-, hfile, rfl⟩
  · exact hfile
  · exact isFile_iff.2 ⟨t, ht, hfile⟩
  · exact hfile

/-! ## Several arguments -/

variable {arguments paths : List String}

theorem selectFiles_eq_ok_iff :
    selectFiles d arguments = .ok paths ↔
      ∃ all, arguments.mapM (expandArgument d) = .ok all ∧ paths = dropRepeated [] all.flatten := by
  rw [selectFiles]
  cases arguments.mapM (expandArgument d) with
  | error e => exact ⟨nofun, fun ⟨_, h, _⟩ => by cases h⟩
  | ok all =>
    constructor
    · intro h
      exact ⟨all, rfl, (Except.ok.inj h).symm⟩
    · rintro ⟨all', hall, rfl⟩
      obtain rfl := Except.ok.inj hall
      rfl

theorem nodup_of_selectFiles (h : selectFiles d arguments = .ok paths) : paths.Nodup := by
  obtain ⟨all, -, rfl⟩ := selectFiles_eq_ok_iff.1 h
  exact nodup_dropRepeated [] all.flatten

theorem selectFiles_singleton {ps : List String} (h : expandArgument d argument = .ok ps) :
    selectFiles d [argument] = .ok (dropRepeated [] ps) := by
  rw [selectFiles, List.mapM_cons, h]
  exact congrArg (fun ps => Except.ok (dropRepeated [] ps)) (List.append_nil ps)

/-- **Arguments behind others** add the paths they stand for alone, as far as those are new. -/
theorem selectFiles_append (before after : List String) :
    selectFiles d (before ++ after) =
      (selectFiles d before).bind fun ps =>
        (selectFiles d after).map fun qs => ps ++ qs.filter fun q => !ps.any (Path.same q) := by
  rw [selectFiles, selectFiles, selectFiles, List.mapM_append]
  cases before.mapM (expandArgument d) with
  | error e => rfl
  | ok all =>
    cases after.mapM (expandArgument d) with
    | error e => rfl
    | ok all' =>
      have hflatten : (all ++ all').flatten = all.flatten ++ all'.flatten := List.flatten_append
      refine congrArg Except.ok ?_
      dsimp only
      rw [hflatten]
      exact dropRepeated_append all.flatten all'.flatten

/-- One argument in front of others: of its own paths those are dropped that it has twice, and of
the others those that it has, too. -/
theorem selectFiles_cons (a : String) (rest : List String) :
    selectFiles d (a :: rest) =
      (expandArgument d a).bind fun ps => (selectFiles d rest).map fun qs =>
        dropRepeated [] ps ++ qs.filter fun q => !(dropRepeated [] ps).any (Path.same q) := by
  have happend := selectFiles_append (d := d) [a] rest
  rw [List.singleton_append] at happend
  rw [happend]
  cases ha : expandArgument d a with
  | error e =>
    rw [selectFiles, List.mapM_cons, ha]
    rfl
  | ok ps =>
    rw [selectFiles_singleton ha]
    rfl

/-- **Arguments fail as the first of them that fails**, and nothing is selected then, whatever the
arguments before it stand for. -/
theorem selectFiles_eq_error_iff {e : SelectionError} :
    selectFiles d arguments = .error e ↔ FailsFirst d arguments e := by
  induction arguments with
  | nil => exact ⟨nofun, fun h => absurd h (not_failsFirst_nil e)⟩
  | cons a rest ih =>
    rw [selectFiles_cons, failsFirst_cons_iff, ← ih]
    simp only [← expandArgument_eq_error_iff]
    cases expandArgument d a with
    | error e' =>
      refine ⟨.inl, fun h => h.resolve_right fun h => ?_⟩
      exact absurd rfl (h.1 e')
    | ok ps =>
      have hrest : ((selectFiles d rest).map fun qs => dropRepeated [] ps ++
          qs.filter fun q => !(dropRepeated [] ps).any (Path.same q)) = .error e ↔
            selectFiles d rest = .error e := by
        cases selectFiles d rest with
        | error e' => exact ⟨fun h => h, fun h => h⟩
        | ok qs => exact ⟨nofun, nofun⟩
      exact hrest.trans ⟨fun h => .inr ⟨nofun, h⟩, fun h => h.elim nofun And.right⟩

theorem mem_flatten_iff {all : List (List String)}
    (hall : arguments.mapM (expandArgument d) = .ok all) (p : String) :
    p ∈ all.flatten ↔ ∃ a ∈ arguments, ∃ ps, expandArgument d a = .ok ps ∧ p ∈ ps := by
  induction arguments generalizing all with
  | nil =>
    obtain rfl := Except.ok.inj hall
    simp
  | cons a rest ih =>
    rw [List.mapM_cons] at hall
    cases ha : expandArgument d a with
    | error e =>
      rw [ha] at hall
      cases hall
    | ok ps =>
      cases hrest : rest.mapM (expandArgument d) with
      | error e =>
        rw [ha, hrest] at hall
        cases hall
      | ok later =>
        rw [ha, hrest] at hall
        obtain rfl := Except.ok.inj hall
        rw [List.flatten_cons, List.mem_append, ih hrest]
        simp [ha]

/-- Every argument stands for something when files are selected, as one that fails makes the whole
selection fail. -/
theorem exists_expandArgument {all : List (List String)}
    (hall : arguments.mapM (expandArgument d) = .ok all) {a : String} (ha : a ∈ arguments) :
    ∃ ps, expandArgument d a = .ok ps := by
  induction arguments generalizing all with
  | nil => cases ha
  | cons b rest ih =>
    rw [List.mapM_cons] at hall
    cases hb : expandArgument d b with
    | error e =>
      rw [hb] at hall
      cases hall
    | ok ps =>
      cases hrest : rest.mapM (expandArgument d) with
      | error e =>
        rw [hb, hrest] at hall
        cases hall
      | ok later =>
        rcases List.mem_cons.1 ha with rfl | ha
        · exact ⟨ps, hb⟩
        · exact ih hrest ha

/-- **The paths that are selected** lead to files, and they are what the arguments stand for, up to
the spelling of paths with the same components. -/
theorem mem_of_selectFiles (htree : d.root.IsTree) (h : selectFiles d arguments = .ok paths) :
    (∀ p ∈ paths, d.isFile p = true) ∧
    ((∀ a ∈ arguments, IsLocated d a) → ∀ p ∈ paths, ∃ a ∈ arguments, StandsFor d a p) ∧
    ∀ a ∈ arguments, IsLocated d a → ∀ p, StandsFor d a p →
      ∃ q ∈ paths, Path.same p q = true := by
  obtain ⟨all, hall, rfl⟩ := selectFiles_eq_ok_iff.1 h
  have hmem := mem_flatten_iff hall
  refine ⟨?_, ?_, ?_⟩
  · intro p hp
    obtain ⟨a, -, ps, hps, hp⟩ := (hmem p).1 (mem_of_mem_dropRepeated hp)
    obtain ⟨hfile, -, -⟩ := of_expandArgument htree hps
    exact hfile p hp
  · intro hlocated p hp
    obtain ⟨a, ha, ps, hps, hp⟩ := (hmem p).1 (mem_of_mem_dropRepeated hp)
    obtain ⟨-, -, hstands⟩ := of_expandArgument htree hps
    exact ⟨a, ha, (hstands (hlocated a ha) p).1 hp⟩
  · intro a ha hlocated p hp
    obtain ⟨ps, hps⟩ := exists_expandArgument hall ha
    obtain ⟨-, -, hstands⟩ := of_expandArgument htree hps
    -- dropping paths that came before leaves one with the same components
    obtain ⟨q, hsame, hq⟩ := exists_same_of_mem []
      ((hmem p).2 ⟨a, ha, ps, hps, (hstands hlocated p).2 hp⟩)
    exact ⟨q, hq.resolve_left List.not_mem_nil, hsame⟩

/-! ## One file under several paths

Paths are dropped for their components, and not for the file that they lead to. Where neither two
dots nor the start make a difference, the place that is reached tells the steps, and those tell the
components. -/

/-- Paths of the same components that lead to files lead to the same file. Without a file at the end
they may not, as only a directory may have a slash behind it. -/
theorem find_eq_of_same {p q : String} (h : Path.same p q = true) (hp : d.isFile p = true)
    (hq : d.isFile q = true) : d.find q = d.find p := by
  obtain ⟨s, hs, -⟩ := isFile_iff.1 hp
  obtain ⟨t, ht, -⟩ := isFile_iff.1 hq
  obtain ⟨habsolute, -, hmoves⟩ := Path.same_iff.1 h
  have hreach := d.reach_congr habsolute hmoves
  rw [d.reach_of_find hs, d.reach_of_find ht] at hreach
  rw [hs, ht, Except.ok.inj hreach]

/-- **Paths that may differ and lead to one file**: they start at different places, or one of them
starts with a dot and the other does not, or there are two dots in one of them. -/
def SpelledApart (p q : String) : Prop :=
  Path.isAbsolute p ≠ Path.isAbsolute q ∨
    ¬ (Component.here ∈ Path.components p ↔ Component.here ∈ Path.components q) ∨
    Component.up ∈ Path.components p ∨ Component.up ∈ Path.components q

/-- Without such a difference, paths to one file have the same components. Their steps are the same
then, and they start at the same place and with the same dot. -/
theorem spelledApart_of_names_eq {p q : String} {s t : Spot} (hp : d.find p = .ok s)
    (hq : d.find q = .ok t) (hnames : s.names = t.names) (hne : Path.same p q = false) :
    SpelledApart p q := by
  by_contra hnone
  rw [SpelledApart, not_or, not_or, not_or, not_not, not_not] at hnone
  obtain ⟨habsolute, hhere, hup, hup'⟩ := hnone
  have hmoves := moves_eq_of_names_eq habsolute (d.reach_of_find hq) (d.reach_of_find hp) hnames
    hup' hup
  rw [Path.same_iff.2 ⟨habsolute, hhere, hmoves⟩] at hne
  cases hne

/-! ## The selection -/

/-- **What is selected** for some arguments. Of the documents below a directory this tells only if
they are looked for where the directory is. -/
structure IsSelection (d : Disk) (arguments paths : List String) : Prop where
  /-- there is a file where each path leads -/
  isFile : ∀ p ∈ paths, d.isFile p = true
  /-- some argument stands for each path -/
  named : (∀ a ∈ arguments, IsLocated d a) → ∀ p ∈ paths, ∃ a ∈ arguments, StandsFor d a p
  /-- whatever an argument stands for is there, perhaps under another path of the same components -/
  complete : ∀ a ∈ arguments, IsLocated d a → ∀ p, StandsFor d a p →
    ∃ q ∈ paths, Path.same p q = true ∧ d.find q = d.find p
  /-- what arguments add to those before them comes behind -/
  ordered : ∀ before after, arguments = before ++ after →
    ∃ ps qs, selectFiles d before = .ok ps ∧ selectFiles d after = .ok qs ∧
      paths = ps ++ qs.filter fun q => !ps.any (Path.same q)
  /-- what one argument stands for comes in the order of paths -/
  sorted : ∀ a, arguments = [a] → paths.Pairwise fun p q => Path.lt q p = false
  /-- no path is there twice, however it is spelled -/
  distinct : paths.Pairwise fun p q => Path.same p q = false
  /-- a file is there twice only under paths that are spelled apart -/
  apart : ∀ p ∈ paths, ∀ q ∈ paths, p ≠ q → ∀ s t, d.find p = .ok s → d.find q = .ok t →
    s.names = t.names → SpelledApart p q

theorem isSelection (htree : d.root.IsTree) (h : selectFiles d arguments = .ok paths) :
    IsSelection d arguments paths := by
  obtain ⟨hfile, hnamed, hcomplete⟩ := mem_of_selectFiles htree h
  have hdistinct : paths.Pairwise fun p q => Path.same p q = false := by
    obtain ⟨all, -, rfl⟩ := selectFiles_eq_ok_iff.1 h
    exact pairwise_dropRepeated [] all.flatten
  refine ⟨hfile, hnamed, ?_, ?_, ?_, hdistinct, ?_⟩
  · intro a ha hlocated p hp
    obtain ⟨q, hq, hsame⟩ := hcomplete a ha hlocated p hp
    exact ⟨q, hq, hsame, find_eq_of_same hsame hp.isFile (hfile q hq)⟩
  · rintro before after rfl
    rw [selectFiles_append] at h
    cases hbefore : selectFiles d before with
    | error e =>
      rw [hbefore] at h
      cases h
    | ok ps =>
      cases hafter : selectFiles d after with
      | error e =>
        rw [hbefore, hafter] at h
        cases h
      | ok qs =>
        rw [hbefore, hafter] at h
        exact ⟨ps, qs, rfl, rfl, (Except.ok.inj h).symm⟩
  · rintro a rfl
    cases ha : expandArgument d a with
    | error e =>
      rw [selectFiles_cons, ha] at h
      cases h
    | ok ps =>
      rw [selectFiles_singleton ha] at h
      obtain rfl := Except.ok.inj h
      obtain ⟨-, hsorted, -⟩ := of_expandArgument htree ha
      exact hsorted.sublist (dropRepeated_sublist [] ps)
  · intro p hp q hq hne s t hs ht hnames
    have hsymm : Std.Symm fun p q => Path.same p q = false :=
      ⟨fun p q h => Path.same_comm p q ▸ h⟩
    exact spelledApart_of_names_eq hs ht hnames (hdistinct.forall hp hq hne)

/-- **Files are selected completely, and no path twice.** Selecting fails exactly if some argument
does, and then as the first of them that does. Otherwise what is selected are files that are there,
among them all that the arguments stand for, in the order of the arguments, and those of one
argument in the order of paths. No two of the paths have the same components, so that a file is
selected twice only if it is named from the root and from the working directory, with a dot at the
start and without one, or by a path with two dots. -/
theorem selection_exact (htree : d.root.IsTree) (arguments : List String) :
    (∀ e, selectFiles d arguments = .error e ↔ FailsFirst d arguments e) ∧
    ∀ paths, selectFiles d arguments = .ok paths → IsSelection d arguments paths :=
  ⟨fun _ => selectFiles_eq_error_iff, fun _ h => isSelection htree h⟩

/-- A folder with two documents and a pipe. -/
def folder : Disk where
  root := .directory
    [("b", .directory [("y.md", .file []), ("x.txt", .file []), ("z.md", .stream [])])]

theorem isTree_folder : folder.root.IsTree := by
  refine .directory ?_ (by decide) ?_
  · exact List.forall_mem_singleton.2 ⟨by decide, by decide⟩
  · refine List.forall_mem_singleton.2 (.directory ?_ (by decide) ?_)
    · exact List.forall_mem_cons.2 ⟨⟨by decide, by decide⟩, List.forall_mem_cons.2
        ⟨⟨by decide, by decide⟩, List.forall_mem_singleton.2 ⟨by decide, by decide⟩⟩⟩
    · exact List.forall_mem_cons.2 ⟨.leaf rfl, List.forall_mem_cons.2
        ⟨.leaf rfl, List.forall_mem_singleton.2 (.leaf rfl)⟩⟩

/-- What three arguments stand for alone. The pipe is found, but it is no file. The dot in front of
a pattern is left out of what is found. -/
theorem expandArgument_folder :
    expandArgument folder "b/*.md" = .ok ["b/y.md"] ∧
    expandArgument folder "./b/*.md" = .ok ["b/y.md"] ∧
    expandArgument folder "b" = .ok ["b/x.txt", "b/y.md"] := by
  have hsearch : Pattern.search folder "b/*.md" =
      .ok [⟨"b/y.md", .file []⟩, ⟨"b/z.md", .stream []⟩] := rfl
  have hdotted : Pattern.search folder "./b/*.md" =
      .ok [⟨"b/y.md", .file []⟩, ⟨"b/z.md", .stream []⟩] := rfl
  have hone : filePaths folder [⟨"b/y.md", .file []⟩, ⟨"b/z.md", .stream []⟩] = ["b/y.md"] := by
    have hfiles : ["b/y.md", "b/z.md"].filter folder.isFile = ["b/y.md"] := by decide +kernel
    exact (congrArg (List.mergeSort · _) hfiles).trans (List.mergeSort_singleton _)
  have htwo : filePaths folder (documentsBelow folder "b") = ["b/x.txt", "b/y.md"] := by
    have hfiles : ((documentsBelow folder "b").map (·.path)).filter folder.isFile =
        ["b/y.md", "b/x.txt"] := by decide +kernel
    have hsort (a b : String) (le : String → String → Bool) :
        [a, b].mergeSort le = if le a b then [a, b] else [b, a] := by
      simp [List.mergeSort, List.merge]
    rw [filePaths, hfiles, hsort]
    decide
  refine ⟨?_, ?_, ?_⟩
  · rw [expandArgument, if_pos (by decide), hsearch]
    dsimp only
    rw [hone]
    rfl
  · rw [expandArgument, if_pos (by decide), hdotted]
    dsimp only
    rw [hone]
    rfl
  · rw [expandArgument, if_neg (by decide), if_pos (by decide), htwo]

/-- A pattern, the directory it looks at, and one of the files once more. -/
theorem folder_selected :
    folder.root.IsTree ∧
    (∀ a ∈ ["b/*.md", "b", "b//y.md"], IsLocated folder a) ∧
    IsSelection folder ["b/*.md", "b", "b//y.md"] ["b/y.md", "b/x.txt"] ∧
    StandsFor folder "b" "b/x.txt" ∧
    selectFiles folder ["b", "b/z.md"] = .error (.missing "b/z.md") := by
  obtain ⟨hpattern, -, hdirectory⟩ := expandArgument_folder
  have hagain : expandArgument folder "b//y.md" = .ok ["b//y.md"] := by decide +kernel
  have hselect : selectFiles folder ["b/*.md", "b", "b//y.md"] = .ok ["b/y.md", "b/x.txt"] := by
    rw [selectFiles, List.mapM_cons, List.mapM_cons, List.mapM_cons, hpattern, hdirectory, hagain]
    decide +kernel
  have hlocated : ∀ a ∈ ["b/*.md", "b", "b//y.md"], IsLocated folder a := by
    have hb : Searchable "b" := ⟨by decide, by decide, .inr (by unfold Ungapped; decide)⟩
    have hno {a : String} (h : isPattern a = true ∨ folder.isDirectory a = false) :
        IsLocated folder a := by
      intro hplain hisDirectory
      rcases h with h | h
      · rw [h] at hplain
        cases hplain
      · rw [h] at hisDirectory
        cases hisDirectory
    exact List.forall_mem_cons.2 ⟨hno (.inl (by decide)), List.forall_mem_cons.2
      ⟨fun _ _ => hb, List.forall_mem_singleton.2 (hno (.inr (by decide)))⟩⟩
  have hbelow : StandsFor folder "b" "b/x.txt" := by
    obtain ⟨-, -, hstands⟩ := of_expandArgument isTree_folder hdirectory
    exact (hstands (hlocated "b" (by decide)) "b/x.txt").1 (by decide)
  have hfine : ∀ e, ¬ Fails folder "b" e := by
    intro e he
    rw [← expandArgument_eq_error_iff, hdirectory] at he
    cases he
  have hfails : Fails folder "b/z.md" (.missing "b/z.md") := by
    refine ⟨rfl, ?_, ?_, ?_⟩ <;> decide +kernel
  obtain ⟨-, hselected⟩ := selection_exact isTree_folder ["b/*.md", "b", "b//y.md"]
  obtain ⟨herror, -⟩ := selection_exact isTree_folder ["b", "b/z.md"]
  exact ⟨isTree_folder, hlocated, hselected _ hselect, hbelow,
    (herror _).2 ⟨["b"], "b/z.md", [], rfl, List.forall_mem_singleton.2 hfine, hfails⟩⟩

/-- **A dot at the start makes another path** of the same file. The pattern finds it without the
dot, the file named behind the pattern keeps it, and the file is selected twice. -/
theorem dotted_twice :
    (selectFiles folder ["./b/*.md", "./b/y.md"]).toOption = some ["b/y.md", "./b/y.md"] ∧
    (folder.find "./b/y.md").toOption.map Spot.names =
      (folder.find "b/y.md").toOption.map Spot.names ∧
    (folder.find "b/y.md").toOption.map Spot.names = some ["b", "y.md"] := by
  obtain ⟨-, hpattern, -⟩ := expandArgument_folder
  have hnamed : expandArgument folder "./b/y.md" = .ok ["./b/y.md"] := by decide +kernel
  refine ⟨?_, by decide +kernel, by decide +kernel⟩
  rw [selectFiles, List.mapM_cons, List.mapM_cons, hpattern, hnamed]
  decide +kernel

end DocLint.Files
