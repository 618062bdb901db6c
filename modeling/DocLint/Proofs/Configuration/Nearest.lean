import DocLint.Config.Find
import DocLint.Proofs.Files.Lengths

/-!
# The nearest configuration

A search looks at a directory and at what is above it in the text of its path, and stops where it
sees a configuration, be it good or bad. So what is further up makes no difference, and what is wrong
with the nearest configuration that is seen is never covered up by a better one.

To be seen is more than to be there. Before it loads a configuration the search asks whether there is
one, and the answer is no also where the question could not be settled: a link that leads nowhere, a
directory that must not be entered, a path that is too long. Loading the same path says what is wrong
with it, but the search does not get that far, and goes on to the next directory.

* `Config.find_eq` — one round of a search;
* `Config.find_of_nearest`, `Config.find_eq_none_iff` — how it ends;
* `Config.load_of_hides` — what a search passes over cannot be loaded;
* `Config.nearest_decides` — the way up is finite, and the nearest configuration that is seen on it
  decides; if none is hidden, that is the nearest there is;
* `Config.hidden_passed_over` — two that are hidden.
-/

namespace DocLint

open Files

namespace ConfigError

/-- What is wrong with a configuration, wherever it is. Two searches that end at different spellings
of one path are compared by this. -/
def cause : ConfigError → Fault ⊕ ConfigFault
  | unreadable _ fault => .inl fault
  | invalid _ fault => .inr fault

/-- The same error about another path, as if the configuration had been loaded from there. -/
def about (path : String) : ConfigError → ConfigError
  | unreadable _ fault => .unreadable path fault
  | invalid _ fault => .invalid path fault

theorem cause_about (path : String) (e : ConfigError) : (e.about path).cause = e.cause := by
  cases e <;> rfl

end ConfigError

namespace Config

theorem isName_fileName : Disk.IsName fileName := ⟨by decide, by decide⟩

/-! ## Loading -/

theorem load_eq_ofEntry {d : Disk} {path : String} {e : Entry} (h : d.entry path = .ok e) :
    load d path = ofEntry path e := by
  rw [load, h]

/-- An error names the path; apart from that what is there decides. So what loading comes to can be
told of an entry alone, before it is known how it was reached. -/
theorem ofEntry_about (path path' : String) (e : Entry) :
    ofEntry path e = (ofEntry path' e).mapError (ConfigError.about path) := by
  rw [ofEntry, ofEntry]
  cases Disk.textOf e with
  | error fault => rfl
  | ok text => cases hparse : parse text <;> simp only [hparse] <;> rfl

/-! ## Searching

The search is a loop over the paths above a directory. Its step is told by what a directory shows,
and not by paths, and both ways in which it may end follow by induction on the way up. -/

variable (d : Disk)

/-- **One round of a search**: the directory is looked at, then the path above it if no
configuration is seen. -/
theorem find_eq (directory : String) :
    find d directory =
      match d.sees directory fileName with
      | some e =>
        (ofEntry (Path.join directory fileName) e).map fun c =>
          some (Path.join directory fileName, c)
      | none => (Path.parent? directory).elim (.ok none) (find d) := by
  have hleads := d.leads_join isName_fileName directory
  rw [find, places, Path.ancestors_eq, List.map_cons]
  cases hsees : d.sees directory fileName with
  | some e =>
    rw [hsees] at hleads
    rw [List.find?_cons_of_pos hleads]
    dsimp only
    rw [load_eq_ofEntry ((d.entry_join_eq_ok_iff isName_fileName).2 hsees)]
    cases ofEntry (Path.join directory fileName) e <;> rfl
  | none =>
    rw [hsees] at hleads
    rw [List.find?_cons_of_neg (by rw [hleads]; exact Bool.false_ne_true)]
    cases Path.parent? directory <;> rfl

variable {d} {directory : String} {above : List String}

/-- **A search that finds nothing** has looked everywhere: no directory on the way up shows a
configuration. -/
theorem find_eq_none_iff (hway : Path.Ascends directory above) :
    find d directory = .ok none ↔ ∀ p ∈ above, d.sees p fileName = none := by
  induction hway with
  | @top p hp =>
    rw [find_eq, hp, List.forall_mem_singleton]
    cases d.sees p fileName with
    | some e => cases hload : ofEntry (Path.join p fileName) e <;> simp [hload, Except.map]
    | none => simp
  | @up p q above hp _ ih =>
    rw [find_eq, hp, List.forall_mem_cons]
    cases d.sees p fileName with
    | some e => cases hload : ofEntry (Path.join p fileName) e <;> simp [hload, Except.map]
    | none => simpa using ih

/-- **A search ends at the nearest configuration** that it sees, whatever it is. By induction on the
directories below it, each of which takes one round and shows nothing. -/
theorem find_of_nearest {before after : List String} {p : String} {e : Entry}
    (hway : Path.Ascends directory (before ++ p :: after))
    (hbefore : ∀ q ∈ before, d.sees q fileName = none) (hp : d.sees p fileName = some e) :
    find d directory =
      (ofEntry (Path.join p fileName) e).map fun c => some (Path.join p fileName, c) := by
  induction before generalizing directory with
  | nil =>
    have hhere : directory = p := by
      cases hway with
      | top => rfl
      | up => rfl
    rw [find_eq, hhere, hp]
  | cons q before ih =>
    rw [List.forall_mem_cons] at hbefore
    rw [List.cons_append] at hway
    generalize hlater : before ++ p :: after = later at hway
    cases hway with
    | top =>
      -- the place of the configuration is still ahead
      exact absurd hlater (List.append_ne_nil_of_right_ne_nil _ (List.cons_ne_nil _ _))
    | up hparent hrest =>
      rw [find_eq, hbefore.1, hparent]
      exact ih (hlater ▸ hrest) hbefore.2

/-! ## What is hidden

The name is there, but to ask for it by its path gets no answer. Then it is not loaded, and if it
were, that would be an error. -/

/-- **What is hidden** is not seen, and loading it is an error. Whatever keeps it from being looked
at keeps it from being read, too. -/
theorem load_of_hides {p : String} (h : d.Hides p fileName) :
    d.sees p fileName = none ∧
      ∃ fault, load d (Path.join p fileName) = .error (.unreadable (Path.join p fileName) fault) := by
  have hsees := d.sees_eq_none_iff.2 (.inr h)
  refine ⟨hsees, ?_⟩
  rw [load]
  cases hentry : d.entry (Path.join p fileName) with
  | error fault => exact ⟨fault, rfl⟩
  | ok e =>
    rw [(d.entry_join_eq_ok_iff isName_fileName).1 hentry] at hsees
    cases hsees

/-- What is there and not hidden is seen, and nothing is seen that is not there. So without hidden
entries it makes no difference which of the two is asked for. -/
theorem sees_eq_holds {p : String} (h : ¬ d.Hides p fileName) :
    d.sees p fileName = d.holds p fileName := by
  cases hsees : d.sees p fileName with
  | some e => exact (d.sees_eq_some_iff.1 hsees).1.symm
  | none => exact ((d.sees_eq_none_iff.1 hsees).resolve_right h).symm

/-! ## The way up -/

/-- **The nearest one decides**, of the configurations that are told of the paths on the way up: if
there is none, the search finds nothing, and otherwise it comes to what loading the first one comes
to, be it settings or an error. -/
def IsDecidedBy (d : Disk) (directory : String) (above : List String)
    (told : String → Option Entry) : Prop :=
  (find d directory = .ok none ↔ ∀ p ∈ above, told p = none) ∧
  ∀ before p after e, above = before ++ p :: after → (∀ q ∈ before, told q = none) →
    told p = some e →
      load d (Path.join p fileName) = ofEntry (Path.join p fileName) e ∧
      find d directory =
        (load d (Path.join p fileName)).map fun c => some (Path.join p fileName, c)

theorem isDecidedBy_sees (hway : Path.Ascends directory above) :
    IsDecidedBy d directory above (d.sees · fileName) := by
  refine ⟨find_eq_none_iff hway, ?_⟩
  intro before p after e hsplit hbefore hp
  rw [hsplit] at hway
  have hload := load_eq_ofEntry ((d.entry_join_eq_ok_iff isName_fileName).2 hp)
  exact ⟨hload, by rw [hload, find_of_nearest hway hbefore hp]⟩

/-- Only what is told of the paths on the way up makes a difference. What is there beside the way is
never asked for. -/
theorem IsDecidedBy.congr {told told' : String → Option Entry}
    (htold : ∀ p ∈ above, told p = told' p) (h : IsDecidedBy d directory above told) :
    IsDecidedBy d directory above told' := by
  obtain ⟨hnone, hfirst⟩ := h
  constructor
  · rw [hnone]
    exact forall₂_congr fun p hp => by rw [htold p hp]
  · rintro before p after e rfl hbefore hp
    refine hfirst before p after e rfl (fun q hq => ?_) ?_
    · rw [htold q (List.mem_append_left _ hq)]
      exact hbefore q hq
    · rw [htold p (List.mem_append_right _ (List.mem_cons_self ..))]
      exact hp

/-- **The nearest configuration that is seen decides.** From every directory there is one way up, and
it comes to an end. The search finds nothing exactly if no configuration is seen on the way.
Otherwise it comes to what loading the first one comes to: its settings, or the error that it cannot
be read or makes no sense. It does so on every disk where the same is seen there, whatever is further
up. If no directory on the way hides a configuration, the nearest one that is there decides. One that
is hidden is passed over, though it cannot be loaded. -/
theorem nearest_decides (d : Disk) (directory : String) :
    ∃ above, Path.Ascends directory above ∧
      (∀ other, Path.Ascends directory other → other = above) ∧
      IsDecidedBy d directory above (d.sees · fileName) ∧
      (∀ before p after e, above = before ++ p :: after →
        (∀ q ∈ before, d.sees q fileName = none) → d.sees p fileName = some e →
        ∀ d' : Disk, (∀ q ∈ before, d'.sees q fileName = none) → d'.sees p fileName = some e →
          find d' directory = find d directory) ∧
      ((∀ p ∈ above, ¬ d.Hides p fileName) →
        IsDecidedBy d directory above (d.holds · fileName)) ∧
      ∀ p, d.Hides p fileName → d.sees p fileName = none ∧
        ∃ fault, load d (Path.join p fileName) =
          .error (.unreadable (Path.join p fileName) fault) := by
  have hway := Path.ascends directory
  have hdecided := isDecidedBy_sees (d := d) hway
  refine ⟨Path.ancestors directory, hway, fun other h => Path.ascends_iff.1 h, hdecided, ?_,
    fun hopen => hdecided.congr fun p hp => sees_eq_holds (hopen p hp), fun p => load_of_hides⟩
  intro before p after e hsplit hbefore hp d' hbefore' hp'
  rw [hsplit] at hway
  rw [find_of_nearest hway hbefore hp, find_of_nearest hway hbefore' hp']

/-! ## A path that is too long -/

/-- A name with slashes behind it. They stand for no component, so that the path leads where the
name does, but each of them takes a byte. -/
def spread (slashes : Nat) : String := String.ofList ('a' :: List.replicate slashes '/')

theorem isAbsolute_spread (slashes : Nat) : Path.isAbsolute (spread slashes) = false := by
  rw [Path.isAbsolute, spread, String.toList_ofList]
  rfl

theorem parent?_spread (slashes : Nat) : Path.parent? (spread slashes) = some "" := by
  have hcut : ∀ n, Path.cutTrailing (List.replicate n '/' ++ ['a']) = ['a'] := by
    intro n
    induction n with
    | zero => decide
    | succ n ih => rwa [List.replicate_succ, List.cons_append, Path.cutTrailing]
  have hbody : (Path.body (spread slashes)).reverse = List.replicate slashes '/' ++ ['a'] := by
    rw [Path.body, isAbsolute_spread, if_neg Bool.false_ne_true, spread, String.toList_ofList,
      List.reverse_cons, List.reverse_replicate]
  have hbare : Path.bare false (List.replicate slashes '/' ++ ['a']) = ['a'] := hcut slashes
  rw [Path.parent?_eq, isAbsolute_spread, hbody, hbare]
  decide

/-- The slashes make no difference to where the path leads. They are empty parts, and to follow an
empty part is to stay. -/
theorem reach_spread (d : Disk) (slashes : Nat) : d.reach (spread slashes) = d.reach "a" := by
  refine d.reach_congr (isAbsolute_spread slashes) ?_
  rw [Path.moves_eq, Path.moves_eq, spread, String.toList_ofList]
  congr 1
  induction slashes with
  | zero => rfl
  | succ n ih =>
    rw [List.replicate_succ', ← List.cons_append, Path.parts_append_slash]
    exact ih

/-- With enough slashes no configuration can be looked up behind the path. The path of the directory
itself may still be short enough, so that there is a directory to ask. -/
theorem fits_spread {slashes : Nat}
    (h : Path.maxBytes ≤ slashes + Text.byteSize fileName.toList) :
    Path.fits (Path.join (spread slashes) fileName) = false := by
  have hsize : ∀ n, Text.byteSize (List.replicate n '/') = n := by
    intro n
    induction n with
    | zero => rfl
    | succ n ih =>
      rw [List.replicate_succ, Text.byteSize_cons, ih, Nat.add_comm]
      rfl
  have hlong := Path.byteSize_le_front (spread slashes)
  rw [spread, String.toList_ofList, Text.byteSize_cons, hsize, ← spread] at hlong
  have ha : 0 < 'a'.utf8Size := Char.utf8Size_pos 'a'
  rw [← Bool.not_eq_true, Path.fits_iff, Path.toList_join (by decide), Text.byteSize_append]
  omega

/-- An inner folder where the name of a configuration is a link that leads nowhere, and an outer one
with a configuration. -/
def brokenLink : Disk where
  root := .directory
    [(fileName, .file (Utf8.encode "color.ui=\"never\"".toList)),
      ("a", .directory [(fileName, .sealed .notFound)])]

/-- A folder with a configuration, and nothing above it that could be found instead. -/
def loneFolder : Disk where
  root := .directory
    [("a", .directory [(fileName, .file (Utf8.encode "color.ui=\"never\"".toList))])]

/-- **Hidden configurations are passed over.** The name of one is in the directory, and to load it is
an error; but the search goes on to the next one, or finds none. -/
theorem hidden_passed_over :
    ((brokenLink.holds "/a" fileName).isSome = true ∧
      load brokenLink "/a/.txtlint.toml" = .error (.unreadable "/a/.txtlint.toml" .notFound) ∧
      (find brokenLink "/a").toOption.map (Option.map Prod.fst) = some (some "/.txtlint.toml")) ∧
    (loneFolder.holds (spread 4090) fileName).isSome = true ∧
      load loneFolder (Path.join (spread 4090) fileName) =
        .error (.unreadable (Path.join (spread 4090) fileName) .tooLong) ∧
      find loneFolder (spread 4090) = .ok none := by
  refine ⟨⟨rfl, rfl, by decide +kernel⟩, ?_, ?_, ?_⟩
  · rw [Disk.holds, reach_spread]
    rfl
  · have hfits : Path.fits (Path.join (spread 4090) fileName) = false := fits_spread (by decide)
    have hempty : (Path.join (spread 4090) fileName).isEmpty = false := by
      rw [← Bool.not_eq_true, String.isEmpty_iff]
      exact isName_fileName.join_ne_empty _
    rw [load, Disk.entry, Disk.find, Disk.refusal?, hempty, hfits]
    rfl
  · have hfits : Path.fits (Path.join (spread 4090) fileName) = false := fits_spread (by decide)
    have hsees : loneFolder.sees (spread 4090) fileName = none := by
      rw [Disk.sees, hfits, if_neg Bool.false_ne_true]
    rw [find_eq, hsees, parent?_spread]
    rfl

-- a directory under the name of a configuration is an error, though there is a configuration above
example :
    let disk : Disk :=
      { root := .directory
          [(fileName, .file (Utf8.encode "color.ui=\"never\"".toList)),
            ("a", .directory [(fileName, .directory [])])] }
    find disk "/a/." = .error (.unreadable "/a/./.txtlint.toml" .isDirectory) := rfl

end Config

end DocLint
