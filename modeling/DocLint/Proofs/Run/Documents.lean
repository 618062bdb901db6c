import DocLint.Proofs.Files.Selection
import DocLint.Proofs.Run.Outcomes

/-!
# Documents that are checked together

A run asks for one configuration, makes one linter of it, and lets that linter check each document
on its own. So what is found of a document depends on its path, its text and that configuration, and
on no other document that is named with it. The configuration is looked for from the directory of
the first document only: a document further back is checked as it would be alone exactly as far as
the configuration that governs it alone is that one.

* `found` — what a run finds of its documents, one result for each;
* `check_eq_of_governing`, `check_eq_of_unusable` — all that a run prints and how it ends come from
  these results, unless the configuration cannot be used;
* `Names` — the operands that stand for one document each;
* `governed` — the configuration of a document that is checked alone;
* `check_of_names` — a run over documents, as the configuration of the first decides it;
* `together_as_alone` — what is found of a document among others, and of the same document alone;
* `strangers_not_as_alone` — that this differs where the first document is governed in another way.
-/

namespace DocLint

open Files

namespace Command

/-- An operand that stands for one document: it is neither a pattern nor the sign for the standard
input, and there is a file where it leads. -/
structure Names (d : Disk) (operand : String) : Prop where
  ne_hyphen : operand ≠ "-"
  not_pattern : isPattern operand = false
  isFile : d.isFile operand = true

theorem names_iff {d : Disk} {operand : String} :
    Names d operand ↔ operand ≠ "-" ∧ isPattern operand = false ∧ d.isFile operand = true :=
  ⟨fun h => ⟨h.ne_hyphen, h.not_pattern, h.isFile⟩, fun h => ⟨h.1, h.2.1, h.2.2⟩⟩

instance (d : Disk) (operand : String) : Decidable (Names d operand) :=
  decidable_of_iff' _ names_iff

namespace Names

variable {d : Disk} {operand : String} {operands : List String}

/-- Such an operand stands for itself. -/
theorem expandArgument_eq (h : Names d operand) : expandArgument d operand = .ok [operand] := by
  have hfile := h.isFile
  have hdirectory : d.isDirectory operand = false := by
    rw [← Bool.not_eq_true]
    intro h
    rw [isFile_eq_false h] at hfile
    cases hfile
  rw [expandArgument, h.not_pattern, hdirectory, hfile]
  rfl

theorem selectFiles_eq (h : ∀ p ∈ operands, Names d p) :
    selectFiles d operands = .ok (dropRepeated [] operands) := by
  have hall : operands.mapM (expandArgument d) = .ok (operands.map fun p => [p]) := by
    induction operands with
    | nil => rfl
    | cons p ps ih =>
      obtain ⟨hp, hps⟩ := List.forall_mem_cons.1 h
      rw [List.mapM_cons, hp.expandArgument_eq, ih hps]
      rfl
  have hflatten : (operands.map fun p => [p]).flatten = operands := by
    rw [← List.flatMap_def, List.flatMap_singleton']
  rw [selectFiles, hall, Except.map, hflatten]

/-- Documents that are named are what a run is given. -/
theorem ofOptions_eq {s : Surroundings} {o : CheckOptions} (h : ∀ p ∈ o.files, Names s.disk p) :
    Input.ofOptions s o = .ok (.files (dropRepeated [] o.files)) := by
  have hstdin : o.files ≠ ["-"] := by
    intro hfiles
    rw [hfiles] at h
    exact (h "-" (List.mem_singleton_self _)).ne_hyphen rfl
  rw [Input.ofOptions, if_neg hstdin, selectFiles_eq h]

end Names

/-! ## What a run finds -/

/-- The linter of a run that a configuration governs. -/
def linterFor (o : CheckOptions) (c : Option Config) : Linter :=
  .ofConfig ((withKeyword o c).getD {})

/-- How the reports of such a run look. -/
def styleFor (s : Surroundings) (o : CheckOptions) (c : Option Config) : ReportStyle :=
  styleOf s o (withKeyword o c)

/-- What a linter finds of an input: one result for each document. -/
def Input.results (d : Disk) (o : CheckOptions) (l : Linter) : Input → List Checked
  | stdin source =>
    [.reported stdinName (l.report (if o.stdinMarkdown then .markdown else .plain) source)]
  | files paths => paths.map (checkFile d l)

/-- **What a run finds of its documents**, in their order. It finds nothing if it ends before any of
them is read. -/
def found (s : Surroundings) (o : CheckOptions) : List Checked :=
  match Input.ofOptions s o with
  | .error _ => []
  | .ok input =>
    match governing s.disk o input.directory with
    | .error _ => []
    | .ok (c, _) => input.results s.disk o (linterFor o c)

/-- The path of a document. -/
def Checked.path : Checked → String
  | unreadable path _ => path
  | rejected path _ => path
  | reported path _ => path

@[simp] theorem path_checkFile (d : Disk) (l : Linter) (p : String) : (checkFile d l p).path = p := by
  rw [checkFile]
  split <;> rfl

variable {s : Surroundings} {o : CheckOptions} {input : Input}

/-- Once its configuration is found, a run prints what it finds and ends as that says. -/
theorem check_eq_of_governing {c : Option Config} {said : List Notice} (hfiles : o.files ≠ [])
    (hinput : Input.ofOptions s o = .ok input)
    (hgov : governing s.disk o input.directory = .ok (c, said)) :
    (check s o).exit = exitOf o.noFailOnWarnings (found s o) ∧
      (check s o).output = String.join ((found s o).map (·.output (styleFor s o c))) := by
  have hfound : found s o = input.results s.disk o (linterFor o c) := by
    rw [found, hinput]
    simp only [hgov]
  have hcheck : check s o = (match input with
      | .stdin source => checkStdin o (styleFor s o c) (linterFor o c) source
      | .files paths => checkFiles s.disk o (styleFor s o c) (linterFor o c) paths).after
        (said ++ describe (linterFor o c)) := by
    rw [check, if_neg hfiles, hinput]
    simp only [hgov]
    rfl
  rw [hcheck, hfound]
  cases input with
  | stdin source =>
    constructor
    · exact (exitOf_reported ..).symm
    · rw [Input.results, List.map_singleton, String.join_cons, String.join_nil, String.append_empty]
      rfl
  | files paths => exact ⟨rfl, rfl⟩

/-- A configuration that cannot be used ends a run at once: nothing is found of any document, and
all that is said is what is wrong with the configuration. -/
theorem check_eq_of_unusable {e : ConfigError} (hfiles : o.files ≠ [])
    (hinput : Input.ofOptions s o = .ok input)
    (hgov : governing s.disk o input.directory = .error e) :
    check s o = { exit := .failure, notices := [.config e] } ∧ found s o = [] := by
  constructor
  · rw [check, if_neg hfiles, hinput]
    simp only [hgov]
  · rw [found, hinput]
    simp only [hgov]

/-! ## Together and alone

A run has one configuration, the one that is found for its first document. What it finds of a
document is told by that configuration and by the document (`findings`), in which runs over one
document and over several differ in the former at most. -/

/-- The configuration that governs a document that is checked alone, if there is one; nothing if the
one that is there cannot be used. -/
def governed (d : Disk) (path : String) : Option (Option Config) :=
  (Config.find d (Input.files [path]).directory).toOption.map fun c => c.map Prod.snd

/-- What a run that is governed in some way finds of a document. -/
def findings (d : Disk) (o : CheckOptions) (c : Option (Option Config)) (path : String) :
    List Checked :=
  (c.map fun c => checkFile d (linterFor o c) path).toList

/-- What such a run prints of some documents. -/
def printed (s : Surroundings) (o : CheckOptions) (c : Option (Option Config))
    (paths : List String) : String :=
  c.elim "" fun c => String.join (paths.map fun p =>
    (checkFile s.disk (linterFor o c) p).output (styleFor s o c))

/-- How such a run ends. -/
def ending (d : Disk) (o : CheckOptions) (c : Option (Option Config)) (paths : List String) : Exit :=
  c.elim .failure fun c => exitOf o.noFailOnWarnings (paths.map (checkFile d (linterFor o c)))

theorem governing_of_governed {d : Disk} {path : String} (hconfig : o.config = none) :
    (governing d o (Input.files [path]).directory).toOption.map Prod.fst = governed d path := by
  rw [governing, hconfig, governed]
  cases Config.find d (Input.files [path]).directory with
  | error e => rfl
  | ok nearest => cases nearest <;> rfl

theorem flatMap_findings (d : Disk) (o : CheckOptions) (c : Option (Option Config))
    (paths : List String) :
    paths.flatMap (findings d o c) =
      c.elim [] fun c => paths.map (checkFile d (linterFor o c)) := by
  cases c with
  | none => exact List.flatMap_eq_nil_iff.2 fun _ _ => rfl
  | some c => exact List.map_eq_flatMap.symm

/-- A document that is selected once is found once, so that its findings can be told from those of
the other documents by its path. -/
theorem filter_flatMap_findings (d : Disk) (o : CheckOptions) (c : Option (Option Config))
    {p : String} {paths : List String} (hnodup : paths.Nodup) (hp : p ∈ paths) :
    (paths.flatMap (findings d o c)).filter (·.path == p) = findings d o c p := by
  rw [flatMap_findings]
  cases c with
  | none => rfl
  | some c =>
    have hpath : (fun r : Checked => r.path == p) ∘ checkFile d (linterFor o c) = (· == p) := by
      funext q
      rw [Function.comp_apply, path_checkFile]
    rw [Option.elim_some, List.filter_map, hpath, List.filter_beq,
      List.count_eq_one_of_mem hnodup hp]
    rfl

/-- Documents are printed one after the other, so that what is printed of several is what is printed
of each. -/
theorem printed_eq_join (s : Surroundings) (o : CheckOptions) (c : Option (Option Config))
    (paths : List String) :
    printed s o c paths = String.join (paths.map fun p => printed s o c [p]) := by
  cases c with
  | none =>
    induction paths with
    | nil => rfl
    | cons p ps ih => rw [List.map_cons, String.join_cons, ← ih]; rfl
  | some c =>
    refine congrArg String.join (List.map_congr_left fun p _ => ?_)
    rw [printed, Option.elim_some, List.map_singleton, String.join_cons, String.join_nil,
      String.append_empty]

/-- A run over documents ends as the worst of them, and a failure is as bad as it gets. -/
theorem code_ending (d : Disk) (o : CheckOptions) (c : Option (Option Config)) (p : String)
    (ps : List String) :
    (ending d o c (p :: ps)).code =
      ((p :: ps).map fun q => (ending d o c [q]).code).foldr max 0 := by
  cases c with
  | none =>
    induction ps with
    | nil => rfl
    | cons q ps ih => exact congrArg (max Exit.failure.code) ih
  | some c =>
    rw [ending, Option.elim_some, code_exitOf, List.map_map]
    rfl

variable {first : String} {rest : List String}

/-- **A run over documents that are named** is governed as the first of them is alone, and that
decides with the paths and texts of the documents what the run finds, prints and ends with. -/
theorem check_of_names (hfiles : o.files = first :: rest)
    (hnames : ∀ p ∈ o.files, Names s.disk p) (hconfig : o.config = none) :
    found s o = (dropRepeated [] o.files).flatMap (findings s.disk o (governed s.disk first)) ∧
      (check s o).output = printed s o (governed s.disk first) (dropRepeated [] o.files) ∧
      (check s o).exit = ending s.disk o (governed s.disk first) (dropRepeated [] o.files) := by
  have hne : o.files ≠ [] := by
    rw [hfiles]
    exact List.cons_ne_nil first rest
  have hinput := Names.ofOptions_eq hnames
  have hdirectory : (Input.files (dropRepeated [] o.files)).directory =
      (Input.files [first]).directory := by
    rw [hfiles]
    rfl
  -- the search starts where the first document is, whatever is dropped behind it
  rw [← governing_of_governed hconfig, ← hdirectory, flatMap_findings]
  cases hgov : governing s.disk o (Input.files (dropRepeated [] o.files)).directory with
  | error e =>
    obtain ⟨hcheck, hfound⟩ := check_eq_of_unusable hne hinput hgov
    rw [hcheck]
    exact ⟨hfound, rfl, rfl⟩
  | ok known =>
    obtain ⟨c, said⟩ := known
    have hfound : found s o =
        (dropRepeated [] o.files).map (checkFile s.disk (linterFor o c)) := by
      rw [found, hinput]
      simp only [hgov]
      rfl
    obtain ⟨hexit, houtput⟩ := check_eq_of_governing hne hinput hgov
    rw [hexit, houtput, hfound, List.map_map]
    exact ⟨rfl, rfl, rfl⟩

/-- The same for a document that is checked alone. -/
theorem check_of_name {p : String} (hp : Names s.disk p) (hconfig : o.config = none) :
    found s { o with files := [p] } = findings s.disk o (governed s.disk p) p ∧
      (check s { o with files := [p] }).output = printed s o (governed s.disk p) [p] ∧
      (check s { o with files := [p] }).exit = ending s.disk o (governed s.disk p) [p] := by
  obtain ⟨hfound, houtput, hexit⟩ := @check_of_names s { o with files := [p] } p [] rfl
    (List.forall_mem_singleton.2 hp) hconfig
  exact ⟨hfound.trans (List.flatMap_singleton ..), houtput, hexit⟩

/-- **Documents are checked each on its own, under the configuration of the first.** What a run
finds of a document is what its path and its text give under the configuration that governs the
first document alone; when it is checked alone, under the one that governs itself. Where both are
the same, the document is found the same whatever is checked with it and in whatever order; and if
that holds of all documents, the run prints what the single runs print and ends as the worst of
them. -/
theorem together_as_alone (hfiles : o.files = first :: rest)
    (hnames : ∀ p ∈ o.files, Names s.disk p) (hconfig : o.config = none) :
    (∃ style, (check s o).output = String.join ((found s o).map (·.output style))) ∧
    (∀ p ∈ dropRepeated [] o.files,
      (found s o).filter (·.path == p) = findings s.disk o (governed s.disk first) p ∧
      found s { o with files := [p] } = findings s.disk o (governed s.disk p) p) ∧
    (∀ p ∈ dropRepeated [] o.files, governed s.disk p = governed s.disk first →
      (found s o).filter (·.path == p) = found s { o with files := [p] }) ∧
    ((∀ p ∈ dropRepeated [] o.files, governed s.disk p = governed s.disk first) →
      (check s o).output =
        String.join ((dropRepeated [] o.files).map fun p =>
          (check s { o with files := [p] }).output) ∧
      (check s o).exit.code =
        ((dropRepeated [] o.files).map fun p =>
          (check s { o with files := [p] }).exit.code).foldr max 0) := by
  obtain ⟨hfound, houtput, hexit⟩ := check_of_names hfiles hnames hconfig
  have hname : ∀ p ∈ dropRepeated [] o.files, Names s.disk p :=
    fun p hp => hnames p (mem_of_mem_dropRepeated hp)
  -- one document among others: only its own findings bear its path, as no path is taken twice
  have hone : ∀ p ∈ dropRepeated [] o.files,
      (found s o).filter (·.path == p) = findings s.disk o (governed s.disk first) p ∧
      found s { o with files := [p] } = findings s.disk o (governed s.disk p) p := by
    intro p hp
    refine ⟨?_, (check_of_name (hname p hp) hconfig).1⟩
    rw [hfound]
    exact filter_flatMap_findings _ _ _ (nodup_dropRepeated [] o.files) hp
  refine ⟨?_, hone, ?_, ?_⟩
  · -- all that is printed comes from the findings, in the style of the one configuration
    rw [houtput, hfound, flatMap_findings]
    cases governed s.disk first with
    | none => exact ⟨{}, rfl⟩
    | some c =>
      refine ⟨styleFor s o c, ?_⟩
      rw [Option.elim_some, List.map_map]
      rfl
  · intro p hp hgov
    obtain ⟨htogether, halone⟩ := hone p hp
    rw [htogether, halone, hgov]
  · intro hall
    constructor
    · rw [houtput, printed_eq_join]
      refine congrArg String.join (List.map_congr_left fun p hp => ?_)
      rw [← hall p hp]
      exact (check_of_name (hname p hp) hconfig).2.1.symm
    · -- the worst ending of the single runs is the ending of the whole
      rw [hexit, hfiles, dropRepeated_cons, code_ending, ← dropRepeated_cons, ← hfiles]
      refine congrArg (List.foldr max 0) (List.map_congr_left fun p hp => ?_)
      rw [← hall p hp]
      exact congrArg Exit.code (check_of_name (hname p hp) hconfig).2.2.symm

/-- Two folders with a document each, of which one has a configuration that turns the marker rule
off. -/
def twoFolders : Disk where
  root := .directory
    [("a", .directory
        [(Config.fileName, .file (Utf8.encode "rules.no-todo.enabled=false".toList)),
          ("x.txt", .file (Utf8.encode "todo: x".toList))]),
      ("b", .directory
        [("y.txt", .file (Utf8.encode "todo: y".toList)), ("z.txt", .file [0xFF])])]

/-- Neighbours are governed alike, even if one of them is no text. They are in one directory, and so
they have one configuration. -/
theorem neighbours_as_alone :
    (∀ p ∈ ["b/z.txt", "b/y.txt"], Names twoFolders p) ∧
    (∀ p ∈ ["b/z.txt", "b/y.txt"], governed twoFolders p = governed twoFolders "b/z.txt") ∧
    (found { disk := twoFolders } { files := ["b/z.txt", "b/y.txt"] }).filter (·.path == "b/y.txt") =
      found { disk := twoFolders } { files := ["b/y.txt"] } ∧
    (check { disk := twoFolders } { files := ["b/z.txt", "b/y.txt"] }).exit.code =
      ([Exit.failure, Exit.issues].map Exit.code).foldr max 0 := by
  have hnames : ∀ p ∈ ["b/z.txt", "b/y.txt"], Names twoFolders p := by decide +kernel
  have hgov : ∀ p ∈ ["b/z.txt", "b/y.txt"],
      governed twoFolders p = governed twoFolders "b/z.txt" := by decide +kernel
  obtain ⟨-, -, hone, hall⟩ :=
    @together_as_alone { disk := twoFolders } { files := ["b/z.txt", "b/y.txt"] } _ _ rfl hnames rfl
  refine ⟨hnames, hgov, hone "b/y.txt" (by decide) (hgov _ (by decide)), ?_⟩
  rw [(hall hgov).2]
  decide +kernel

/-- **The first document decides for the others.** A marker that is found when its document is
checked alone is not found when a document of another folder comes first. -/
theorem strangers_not_as_alone :
    (∀ p ∈ ["a/x.txt", "b/y.txt"], Names twoFolders p) ∧
    (found { disk := twoFolders } { files := ["a/x.txt", "b/y.txt"] }).filter
        (·.path == "b/y.txt") ≠
      found { disk := twoFolders } { files := ["b/y.txt"] } := by
  decide +kernel

end Command

end DocLint
