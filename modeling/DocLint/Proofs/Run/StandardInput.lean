import DocLint.Proofs.Configuration.Nearest
import DocLint.Proofs.Run.Documents

/-!
# The standard input and a file in the working directory

The standard input is a document without a path, and its configuration is looked for from `.`. A
file that is named without a directory has the empty text for its directory, and the search starts
there. Both searches look at one place only, which they spell differently: the dot leads nowhere
else. So both runs find the same configuration or fail over it in the same way, and they report the
same of the same text under two names.

* `Config.find_here` — the configuration of the working directory, from either spelling of it;
* `PlainName` — the operands that name a file in the working directory without its directory;
* `stdin_as_file` — a text from the standard input and the same text in a file.
-/

namespace DocLint

open Files

namespace Files

/-! ## Paths in the working directory -/

namespace Path

theorem cutTrailing_of_not_mem {cs : List Char} (h : '/' ∉ cs) : cutTrailing cs = cs := by
  unfold cutTrailing
  split
  · exact absurd (List.mem_cons_self ..) h
  · exact absurd (List.mem_cons_of_mem _ (List.mem_cons_self ..)) h
  · rfl

/-- Above a name alone there is the empty path, which stands for the working directory here. -/
theorem parent?_of_not_mem {name : String} (hne : name ≠ "") (h : '/' ∉ name.toList) :
    parent? name = some "" := by
  have hreverse : '/' ∉ name.toList.reverse := by rwa [List.mem_reverse]
  have hdrop : name.toList.reverse.dropWhile (· != '/') = [] := by
    rw [← List.append_nil name.toList.reverse, List.dropWhile_append_of_pos]
    · rfl
    · intro c hc
      rw [bne_iff_ne]
      rintro rfl
      exact hreverse hc
  have hnonempty : name.toList.reverse.isEmpty = false := by
    rw [List.isEmpty_eq_false_iff, ne_eq, List.reverse_eq_nil_iff, String.toList_eq_nil_iff]
    exact hne
  simp [parent?, isAbsolute_eq_false h, cutTrailing_of_not_mem hreverse, hdrop, hnonempty,
    cutTrailing]

end Path

end Files

/-! ## The configuration of the working directory

For the standard input the search starts from a dot, and for a plain name from the empty path above
it. A dot takes one round more, but this asks for the same file as the round behind it, by another
path. -/

namespace Config

/-- The path of the configuration of the working directory, as a search from a dot spells it. -/
def herePath : String := "./" ++ fileName

/-- **The configuration of the working directory** is found from a dot as from the empty path. -/
theorem find_here (d : Disk) :
    find d "." = ((find d "").map fun c => c.map fun c => (herePath, c.2)).mapError
      (ConfigError.about herePath) := by
  -- the dot is no step, so that both paths stand for one directory
  have hreach : d.reach "." = d.reach "" := d.reach_congr (by decide) (by decide)
  have hsees : d.sees "." fileName = d.sees "" fileName := by
    rw [Disk.sees, Disk.sees, if_pos (by decide), if_pos (by decide), Disk.holds, Disk.holds, hreach]
  have hup : Path.parent? "." = some "" := by decide
  have htop : Path.parent? "" = none := by decide
  rw [find_eq d ".", find_eq d "", hsees, hup, htop]
  cases hhere : d.sees "" fileName with
  | some e =>
    have hpath : Path.join "." fileName = herePath := by decide
    dsimp only
    rw [hpath, ofEntry_about herePath (Path.join "" fileName)]
    cases ofEntry (Path.join "" fileName) e <;> rfl
  | none =>
    change find d "" = _
    rw [find_eq d "", hhere, htop]
    rfl

end Config

namespace Command

/-! ## Two runs -/

/-- An operand that names a file in the working directory, without its directory. It could be read
as a pattern, or stand for the standard input, but does neither. -/
structure PlainName (name : String) : Prop where
  no_slash : '/' ∉ name.toList
  not_pattern : isPattern name = false
  ne_hyphen : name ≠ "-"

theorem plainName_iff {name : String} :
    PlainName name ↔ '/' ∉ name.toList ∧ isPattern name = false ∧ name ≠ "-" :=
  ⟨fun h => ⟨h.no_slash, h.not_pattern, h.ne_hyphen⟩, fun h => ⟨h.1, h.2.1, h.2.2⟩⟩

instance (name : String) : Decidable (PlainName name) := decidable_of_iff' _ plainName_iff

/-- A search from the working directory ends alike from either spelling of it. It is the same file
that is found, or the same that is wrong with it. -/
theorem governing_here (d : Disk) (o : CheckOptions) :
    (∃ c said said', governing d o "." = .ok (c, said) ∧ governing d o "" = .ok (c, said')) ∨
      ∃ e e', ConfigError.cause e = e'.cause ∧ governing d o "." = .error e ∧
        governing d o "" = .error e' := by
  rw [governing, governing]
  cases o.config with
  | some path =>
    -- the configuration is named: nothing is searched for
    dsimp only
    cases Config.load d path with
    | error e => exact .inr ⟨e, e, rfl, rfl, rfl⟩
    | ok c => exact .inl ⟨some c, _, _, rfl, rfl⟩
  | none =>
    simp only [Config.find_here]
    cases Config.find d "" with
    | error e => exact .inr ⟨_, e, e.cause_about _, rfl, rfl⟩
    | ok nearest =>
      cases nearest with
      | none => exact .inl ⟨none, _, _, rfl, rfl⟩
      | some place => exact .inl ⟨some place.2, _, _, rfl, rfl⟩

variable {s : Surroundings} {o : CheckOptions} {name : String} {source : List Char}
  {c : Option Config} {said : List Notice}

/-- A run that reports of one document prints that report and ends as it says. -/
theorem check_of_reported {input : Input} {path : String} {report : Report} (hfiles : o.files ≠ [])
    (hinput : Input.ofOptions s o = .ok input)
    (hgov : governing s.disk o input.directory = .ok (c, said))
    (hfound : found s o = [.reported path report]) :
    (check s o).exit =
        (if needMending o.noFailOnWarnings report.diagnostics then .issues else .success) ∧
      (check s o).output = report.render (styleFor s o c) path := by
  obtain ⟨hexit, houtput⟩ := check_eq_of_governing hfiles hinput hgov
  rw [hexit, houtput, hfound, exitOf_reported, List.map_singleton, String.join_cons, String.join_nil,
    String.append_empty]
  exact ⟨rfl, rfl⟩

/-- What is read from the standard input is what a run from it is given. -/
theorem ofOptions_stdin (hfiles : o.files = ["-"]) (hstdin : Utf8.decode? s.stdin = some source) :
    Input.ofOptions s o = .ok (.stdin source) := by
  rw [Input.ofOptions, if_pos hfiles, hstdin]

theorem found_stdin (hfiles : o.files = ["-"]) (hstdin : Utf8.decode? s.stdin = some source)
    (hgov : governing s.disk o "." = .ok (c, said)) :
    found s o = [.reported Input.stdinName
      ((linterFor o c).report (if o.stdinMarkdown then .markdown else .plain) source)] := by
  rw [found, ofOptions_stdin hfiles hstdin]
  simp only [Input.directory, hgov]
  rfl

namespace PlainName

/-- The document that a plain name stands for is in the working directory. -/
theorem names (hname : PlainName name) {bytes : List UInt8}
    (hfile : s.disk.entry name = .ok (.file bytes)) : Names s.disk name where
  ne_hyphen := hname.ne_hyphen
  not_pattern := hname.not_pattern
  isFile := by rw [Disk.isFile, hfile]; rfl

theorem ofOptions_eq (hname : PlainName name) (hfiles : o.files = [name]) {bytes : List UInt8}
    (hfile : s.disk.entry name = .ok (.file bytes)) :
    Input.ofOptions s o = .ok (.files [name]) := by
  have hnames : ∀ p ∈ o.files, Names s.disk p := by
    rw [hfiles]
    exact List.forall_mem_singleton.2 (hname.names hfile)
  rw [Names.ofOptions_eq hnames, hfiles]
  rfl

theorem directory_eq (hname : PlainName name) {bytes : List UInt8}
    (hfile : s.disk.entry name = .ok (.file bytes)) : (Input.files [name]).directory = "" := by
  have hne : name ≠ "" := by
    rintro rfl
    cases hfile
  rw [Input.directory, Path.parent?_of_not_mem hne hname.no_slash]
  rfl

theorem found_eq (hname : PlainName name) (hfiles : o.files = [name]) {bytes : List UInt8}
    (hfile : s.disk.entry name = .ok (.file bytes)) (htext : Utf8.decode? bytes = some source)
    (hgov : governing s.disk o "" = .ok (c, said)) :
    found s o = [.reported name ((linterFor o c).report (.ofPath name) source)] := by
  have hread : s.disk.readText name = .ok source := by
    rw [Disk.readText, hfile, Except.bind, Disk.textOf, htext]
  rw [← hname.directory_eq hfile] at hgov
  rw [found, hname.ofOptions_eq hfiles hfile]
  simp only [hgov, Input.results, List.map_singleton, checkFile, hread]

end PlainName

/-- **The standard input and a file agree.** A text from the standard input and the same text in a
file in the working directory, whose name tells the format, are checked alike, whatever else is
asked for. Either the configuration cannot be used, and both runs end over it for the same cause; or
one configuration governs both, both report the same, diagnostics in order and count, each under its
own name, and both end in the same way. -/
theorem stdin_as_file {markdown : Bool} (hname : PlainName name)
    (hformat : Document.Format.ofPath name = if markdown then .markdown else .plain)
    (hstdin : Utf8.decode? s.stdin = some source)
    (hfile : s.disk.entry name = .ok (.file s.stdin)) :
    let piped := { o with files := ["-"], stdinMarkdown := markdown }
    let named := { o with files := [name] }
    (check s piped).exit = (check s named).exit ∧
    ((∃ e e', ConfigError.cause e = e'.cause ∧
        check s piped = { exit := .failure, notices := [.config e] } ∧
        check s named = { exit := .failure, notices := [.config e'] }) ∨
      ∃ c report, report = (linterFor o c).report (if markdown then .markdown else .plain) source ∧
        found s piped = [.reported Input.stdinName report] ∧
        found s named = [.reported name report] ∧
        (check s piped).output = report.render (styleFor s o c) Input.stdinName ∧
        (check s named).output = report.render (styleFor s o c) name) := by
  intro piped named
  have hpiped : Input.ofOptions s piped = .ok (.stdin source) := ofOptions_stdin rfl hstdin
  have hnamed : Input.ofOptions s named = .ok (.files [name]) := hname.ofOptions_eq rfl hfile
  have hpiped_ne : piped.files ≠ [] := List.cons_ne_nil "-" []
  have hnamed_ne : named.files ≠ [] := List.cons_ne_nil name []
  have hdirectory := hname.directory_eq hfile
  -- both searches for a configuration come to the same, or fail over the same cause
  rcases governing_here s.disk o with ⟨c, said, said', hdot, hempty⟩ | ⟨e, e', hcause, hdot, hempty⟩
  · have hfound : found s piped = [.reported Input.stdinName
        ((linterFor o c).report (if markdown then .markdown else .plain) source)] :=
      found_stdin rfl hstdin hdot
    have hfound' : found s named =
        [.reported name ((linterFor o c).report (if markdown then .markdown else .plain) source)] := by
      rw [← hformat]
      exact hname.found_eq rfl hfile hstdin hempty
    rw [← hdirectory] at hempty
    obtain ⟨hexit, houtput⟩ := check_of_reported hpiped_ne hpiped hdot hfound
    obtain ⟨hexit', houtput'⟩ := check_of_reported hnamed_ne hnamed hempty hfound'
    exact ⟨hexit.trans hexit'.symm, .inr ⟨c, _, rfl, hfound, hfound', houtput, houtput'⟩⟩
  · rw [← hdirectory] at hempty
    obtain ⟨hcheck, -⟩ := check_eq_of_unusable hpiped_ne hpiped hdot
    obtain ⟨hcheck', -⟩ := check_eq_of_unusable hnamed_ne hnamed hempty
    rw [hcheck, hcheck']
    exact ⟨rfl, .inl ⟨e, e', hcause, rfl, rfl⟩⟩

/-- A Markdown document beside a configuration, and the same text on the standard input. -/
def oneDocument : Surroundings where
  disk :=
    { root := .directory
        [(Config.fileName, .file (Utf8.encode "color.ui=\"always\"".toList)),
          ("doc.md", .file (Utf8.encode "<!-- skip -->\ntodo: a".toList))] }
  stdin := Utf8.encode "<!-- skip -->\ntodo: a".toList

/-- Both ways of reading the document end alike. The directive in it has the keyword that is set for
both runs. -/
theorem oneDocument_either_way :
    PlainName "doc.md" ∧ Document.Format.ofPath "doc.md" = .markdown ∧
    Utf8.decode? oneDocument.stdin = some "<!-- skip -->\ntodo: a".toList ∧
    oneDocument.disk.entry "doc.md" = .ok (.file oneDocument.stdin) ∧
    (check oneDocument { files := ["-"], stdinMarkdown := true, keyword := some "skip" }).exit =
      (check oneDocument { files := ["doc.md"], keyword := some "skip" }).exit := by
  have hname : PlainName "doc.md" := by decide
  have hformat : Document.Format.ofPath "doc.md" = if true then .markdown else .plain := by decide
  have hstdin : Utf8.decode? oneDocument.stdin = some "<!-- skip -->\ntodo: a".toList := by
    decide +kernel
  have hfile : oneDocument.disk.entry "doc.md" = .ok (.file oneDocument.stdin) := rfl
  have h := @stdin_as_file oneDocument { keyword := some "skip" } _ _ true hname hformat hstdin hfile
  exact ⟨hname, hformat, hstdin, hfile, h.1⟩

end Command

end DocLint
