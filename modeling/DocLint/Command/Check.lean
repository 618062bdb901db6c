import DocLint.Command.Environment
import DocLint.Command.Help
import DocLint.Command.Outcome
import DocLint.Command.Request
import DocLint.Document.Parse
import DocLint.Files.Selection

/-!
# Checking documents

Documents are checked by one linter, which one configuration asks for: the one that is named, or
else the one that governs the directory of the first document. Each document is read and checked on
its own, and the reports are printed in the order of the documents. The standard input is one
document without a name of its own.

* `governing` — the configuration of a run;
* `checkFile` — one document; `exitOf` — how a run ends after all of them;
* `conclude` — what is printed of them all;
* `check` — the whole run.
-/

namespace DocLint

namespace Linter

/-- What is reported of a source in a format. -/
def report (l : Linter) (format : Document.Format) (source : List Char) : Report :=
  l.lint source (Document.parse format source)

/-- What is said while a document is checked. -/
def records (l : Linter) (source : List Char) (document : Node) : List LogRecord :=
  let found := (l.check source document).length
  let ranges := (l.ranges source document).length
  (l.filters.flatMap fun f => (f.events source document).map fun e =>
      ⟨.debug, "txtlint::filter::disable_next_line", e.message⟩) ++
    [⟨.debug, "txtlint::linter",
      s!"{found} error(s) before filtering, {ranges} ignore range(s)"⟩]

end Linter

namespace Command

open Files

/-- The part of the program that checks documents. -/
def checkTarget : String := "txtlint::cli::lint"

/-- Something said by that part. -/
def info (message : String) : Notice := .log ⟨.info, checkTarget, message⟩

/-- Something said by that part to those who want to know more. -/
def debug (message : String) : Notice := .log ⟨.debug, checkTarget, message⟩

/-! ## What is checked -/

/-- What is to be checked. -/
inductive Input where
  | stdin (source : List Char)
  | files (paths : List String)
deriving DecidableEq, Repr, Inhabited

namespace Input

/-- The name of the standard input in reports. -/
def stdinName : String := "<stdin>"

/-- The directory whose configuration governs the run: that of the first document, and the working
directory if there is none. -/
def directory : Input → String
  | stdin _ => "."
  | files (path :: _) => (Path.parent? path).getD "."
  | files [] => "."

/-- What some options name. A hyphen alone stands for the standard input. -/
def ofOptions (s : Surroundings) (o : CheckOptions) : Except String Input :=
  if o.files = ["-"] then
    match Utf8.decode? s.stdin with
    | some source => .ok (.stdin source)
    | none => .error ("Error reading from stdin: " ++ Fault.notText.message)
  else
    match selectFiles s.disk o.files with
    | .ok paths => .ok (.files paths)
    | .error e => .error ("Error: " ++ e.message)

end Input

/-! ## The configuration -/

/-- The configuration of a run, if there is one, and what is said about it. -/
def governing (d : Disk) (o : CheckOptions) (directory : String) :
    Except ConfigError (Option Config × List Notice) :=
  match o.config with
  | some path => (Config.load d path).map fun c => (some c, [info ("using config: " ++ path)])
  | none =>
    (Config.find d directory).map fun
      | some (path, c) => (some c, [.log ⟨.debug, "txtlint::config", "loaded " ++ path⟩])
      | none => (none, [])

/-- The configuration with the keyword that the options ask for. -/
def withKeyword (o : CheckOptions) (c : Option Config) : Option Config :=
  match o.keyword with
  | some keyword => some ((c.getD {}).setKeyword keyword)
  | none => c

/-- Whether reports are coloured: as the options say, else the configuration, else the
environment. -/
def colored (s : Surroundings) (o : CheckOptions) (c : Option Config) : Bool :=
  if o.color then true
  else if o.noColor then false
  else ((c.bind (·.palette.mode.decision?))).getD (colorWanted s.environment)

/-- How reports look. -/
def styleOf (s : Surroundings) (o : CheckOptions) (c : Option Config) : ReportStyle :=
  { format := o.format, palette := (c.getD {}).palette, colored := colored s o c }

/-- What is said about a linter. -/
def describe (l : Linter) : List Notice :=
  (l.rules.map fun r => debug s!"rule {r.name}: {r.description}") ++
    l.filters.map fun _ => debug s!"filter {NextNodeFilter.name}: {NextNodeFilter.description}"

/-! ## Documents -/

/-- What became of a document. -/
inductive Checked where
  | unreadable (path : String) (fault : Fault)
  /-- the text is no document of its format -/
  | rejected (path : String) (message : String)
  | reported (path : String) (report : Report)
deriving DecidableEq, Repr

/-- Check one document. Every text is a document of either format, so none is rejected. -/
def checkFile (d : Disk) (l : Linter) (path : String) : Checked :=
  match d.readText path with
  | .error fault => .unreadable path fault
  | .ok source => .reported path (l.report (.ofPath path) source)

/-- What is said while a document is checked. -/
def fileNotices (d : Disk) (l : Linter) (path : String) : List Notice :=
  match d.readText path with
  | .error _ => []
  | .ok source =>
    let document := Document.parse (.ofPath path) source
    let report := l.lint source document
    info ("linting " ++ path) :: (l.records source document).map .log ++
      [debug s!"{path}: {report.diagnostics.length} error(s), {report.ignored} ignored"]

namespace Checked

/-- The report of a document as it is printed. -/
def output (style : ReportStyle) : Checked → String
  | unreadable _ _ => ""
  | rejected _ _ => ""
  | reported path report => report.render style path

/-- What is said of a document that has no report. -/
def notices : Checked → List Notice
  | unreadable path fault => [.line s!"Error reading {path}: {fault.message}"]
  | rejected path message => [.line s!"Error parsing {path}: {message}"]
  | reported _ _ => []

/-- The diagnostics of a document. -/
def diagnostics : Checked → List Diagnostic
  | unreadable _ _ => []
  | rejected _ _ => []
  | reported _ report => report.diagnostics

/-- Whether a document could not be read. -/
def isUnreadable : Checked → Bool
  | unreadable _ _ => true
  | rejected _ _ => false
  | reported _ _ => false

/-- Whether a document was read and makes no sense. -/
def isRejected : Checked → Bool
  | unreadable _ _ => false
  | rejected _ _ => true
  | reported _ _ => false

end Checked

/-- Whether some diagnostics are something to mend. -/
def needMending (noFailOnWarnings : Bool) (ds : List Diagnostic) : Bool :=
  if noFailOnWarnings then ds.any (·.severity = .error) else !ds.isEmpty

/-- How a run ends. -/
def exitOf (noFailOnWarnings : Bool) (documents : List Checked) : Exit :=
  if documents.any Checked.isUnreadable then .failure
  else if documents.any Checked.isRejected ||
      needMending noFailOnWarnings (documents.flatMap Checked.diagnostics) then .issues
  else .success

/-! ## The run -/

/-- What a run prints and how it ends once its documents are checked. -/
def conclude (o : CheckOptions) (style : ReportStyle) (documents : List Checked) : Outcome :=
  { exit := exitOf o.noFailOnWarnings documents
    output := String.join (documents.map (·.output style))
    notices := documents.flatMap Checked.notices }

/-- Check files. -/
def checkFiles (d : Disk) (o : CheckOptions) (style : ReportStyle) (l : Linter)
    (paths : List String) : Outcome :=
  (conclude o style (paths.map (checkFile d l))).after
    (info s!"linting {paths.length} file(s)" :: paths.flatMap (fileNotices d l))

/-- Check the standard input. -/
def checkStdin (o : CheckOptions) (style : ReportStyle) (l : Linter)
    (source : List Char) : Outcome :=
  let format : Document.Format := if o.stdinMarkdown then .markdown else .plain
  let report := l.report format source
  { exit := if needMending o.noFailOnWarnings report.diagnostics then .issues else .success
    output := report.render style Input.stdinName
    notices := (l.records source (Document.parse format source)).map .log }

/-- Check what some options name. -/
def check (s : Surroundings) (o : CheckOptions) : Outcome :=
  if o.files = [] then
    { exit := .failure, output := HelpTopic.program.text, notices := [.line ""] }
  else
    match Input.ofOptions s o with
    | .error message => { exit := .failure, notices := [.line message] }
    | .ok input =>
      match governing s.disk o input.directory with
      | .error e => { exit := .failure, notices := [.config e] }
      | .ok (found, said) =>
        let c := withKeyword o found
        let style := styleOf s o c
        let l := Linter.ofConfig (c.getD {})
        let outcome :=
          match input with
          | .stdin source => checkStdin o style l source
          | .files paths => checkFiles s.disk o style l paths
        outcome.after (said ++ describe l)

end Command

end DocLint
