import DocLint.Command.Check
import DocLint.Config.Template

/-!
# The program

* `writeTemplate` — the run that writes a configuration to start from;
* `Request.reads` — the files that a run may read;
* `run` — the run that some arguments ask for.
-/

namespace DocLint.Command

open Files

/-- Write a configuration to start from. What is there already is kept unless that is asked for
otherwise. -/
def writeTemplate (d : Disk) (o : InitOptions) : Outcome :=
  if d.leads o.output && !o.force then
    { exit := .issues
      notices := [.line s!"Error: {o.output} already exists. Use --force to overwrite."] }
  else
    let bytes := Utf8.encode Config.template.toList
    match d.write o.output bytes with
    | .ok _ =>
      { exit := .success, notices := [.line ("Created " ++ o.output)]
        written := [(o.output, bytes)] }
    | .error fault =>
      { exit := .failure
        notices := [.line s!"Error writing {o.output}: {fault.message}"] }

/-- The outcome with the log records that are shown, after what makes no sense in the filter for
them. -/
def showLog (environment : List (String × String)) (verbose : Bool) (o : Outcome) : Outcome :=
  let (filter, wrong) := logFilter environment verbose
  { o with
    notices := (wrong.map fun m => .line s!"warning: {m}, ignoring it") ++
      o.notices.filter fun
        | .log r => filter.shows r
        | _ => true }

/-- The run for a request. -/
def Request.run (s : Surroundings) : Request → Outcome
  | .check o => showLog s.environment o.verbose (Command.check s o)
  | .init verbose o => showLog s.environment verbose (writeTemplate s.disk o)
  | .help topic => { exit := .success, output := topic.text }
  | .version => { exit := .success, output := versionText }
  | .incomplete topic =>
    { exit := .failure
      notices := topic.lines.map .line }

/-- Whether a run for a request reads the standard input. -/
def Request.readsStdin : Request → Bool
  | .check o => o.files = ["-"]
  | _ => false

/-- The files whose contents a run for a request may depend on; the names on the disk decide which
they are. -/
def Request.reads (d : Disk) : Request → List String
  | .check o =>
    let input : Input :=
      if o.files = ["-"] then .stdin [] else .files ((selectFiles d o.files).toOption.getD [])
    let documents := match input with
      | .stdin _ => []
      | .files paths => paths
    documents ++ o.config.toList ++ Config.places input.directory
  | .init _ _ => []
  | .help _ => []
  | .version => []
  | .incomplete _ => []

/-- The run that some arguments ask for. -/
def run (s : Surroundings) (arguments : List String) : Outcome :=
  match Request.parse arguments with
  | .ok r => r.run s
  | .error f => { exit := .failure, notices := [.usage f] }

end DocLint.Command
