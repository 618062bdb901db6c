import DocLint.Command.Options
import DocLint.Config.Find
import DocLint.Files.Disk
import DocLint.Log.Basic

/-!
# Runs of the program

What a run of the program starts from and what it leaves behind, as values.

* `Surroundings` — the disk, the standard input and the environment;
* `Outcome` — what is printed, what is written, and the exit code.
-/

namespace DocLint.Command

open Files

/-- What a run starts from. -/
structure Surroundings where
  disk : Disk
  stdin : List UInt8 := []
  environment : List (String × String) := []

/-- How a run ends. -/
inductive Exit where
  | success
  /-- there is something to mend -/
  | issues
  /-- the run could not do what was asked -/
  | failure
deriving DecidableEq, Repr, Inhabited

/-- The exit code. -/
def Exit.code : Exit → Nat
  | success => 0
  | issues => 1
  | failure => 2

/-- Something printed on the standard error. -/
inductive Notice where
  | log (r : LogRecord)
  | line (text : String)
  | config (e : ConfigError)
  | usage (f : UsageFault)
deriving DecidableEq, Repr, Inhabited

/-- The text of a notice, without its line ending. -/
def Notice.text : Notice → String
  | log r => r.line
  | line text => text
  | config e => "Error: " ++ e.message
  | usage f => "error: " ++ f.message

/-- What a run leaves behind. -/
structure Outcome where
  exit : Exit
  output : String := ""
  notices : List Notice := []
  /-- the contents of files that are written, by path -/
  written : List (String × List UInt8) := []
deriving DecidableEq, Repr

/-- An outcome after some notices. -/
def Outcome.after (o : Outcome) (notices : List Notice) : Outcome :=
  { o with notices := notices ++ o.notices }

end DocLint.Command
