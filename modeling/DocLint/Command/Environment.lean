import DocLint.Log.Basic

/-!
# What the environment asks for

* `colorWanted` — whether reports are coloured if nothing else decides;
* `logFilter` — which log records are shown.
-/

namespace DocLint.Command

/-- The value of a variable. -/
def setting? (environment : List (String × String)) (name : String) : Option String :=
  environment.lookup name

/-- Whether reports are coloured. Their output goes to no terminal, so they are not, unless colours
are forced; a zero forces nothing. -/
def colorWanted (environment : List (String × String)) : Bool :=
  (setting? environment "CLICOLOR_FORCE").any (· != "0")

/-- The level to which log records are shown unless the environment says otherwise. -/
def defaultLevel (verbose : Bool) : LogLevel := if verbose then .debug else .warn

/-- Which log records are shown, and what in the environment makes no sense. -/
def logFilter (environment : List (String × String)) (verbose : Bool) : LogFilter × List String :=
  match setting? environment "RUST_LOG" with
  | some text => LogFilter.parse text
  | none => (.upTo (defaultLevel verbose), [])

end DocLint.Command
