import DocLint.Config.Basic
import DocLint.Report.Order
import DocLint.Report.Paint

/-!
# Reports

What is shown of the diagnostics of a document: as text, a line for each and a summary, or as a JSON
value.

* `Report.lines` — the lines of the text;
* `Report.toJson` — the value;
* `Report.render` — either of them as it is printed.
-/

namespace DocLint

/-- How reports are written. -/
inductive ReportFormat where
  | text
  | json
deriving DecidableEq, Repr, Inhabited

namespace ReportFormat

/-- Every format, in order. -/
def all : List ReportFormat := [text, json]

/-- The name of a format. -/
def name : ReportFormat → String
  | text => "text"
  | json => "json"

/-- The format with the given name. -/
def ofName? (s : String) : Option ReportFormat := all.find? (·.name == s)

end ReportFormat

/-- The colour of a severity. -/
def Palette.color (p : Palette) : Severity → Color
  | .error => p.error
  | .warning => p.warning

/-- How reports look: their format, their colours, and whether the colours are shown. -/
structure ReportStyle where
  format : ReportFormat := .text
  palette : Palette := {}
  colored : Bool := false
deriving DecidableEq, Repr, Inhabited

namespace Diagnostic

/-- The path with the line and the column, as far as they are known. -/
def location (d : Diagnostic) (path : String) : String :=
  match d.line, d.column with
  | some l, some c => s!"{path}:{l}:{c}"
  | some l, none => s!"{path}:{l}"
  | none, _ => path

/-- The severity with the category and the rule. -/
def label (d : Diagnostic) : String := d.severity.label ++ "[" ++ d.category ++ "/" ++ d.rule ++ "]"

/-- A diagnostic as a line of text. -/
def shown (d : Diagnostic) (style : ReportStyle) (path : String) : String :=
  let label := if style.colored then paint (style.palette.color d.severity) d.label else d.label
  d.location path ++ ": " ++ label ++ ": " ++ d.message

end Diagnostic

namespace Report

/-- How many diagnostics have a severity. -/
def count (r : Report) (s : Severity) : Nat := Diagnostic.count s r.diagnostics

/-- The numbers that are not zero, each with what it counts. -/
def totals (r : Report) : List String :=
  [(r.count .error, " error(s)"), (r.count .warning, " warning(s)"),
    (r.ignored, " ignored")].filterMap fun (n, what) =>
      if n = 0 then none else some (toString n ++ what)

/-- The summary with a blank line before it; nothing if there is nothing to count. -/
def summary (r : Report) : List String :=
  if r.totals.isEmpty then [] else ["", "Found " ++ ", ".intercalate r.totals]

/-- The lines of a report. -/
def lines (r : Report) (style : ReportStyle) (path : String) : List String :=
  r.sorted.map (·.shown style path) ++ r.summary

/-- A report as an object. -/
def toJson (r : Report) (path : String) : Json :=
  .obj [("file", .str path), ("errors", .arr (r.sorted.map Diagnostic.toJson)),
    ("summary", .obj [("errors", .num (r.count .error)), ("warnings", .num (r.count .warning)),
      ("ignored", .num r.ignored)])]

/-- A report as it is printed. -/
def render (r : Report) (style : ReportStyle) (path : String) : String :=
  match style.format with
  | .text => String.join ((r.lines style path).map (· ++ "\n"))
  | .json => (r.toJson path).pretty ++ "\n"

end Report

end DocLint
