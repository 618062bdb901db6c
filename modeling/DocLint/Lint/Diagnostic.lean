import DocLint.Json.Basic
import DocLint.Text.Position

/-!
# Diagnostics

A diagnostic is what a rule says about a place in a document. The place may be known by line, by
line and column, and by byte offset; only the offset decides whether a diagnostic is suppressed.
-/

namespace DocLint

/-- How grave a diagnostic is. -/
inductive Severity where
  | error
  | warning
deriving DecidableEq, Repr, Inhabited

namespace Severity

/-- The name of a severity in serialized form. -/
def name : Severity → String
  | error => "Error"
  | warning => "Warning"

/-- A severity in capitals. -/
def display : Severity → String
  | error => "ERROR"
  | warning => "WARNING"

/-- A severity in a report. -/
def label : Severity → String
  | error => "error"
  | warning => "warning"

/-- The severity with the given name. -/
def ofName? (s : String) : Option Severity := [error, warning].find? (·.name == s)

end Severity

/-- What a rule says about a place in a document. -/
structure Diagnostic where
  /-- the id of the rule -/
  rule : String
  category : String
  message : String
  severity : Severity
  line : Option Nat := none
  column : Option Nat := none
  offset : Option Nat := none
deriving DecidableEq, Repr, Inhabited

namespace Diagnostic

/-- A diagnostic placed at a position. -/
def place (d : Diagnostic) (p : Position) : Diagnostic :=
  { d with line := some p.line, column := some p.column, offset := some p.offset }

/-- A number, or null. -/
def number (n : Option Nat) : Json := n.elim .null .num

/-- A diagnostic as an object; the offset is left out if there is none. -/
def toJson (d : Diagnostic) : Json :=
  .obj ([("rule", .str d.rule), ("category", .str d.category), ("message", .str d.message),
    ("severity", .str d.severity.name), ("line", number d.line), ("column", number d.column)] ++
    d.offset.toList.map fun n => ("offset", .num n))

/-- How many diagnostics have a severity. -/
def count (s : Severity) (ds : List Diagnostic) : Nat := ds.countP (·.severity = s)

end Diagnostic

end DocLint
