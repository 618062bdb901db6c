import DocLint.Lint.Diagnostic

/-!
# Ignored ranges

A filter marks stretches of a document in which the diagnostics of some rule, or of every rule, are
not reported. A diagnostic is dropped if it has an offset and some range covers it.

* `Scope` — every rule, or the rule of one id, shown as `*` or the id;
* `IgnoreRange.covers` — the offset lies in the range and the scope is met;
* `sift` — what remains of a list of diagnostics, and how many were dropped.
-/

namespace DocLint

/-- The rules a range is meant for. -/
inductive Scope where
  | all
  | rule (id : String)
deriving DecidableEq, Repr, Inhabited

namespace Scope

/-- Whether a rule is meant. -/
def applies : Scope → String → Bool
  | all, _ => true
  | rule id, r => id == r

/-- A star for every rule, else the id. -/
def display : Scope → String
  | all => "*"
  | rule id => id

end Scope

/-- A half-open stretch of bytes in which some diagnostics are not reported. -/
structure IgnoreRange where
  start : Nat
  stop : Nat
  scope : Scope
deriving DecidableEq, Repr, Inhabited

namespace IgnoreRange

/-- The stretch a span covers. -/
def ofSpan (s : Span) (scope : Scope) : IgnoreRange := ⟨s.start.offset, s.stop.offset, scope⟩

/-- Whether a diagnostic of `rule` at `offset` is not reported. -/
def covers (r : IgnoreRange) (rule : String) (offset : Nat) : Bool :=
  r.start ≤ offset && offset < r.stop && r.scope.applies rule

/-- A range as an object; the scope is as it is shown. -/
def toJson (r : IgnoreRange) : Json :=
  .obj [("start", .num r.start), ("end", .num r.stop), ("scope", .str r.scope.display)]

/-- Whether some range covers a rule at an offset. -/
def anyCovers (ranges : List IgnoreRange) (rule : String) (offset : Nat) : Bool :=
  ranges.any (·.covers rule offset)

/-- Whether a diagnostic is dropped. -/
def drops (ranges : List IgnoreRange) (d : Diagnostic) : Bool :=
  match d.offset with
  | some offset => anyCovers ranges d.rule offset
  | none => false

end IgnoreRange

/-- What is left to report of a document. -/
structure Report where
  diagnostics : List Diagnostic
  /-- how many diagnostics were dropped -/
  ignored : Nat
deriving DecidableEq, Repr, Inhabited

/-- Keep the diagnostics that no range covers, and count the others. -/
def sift (ranges : List IgnoreRange) : List Diagnostic → Report
  | [] => ⟨[], 0⟩
  | d :: ds =>
    let r := sift ranges ds
    if IgnoreRange.drops ranges d then ⟨r.diagnostics, r.ignored + 1⟩
    else ⟨d :: r.diagnostics, r.ignored⟩

theorem sift_diagnostics (ranges : List IgnoreRange) (ds : List Diagnostic) :
    (sift ranges ds).diagnostics = ds.filter fun d => !IgnoreRange.drops ranges d := by
  induction ds with
  | nil => rfl
  | cons d ds ih => by_cases h : IgnoreRange.drops ranges d <;> simp [sift, h, ih]

theorem sift_ignored (ranges : List IgnoreRange) (ds : List Diagnostic) :
    (sift ranges ds).ignored = ds.countP (IgnoreRange.drops ranges) := by
  induction ds with
  | nil => rfl
  | cons d ds ih => by_cases h : IgnoreRange.drops ranges d <;> simp [sift, h, ih]

end DocLint
