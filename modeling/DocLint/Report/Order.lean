import DocLint.Lint.IgnoreRange

/-!
# The order of reports

Reports go through a document from top to bottom, whatever rule found what first. A diagnostic whose
line is not known comes after all others, one whose column is not known after the others on its
line; between diagnostics at the same place nothing changes.

* `Diagnostic.comparePlace` — the order of places;
* `Report.sorted` — the diagnostics of a report in that order.
-/

namespace DocLint

/-- Numbers in order, a missing one last. -/
def missingLast : Option Nat → Option Nat → Ordering
  | some a, some b => compare a b
  | some _, none => .lt
  | none, some _ => .gt
  | none, none => .eq

namespace Diagnostic

/-- The order of the places of two diagnostics: by line, then by column. Without a line the column
says nothing. -/
def comparePlace (a b : Diagnostic) : Ordering :=
  match a.line, b.line with
  | some l, some m => (compare l m).then (missingLast a.column b.column)
  | some _, none => .lt
  | none, some _ => .gt
  | none, none => .eq

end Diagnostic

/-- The diagnostics of a report in the order they are shown. -/
def Report.sorted (r : Report) : List Diagnostic :=
  r.diagnostics.mergeSort fun a b => (a.comparePlace b).isLE

end DocLint
