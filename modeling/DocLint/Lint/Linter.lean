import DocLint.Lint.Rule
import DocLint.Lint.Suppressor

/-!
# Linters

A linter checks a document with its rules, one after the other, then lets each of its filters add
the ranges it marks to those of the filters before it, and drops the diagnostics in them. No filter
looks at what another one marked.
-/

namespace DocLint

/-- Rules and filters, each in the order they are run. -/
structure Linter where
  rules : List Rule
  filters : List NextNodeFilter
deriving Inhabited

namespace Linter

/-- Everything the rules report. -/
def check (l : Linter) (source : List Char) (document : Node) : List Diagnostic :=
  l.rules.flatMap fun r => r.check source document

/-- Every range the filters mark, each filter adding to what is marked already. -/
def ranges (l : Linter) (source : List Char) (document : Node) : List IgnoreRange :=
  l.filters.foldl (fun marked f => f.apply source document marked) []

/-- What the rules report outside the ranges the filters mark. -/
def lint (l : Linter) (source : List Char) (document : Node) : Report :=
  sift (l.ranges source document) (l.check source document)

end Linter

end DocLint
