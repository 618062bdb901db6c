import DocLint.Directive.RuleIds

/-!
# Directives

A directive is a comment whose body has a keyword in it. What follows the first occurrence of the
keyword lists the rules the directive is meant for; an empty list means every rule.
-/

namespace DocLint

/-- A directive for the next node. -/
structure Directive where
  /-- the rules it is meant for, ascending; empty means every rule -/
  ruleIds : List String
deriving DecidableEq, Repr, Inhabited

namespace Directive

/-- The keyword in force when no other is asked for. -/
def defaultKeyword : String := "disable-next-line"

/-- The keyword in force when `keyword` is asked for: an empty one stands for the default. -/
def effectiveKeyword (keyword : String) : String :=
  if keyword.isEmpty then defaultKeyword else keyword

/-- Read the body of a comment. It is a directive if the keyword occurs in it; the empty keyword
occurs nowhere. -/
def parse? (keyword : String) (body : List Char) : Option Directive :=
  if keyword.isEmpty then none
  else (Text.splitOnce? keyword.toList body).map fun (_, rest) => ⟨RuleIds.parse rest⟩

end Directive

end DocLint
