/-!
# Digits

* `isHexDigit` — the digits of base sixteen, in either letter case;
* `numberValue` — the number that a row of digits stands for.
-/

namespace DocLint.Text

/-- A hexadecimal digit. -/
def isHexDigit (c : Char) : Bool := c.isDigit || ('a' ≤ c.toLower && c.toLower ≤ 'f')

/-- The value of a digit, in either letter case. -/
def digitValue (c : Char) : Nat :=
  if c.isDigit then c.toNat - 48 else c.toLower.toNat - 87

/-- The value of some digits. -/
def numberValue (radix : Nat) (cs : List Char) : Nat :=
  cs.foldl (fun n c => radix * n + digitValue c) 0

end DocLint.Text
