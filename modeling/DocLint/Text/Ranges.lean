/-!
# Tables of character ranges

A Unicode property is kept as the closed ranges of the code points that have it.
-/

namespace DocLint.Text

/-- Whether a character lies in one of the closed ranges. -/
def inRanges (ranges : Array (Nat × Nat)) (c : Char) : Bool :=
  ranges.any fun r => r.1 ≤ c.toNat && c.toNat ≤ r.2

end DocLint.Text
