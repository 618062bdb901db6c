import DocLint.Text.Digit
import DocLint.Text.Search

/-!
# Numbers

How integers and floats are written. Underscores may stand between two digits, and nowhere else.

* `isGrouped` — digits with underscores between them;
* `isNumber` — a number in base ten, with a fraction and an exponent or without, a whole number in
  base sixteen, eight or two, or one of the two values that no digits stand for.
-/

namespace DocLint.Toml

/-- Digits with single underscores between some of them. -/
def isGrouped (isDigit : Char → Bool) (cs : List Char) : Bool :=
  (Text.pieces '_' cs).all fun group => group ≠ [] && group.all isDigit

/-- A text without the sign at its start, if there is one. -/
def dropSign : List Char → List Char
  | '+' :: cs => cs
  | '-' :: cs => cs
  | cs => cs

/-- A whole number in base ten. None but zero itself starts with a zero. -/
def isWhole (cs : List Char) : Bool :=
  isGrouped Char.isDigit cs && (cs == ['0'] || cs.head? != some '0')

/-- Whether a letter starts an exponent. -/
def startsExponent (c : Char) : Bool := c = 'e' || c = 'E'

/-- An exponent with its letter, or nothing. -/
def isExponent : List Char → Bool
  | [] => true
  | c :: cs => startsExponent c && isGrouped Char.isDigit (dropSign cs)

/-- A fraction with its point, or nothing. -/
def isFraction : List Char → Bool
  | [] => true
  | c :: cs => c = '.' && isGrouped Char.isDigit cs

/-- A number in base ten without a sign. -/
def isDecimal (cs : List Char) : Bool :=
  let mantissa := cs.takeWhile fun c => !startsExponent c
  isWhole (mantissa.takeWhile (· != '.')) && isFraction (mantissa.dropWhile (· != '.')) &&
    isExponent (cs.dropWhile fun c => !startsExponent c)

/-- A digit of base eight. -/
def isOctalDigit (c : Char) : Bool := '0' ≤ c && c ≤ '7'

/-- A digit of base two. -/
def isBinaryDigit (c : Char) : Bool := c = '0' || c = '1'

/-- A number as it may be written. -/
def isNumber : List Char → Bool
  | '0' :: 'x' :: cs => isGrouped Text.isHexDigit cs
  | '0' :: 'o' :: cs => isGrouped isOctalDigit cs
  | '0' :: 'b' :: cs => isGrouped isBinaryDigit cs
  | cs =>
    let unsigned := dropSign cs
    unsigned == ['i', 'n', 'f'] || unsigned == ['n', 'a', 'n'] || isDecimal unsigned

end DocLint.Toml
