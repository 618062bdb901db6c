import DocLint.Text.Digit
import DocLint.Toml.Layout

/-!
# Quoted text

A text is quoted in one of four ways: between quotes, where a backslash starts an escape, or between
apostrophes, where everything stands for itself; with one mark at each end on one line, or with
three at each end over any number of lines. Three marks close the text, and up to two more right
before them belong to it.

* `lineBody?`, `blockBody?` — the text up to its closing marks, as it is written;
* `unescape?` — what the escapes in it stand for;
* `quoted?` — a quoted text of any of the four kinds.
-/

namespace DocLint.Toml

/-- The mark between which escapes count. -/
def quoteMark : Char := '"'

/-- The mark between which nothing is escaped. -/
def apostrophe : Char := '\x27'

/-- Whether the character after `c` is escaped. -/
def escapesNext (mark : Char) (escaped : Bool) (c : Char) : Bool :=
  mark = quoteMark && c = '\\' && !escaped

/-- What is written up to the closing mark on the same line, and what follows it. `escaped` says
that a backslash comes right before. -/
def lineBody? (mark : Char) (escaped : Bool) : List Char → Option (List Char × List Char)
  | [] => none
  | c :: cs =>
    if isControl c then none
    else if c = mark && !escaped then some ([], cs)
    else
      (lineBody? mark (escapesNext mark escaped c) cs).map fun (body, rest) => (c :: body, rest)

/-- How many of the marks at the start of a text that closes with three belong to the text. -/
def innerMarks (mark : Char) (cs : List Char) : Nat :=
  min 2 ((cs.takeWhile (· == mark)).length - 3)

/-- What is written up to three closing marks, and what follows them. `escaped` says that a
backslash comes right before. -/
def blockBody? (mark : Char) (escaped : Bool) : List Char → Option (List Char × List Char)
  | [] => none
  | c :: cs =>
    if (List.replicate 3 mark).isPrefixOf (c :: cs) && !escaped then
      let inner := innerMarks mark (c :: cs)
      some (List.replicate inner mark, (c :: cs).drop (inner + 3))
    else if isControl c && (newline? (c :: cs)).isNone then none
    else
      (blockBody? mark (escapesNext mark escaped c) cs).map fun (body, rest) => (c :: body, rest)

/-! ## Escapes -/

/-- The character that one letter after a backslash stands for. -/
def escapeLetter? : Char → Option Char
  | 'b' => some '\x08'
  | 't' => some '\t'
  | 'n' => some '\n'
  | 'f' => some '\x0c'
  | 'r' => some '\r'
  | 'e' => some '\x1b'
  | '"' => some '"'
  | '\\' => some '\\'
  | _ => none

/-- The character that some hexadecimal digits stand for. -/
def escapeNumber? (digits : List Char) : Option Char :=
  let n := Text.numberValue 16 digits
  if digits.all Text.isHexDigit ∧ n.isValidChar then some (Char.ofNat n) else none

/-- Whether nothing is left of a line but blanks. -/
def endsLine (cs : List Char) : Bool := (newline? (skipBlanks cs)).isSome

/-- What a text stands for once its escapes are read. A backslash at the end of a line stands for
nothing, and neither do the blanks and line endings after it; `skipping` says the text starts among
those. -/
def unescape? (skipping : Bool) : List Char → Option (List Char)
  | [] => some []
  | '\\' :: 'x' :: a :: b :: cs => do return (← escapeNumber? [a, b]) :: (← unescape? false cs)
  | '\\' :: 'u' :: a :: b :: c :: d :: cs =>
    do return (← escapeNumber? [a, b, c, d]) :: (← unescape? false cs)
  | '\\' :: 'U' :: a :: b :: c :: d :: e :: f :: g :: h :: cs =>
    do return (← escapeNumber? [a, b, c, d, e, f, g, h]) :: (← unescape? false cs)
  | '\\' :: c :: cs =>
    if endsLine (c :: cs) then unescape? true (c :: cs)
    else do return (← escapeLetter? c) :: (← unescape? false cs)
  | c :: cs =>
    if skipping && (isBlank c || c = '\n' || c = '\r') then unescape? true cs
    else if c = '\\' then none
    else do return c :: (← unescape? false cs)

/-! ## Quoted texts -/

/-- What a body between two marks stands for. -/
def bodyValue? (mark : Char) (body : List Char) : Option (List Char) :=
  if mark = quoteMark then unescape? false body else some body

/-- A text quoted on one line by the mark that was read last. -/
def line? (mark : Char) (cs : List Char) : Option (String × List Char) := do
  let (body, rest) ← lineBody? mark false cs
  return (String.ofList (← bodyValue? mark body), rest)

/-- A text quoted by three marks, which were read last. A line ending right after them does not
count. -/
def block? (mark : Char) (cs : List Char) : Option (String × List Char) := do
  let (body, rest) ← blockBody? mark false ((newline? cs).getD cs)
  return (String.ofList (← bodyValue? mark body), rest)

/-- A quoted text whose first mark was read last. -/
def quoted? (mark : Char) (cs : List Char) : Option (String × List Char) :=
  match cs with
  | a :: b :: rest => if a = mark ∧ b = mark then block? mark rest else line? mark cs
  | _ => line? mark cs

end DocLint.Toml
