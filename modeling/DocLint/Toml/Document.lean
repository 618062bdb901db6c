import DocLint.Toml.Moment
import DocLint.Toml.Number
import DocLint.Toml.Table

/-!
# TOML documents

A document is a row of statements, each on lines of its own: headers, which say what table comes
next, and assignments to the keys of that table.

* `value?` — a value of any sort; arrays and tables inside values nest at most eighty deep;
* `statements?` — what the lines of a document say;
* `parse?` — the entries of the whole document.
-/

namespace DocLint.Toml

/-! ## Values -/

/-- A character of a value that is neither quoted nor in brackets. -/
def isPlain (c : Char) : Bool :=
  c.isAlphanum || c = '+' || c = '-' || c = '_' || c = '.' || c = ':'

/-- The characters of a plain value. A date and a time of day with a blank between them are one
value. -/
def plainText (cs : List Char) : List Char :=
  let first := cs.takeWhile isPlain
  match cs.dropWhile isPlain with
  | ' ' :: rest =>
    if isDate first ∧ rest.head?.any Char.isDigit then first ++ ' ' :: rest.takeWhile isPlain
    else first
  | _ => first

/-- What some characters stand for. -/
def plainValue? (cs : List Char) : Option Value :=
  if cs = ['t', 'r', 'u', 'e'] then some (.boolean true)
  else if cs = ['f', 'a', 'l', 's', 'e'] then some (.boolean false)
  else if isNumber cs then some (.number (String.ofList cs))
  else if isMoment cs then some (.moment (String.ofList cs))
  else none

/-- A value that is neither quoted nor in brackets. -/
def plain? (cs : List Char) : Option (Value × List Char) :=
  let text := plainText cs
  (plainValue? text).map fun v => (v, cs.drop text.length)

/-- The elements of an array up to its closing bracket. There are at most `limit` of them, each read
by `element?`. -/
def elements? (element? : List Char → Option (Value × List Char)) :
    Nat → List Char → Option (List Value × List Char)
  | 0, _ => none
  | limit + 1, cs => do
    match ← skipLayout? false cs with
    | ']' :: rest => return ([], rest)
    | start =>
      let (v, rest) ← element? start
      match ← skipLayout? false rest with
      | ']' :: rest => return ([v], rest)
      | ',' :: rest =>
        let (vs, rest) ← elements? element? limit rest
        return (v :: vs, rest)
      | _ => none

/-- An assignment and what follows it. -/
def assignment? (value? : List Char → Option (Value × List Char)) (cs : List Char) :
    Option ((KeyPath × Value) × List Char) := do
  let (path, rest) ← path? cs
  let rest ← after? '=' rest
  let (v, rest) ← value? (skipBlanks rest)
  return ((path, v), rest)

/-- The assignments of a table in braces up to its closing brace, made to `d`. There are at most
`limit` of them. -/
def fields? (value? : List Char → Option (Value × List Char)) :
    Nat → Draft → List Char → Option (Draft × List Char)
  | 0, _, _ => none
  | limit + 1, d, cs => do
    match ← skipLayout? false cs with
    | '\x7d' :: rest => return (d, rest)
    | start =>
      let ((path, v), rest) ← assignment? value? start
      let d ← d.assign? path v
      match ← skipLayout? false rest with
      | '\x7d' :: rest => return (d, rest)
      | ',' :: rest => fields? value? limit d rest
      | _ => none

/-- A value in which brackets and braces nest at most `depth` deep. -/
def value? : Nat → List Char → Option (Value × List Char)
  | depth, cs =>
    match cs with
    | [] => none
    | c :: rest =>
      if c = quoteMark ∨ c = apostrophe then
        (quoted? c rest).map fun (s, rest) => (.string s, rest)
      else if c = '[' then
        match depth with
        | 0 => none
        | below + 1 =>
          (elements? (value? below) cs.length rest).map fun (vs, rest) => (.array vs, rest)
      else if c = '\x7b' then
        match depth with
        | 0 => none
        | below + 1 =>
          (fields? (value? below) cs.length [] rest).map fun (d, rest) => (.table d.entries, rest)
      else plain? cs

/-- How deep brackets and braces may nest. -/
def maxDepth : Nat := 80

/-! ## Statements -/

/-- What a line of a document says. -/
inductive Statement where
  /-- the table of a path comes next -/
  | header (path : KeyPath)
  /-- one more table in the array of a path comes next -/
  | arrayHeader (path : KeyPath)
  | assign (path : KeyPath) (v : Value)
deriving Inhabited

/-- The statement at the start of a text, and what follows it. -/
def statement? (cs : List Char) : Option (Statement × List Char) :=
  match cs with
  | '[' :: '[' :: rest => do
    let (path, rest) ← path? rest
    let rest ← after? ']' rest
    let rest ← after? ']' rest
    return (.arrayHeader path, rest)
  | '[' :: rest => do
    let (path, rest) ← path? rest
    let rest ← after? ']' rest
    return (.header path, rest)
  | _ => do
    let ((path, v), rest) ← assignment? (value? maxDepth) cs
    return (.assign path v, rest)

/-- What the lines of a text say; there are at most `limit` of them. -/
def statements? : Nat → List Char → Option (List Statement)
  | 0, _ => none
  | limit + 1, cs =>
    if cs.isEmpty then some []
    else
      match lineEnd? cs with
      | some rest => statements? limit rest
      | none => do
        let (s, rest) ← statement? (skipBlanks cs)
        return s :: (← statements? limit (← lineEnd? rest))

/-! ## The document -/

/-- The keys of a path. -/
def KeyPath.keys (path : KeyPath) : List String := path.above ++ [path.last]

/-- A document half read: what it says so far, and the table that comes next. -/
structure Progress where
  draft : Draft := []
  header : List String := []

/-- Follow one statement. -/
def Progress.follow? (p : Progress) : Statement → Option Progress
  | .header path => (p.draft.open? path).map fun d => ⟨d, path.keys⟩
  | .arrayHeader path => (p.draft.append? path).map fun d => ⟨d, path.keys⟩
  | .assign path v => (p.draft.assignUnder? p.header path v).map fun d => ⟨d, p.header⟩

/-- The text without the byte order mark it may start with. -/
def dropByteOrderMark : List Char → List Char
  | [] => []
  | c :: cs => if c.toNat = 0xFEFF then cs else c :: cs

/-- The entries of a document; none if its text is no document. -/
def parse? (cs : List Char) : Option Entries := do
  let text := dropByteOrderMark cs
  let statements ← statements? (text.length + 1) text
  let p ← statements.foldlM Progress.follow? {}
  return p.draft.entries

end DocLint.Toml
