import DocLint.Toml.Quoted

/-!
# Keys

A key is bare, of ASCII letters, digits, underscores and hyphens, or a text quoted on one line. A
path of keys has dots between them, and blanks around the dots.

* `key?` — one key and what follows it;
* `path?` — a path, never empty, and what follows it with the blanks after the path cut off.
-/

namespace DocLint.Toml

/-- A character of a bare key. -/
def isBare (c : Char) : Bool := c.isAlphanum || c = '_' || c = '-'

/-- One key and what follows it. -/
def key? (cs : List Char) : Option (String × List Char) :=
  match cs with
  | [] => none
  | c :: rest =>
    if c = quoteMark ∨ c = apostrophe then line? c rest
    else if isBare c then some (String.ofList (cs.takeWhile isBare), cs.dropWhile isBare)
    else none

/-- A path of keys, of which the last comes apart. -/
structure KeyPath where
  above : List String
  last : String
deriving DecidableEq, Repr, Inhabited

/-- A path of at most `limit` keys, and what follows it. -/
def keys? : Nat → List Char → Option (KeyPath × List Char)
  | 0, _ => none
  | limit + 1, cs => do
    let (key, rest) ← key? (skipBlanks cs)
    match skipBlanks rest with
    | '.' :: rest =>
      let (path, rest) ← keys? limit rest
      return ({ path with above := key :: path.above }, rest)
    | rest => return (⟨[], key⟩, rest)

/-- A path of keys and what follows it. -/
def path? (cs : List Char) : Option (KeyPath × List Char) := keys? (cs.length + 1) cs

end DocLint.Toml
