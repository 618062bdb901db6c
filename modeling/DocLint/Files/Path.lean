import DocLint.Text.Search
import DocLint.Text.Slice

/-!
# Paths

A path is a text; what it names is decided by its components. Repeated and trailing slashes and
components `.` after the first are no components at all, so paths of different text may be equal as
paths.

* `components` — the root, a leading `.`, the `..` and the names, in order;
* `parent?` — the text without its last component, and `ancestors`, that over and over;
* `join` — one path below another;
* `fits` — whether a path is short enough for the system to look it up.
-/

namespace DocLint.Files

/-- One step of a path. -/
inductive Component where
  /-- the slash at the start of an absolute path -/
  | root
  /-- a dot at the start of a relative path -/
  | here
  /-- two dots -/
  | up
  /-- a name -/
  | name (s : String)
deriving DecidableEq, Repr, Inhabited

namespace Component

/-- The order of components of different sorts. -/
def rank : Component → Nat
  | root => 0
  | here => 1
  | up => 2
  | name _ => 3

/-- Components by sort, names by their characters. -/
def lt : Component → Component → Bool
  | name a, name b => a < b
  | a, b => a.rank < b.rank

end Component

namespace Path

/-- The component a part between slashes stands for, if any. -/
def componentOf? (piece : List Char) : Option Component :=
  if piece = [] ∨ piece = ['.'] then none
  else if piece = ['.', '.'] then some .up
  else some (.name (String.ofList piece))

/-- The components of a path. -/
def components (path : String) : List Component :=
  match Text.pieces '/' path.toList with
  | [] => []
  | first :: rest =>
    let leading : List Component :=
      if path.toList.head? = some '/' then [.root]
      else if first = ['.'] then [.here]
      else []
    leading ++ (first :: rest).filterMap componentOf?

/-- Whether two texts name the same path. -/
def same (a b : String) : Bool := components a == components b

/-- Component by component; a path comes before those below it. -/
def componentsLt : List Component → List Component → Bool
  | [], [] => false
  | [], _ :: _ => true
  | _ :: _, [] => false
  | a :: as, b :: bs => if a = b then componentsLt as bs else a.lt b

/-- The order of paths. -/
def lt (a b : String) : Bool := componentsLt (components a) (components b)

/-- Whether a path starts at the root. -/
def isAbsolute (path : String) : Bool := path.toList.head? == some '/'

/-- The most bytes that a path can have to be looked up. The bound is on the text of the path, so
slashes and dots that stand for nothing count, too. -/
def maxBytes : Nat := 4095

/-- Whether a path is short enough to be looked up. -/
def fits (path : String) : Bool := Text.byteSize path.toList ≤ maxBytes

/-- `tail` below `base`; an absolute `tail` stands for itself. -/
def join (base tail : String) : String :=
  if isAbsolute tail then tail
  else if base.toList = [] then tail
  else if base.toList.getLast? = some '/' then base ++ tail
  else base ++ "/" ++ tail

/-! ## The path above -/

/-- Cut what stands for no component off the end of a reversed relative text: slashes, and dots that
stand alone after a slash. -/
def cutTrailing : List Char → List Char
  | '/' :: cs => cutTrailing cs
  | '.' :: '/' :: cs => cutTrailing ('/' :: cs)
  | cs => cs

/-- A path without its last component, if it has one that can be removed: the root cannot. -/
def parent? (path : String) : Option String :=
  let absolute := isAbsolute path
  let body := if absolute then path.toList.tail else path.toList
  let whole := cutTrailing body.reverse
  let whole := if absolute && whole == ['.'] then [] else whole
  if whole.isEmpty then none
  else
    let above := cutTrailing (whole.dropWhile (· != '/'))
    let above := if absolute && above == ['.'] then [] else above
    some (String.ofList ((if absolute then ['/'] else []) ++ above.reverse))

/-- A path and the paths above it, the nearest first, `limit` of them at most. -/
def ancestorsUpTo : Nat → String → List String
  | 0, path => [path]
  | limit + 1, path =>
    path ::
      match parent? path with
      | some above => ancestorsUpTo limit above
      | none => []

/-- A path and all paths above it, the nearest first. -/
def ancestors (path : String) : List String := ancestorsUpTo path.length path

/-- The name at the end of a path. -/
def fileName? (path : String) : Option String :=
  match (components path).getLast? with
  | some (.name s) => some s
  | _ => none

/-- What follows the last dot of the name at the end of a path; a dot at the start of the name does
not count. -/
def extension? (path : String) : Option String :=
  (fileName? path).bind fun s =>
    let afterDot := s.toList.reverse.takeWhile (· != '.')
    let stem := s.toList.reverse.drop (afterDot.length + 1)
    if afterDot.length < s.toList.length ∧ stem ≠ [] then some (String.ofList afterDot.reverse)
    else none

end Path

end DocLint.Files
