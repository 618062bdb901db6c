import DocLint.Files.Disk
import DocLint.Files.Pattern

/-!
# Searching a disk

The paths that a pattern stands for are found part by part. A part that spells out a name is looked
up as it is; any other part is held against the names in a directory.

* `Pattern.search` — the paths of the entries that a pattern stands for.
-/

namespace DocLint.Files

/-- A path with what is there. -/
structure Found where
  path : String
  entry : Entry

namespace Found

/-- The path of something in the directory that was found. The working directory itself is not
named. -/
def pathOf (f : Found) (name : String) : String :=
  if Path.same f.path "." then name else Path.join f.path name

/-- What is in the directory that was found. -/
def children (f : Found) : List (String × Found) :=
  f.entry.entries.map fun (name, e) => (name, ⟨f.pathOf name, e⟩)

/-- Everything below what was found, with its own name. -/
def descendants (f : Found) : List (String × Found) :=
  f.entry.contents.filterMap fun (names, e) =>
    match names with
    | [] => none
    | name :: more =>
      some ((name :: more).getLastD name, ⟨more.foldl Path.join (f.pathOf name), e⟩)

/-- What a path says, if it leads anywhere. -/
def at? (d : Disk) (path : String) : Option Found :=
  (d.entry path).toOption.map fun e => ⟨path, e⟩

end Found

namespace Pattern

/-- The names for the directory itself and for the one above, as far as wildcards stand for them;
only a dot that is spelled out can start them. -/
def dots (ws : List Wildcard) : List String :=
  if ws.head? = some (.char '.') then [".", ".."].filter fun s => covers ws s.toList else []

/-- What the parts of a pattern stand for, seen from a place. -/
def expand (d : Disk) : List PatternPart → Found → List Found
  | [], f => [f]
  | [.directories], f => (f.descendants.map (·.2)).filter (·.entry.isDirectory)
  | .directories :: .directories :: ps, f => expand d (.directories :: ps) f
  | .directories :: .name ws :: ps, f =>
    (f.descendants.filter fun e => covers ws e.1.toList).flatMap fun e => expand d ps e.2
  | .name ws :: ps, f =>
    match literal? ws with
    | some cs => (Found.at? d (f.pathOf (String.ofList cs))).toList.flatMap (expand d ps)
    | none =>
      if f.entry.isDirectory then
        ((f.children.filter fun e => covers ws e.1.toList).map (·.2) ++
          (dots ws).filterMap fun s => Found.at? d (Path.join f.path s)).flatMap (expand d ps)
      else []

/-- What a pattern stands for. One that ends like the path of a directory stands for directories
only. -/
def search (d : Disk) (pattern : String) : Except PatternFault (List Found) := do
  let cs := pattern.toList
  let parts ← parse cs
  let start := if Path.isAbsolute pattern then "/" else "."
  let found := (Found.at? d start).toList.flatMap (expand d parts)
  return if cs.getLast? = some '/' then found.filter (·.entry.isDirectory) else found

end Pattern

end DocLint.Files
