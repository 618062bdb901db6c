import DocLint.Files.Path

/-!
# Document formats

A document is Markdown if its name ends in `.md` or `.markdown`, in whatever letter case, and plain
text otherwise.
-/

namespace DocLint.Document

/-- How a source is read. -/
inductive Format where
  | plain
  | markdown
deriving DecidableEq, Repr, Inhabited

namespace Format

/-- The name of a format. -/
def name : Format → String
  | plain => "text"
  | markdown => "markdown"

/-- The endings of Markdown documents, in small letters. -/
def markdownExtensions : List String := ["md", "markdown"]

/-- A text with the capitals of ASCII made small. -/
def asciiLower (s : String) : String := String.ofList (s.toList.map Char.toLower)

/-- The format a path stands for. -/
def ofPath (path : String) : Format :=
  match Files.Path.extension? path with
  | some e => if asciiLower e ∈ markdownExtensions then markdown else plain
  | none => plain

end Format

end DocLint.Document
