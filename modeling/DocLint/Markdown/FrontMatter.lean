import DocLint.Markdown.Row

/-!
# Front matter

A document may start with data between two rows of three hyphens, or of three plus signs. A first
row of that form settles that the document is not nested: if the second one never comes, the rows
are read as text, but no container starts in any of them.
-/

namespace DocLint.Markdown

/-- Whether a row is three of a mark and blanks. -/
def isMatterFence (mark : Char) (r : Row) : Bool :=
  (r.glyphs.takeWhile (·.char == mark)).length == 3 && allSpaces (r.glyphs.drop 3)

/-- The rows from the end of the front matter on. -/
def afterMatter? (mark : Char) : List Row → Option (List Row)
  | [] => none
  | r :: rs => if isMatterFence mark r then some (r.withGlyphs [] :: rs) else afterMatter? mark rs

/-- The rows of a document without its front matter, and whether containers may start in them. -/
def dropMatter (rows : List Row) : List Row × Bool :=
  match rows with
  | [] => ([], true)
  | r :: rs =>
    match ['-', '+'].find? (isMatterFence · r), r.ending with
    | some mark, some _ =>
      match afterMatter? mark rs with
      | some rest => (rest, true)
      | none => (rows, false)
    | _, _ => (rows, true)

end DocLint.Markdown
