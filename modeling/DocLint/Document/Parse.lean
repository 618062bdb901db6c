import DocLint.Document.Format
import DocLint.Document.Plain
import DocLint.Files.Disk
import DocLint.Markdown.Parse

/-!
# Reading documents

* `parse` — the tree of a source in a format;
* `read` — the tree of the file where a path leads, in the format its name asks for.
-/

namespace DocLint.Document

/-- The tree of a source. -/
def parse (format : Format) (source : List Char) : Node :=
  match format with
  | .plain => Plain.parse source
  | .markdown => Markdown.parse source

/-- The tree of the file where a path leads. -/
def read (d : Files.Disk) (path : String) : Except Files.Fault Node :=
  (d.readText path).map (parse (.ofPath path))

end DocLint.Document
