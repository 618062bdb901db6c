import DocLint.Files.Search

/-!
# Selecting files

The files to check are named one by one, by pattern, or by a directory whose documents are meant.
They are checked in the order they are named, those of one pattern or directory in the order of
paths, and no path is taken twice.

* `expandArgument` — the files that one argument stands for;
* `selectFiles` — the files that several arguments stand for.
-/

namespace DocLint.Files

/-- Why files cannot be selected. -/
inductive SelectionError where
  /-- a pattern makes no sense -/
  | badPattern (pattern : String) (fault : PatternFault)
  /-- a pattern stands for no file -/
  | noMatch (pattern : String)
  /-- a path leads neither to a file nor to a directory -/
  | missing (path : String)
deriving DecidableEq, Repr, Inhabited

/-- What is said of an error. -/
def SelectionError.message : SelectionError → String
  | badPattern pattern fault => s!"invalid pattern '{pattern}': {fault.message}"
  | noMatch pattern => s!"no files match '{pattern}'"
  | missing path => path ++ " not found"

/-- Whether an argument is a pattern. -/
def isPattern (argument : String) : Bool :=
  argument.toList.any fun c => c = '*' || c = '?' || c = '['

/-- The extensions of the documents in a directory. -/
def documentExtensions : List String := ["md", "markdown", "txt"]

/-- The paths that lead to files among those that were found, in order. -/
def filePaths (d : Disk) (found : List Found) : List String :=
  ((found.map (·.path)).filter d.isFile).mergeSort fun a b => !Path.lt b a

/-- The pattern for the files below a directory that have an extension. -/
def extensionPattern (directory extension : String) : String :=
  String.ofList <| (Path.join (Path.join directory "**") ("*." ++ extension)).toList.map fun c =>
    if c = '\\' then '/' else c

/-- The documents below a directory. -/
def documentsBelow (d : Disk) (directory : String) : List Found :=
  documentExtensions.flatMap fun e =>
    ((Pattern.search d (extensionPattern directory e)).toOption).getD []

/-- The files that an argument stands for. -/
def expandArgument (d : Disk) (argument : String) : Except SelectionError (List String) :=
  if isPattern argument then
    match Pattern.search d argument with
    | .error fault => .error (.badPattern argument fault)
    | .ok found =>
      let paths := filePaths d found
      if paths.isEmpty then .error (.noMatch argument) else .ok paths
  else if d.isDirectory argument then .ok (filePaths d (documentsBelow d argument))
  else if d.isFile argument then .ok [argument]
  else .error (.missing argument)

/-- Paths without those that came before. -/
def dropRepeated (seen : List String) : List String → List String
  | [] => []
  | p :: ps =>
    if seen.any (Path.same p) then dropRepeated seen ps else p :: dropRepeated (p :: seen) ps

/-- The files that some arguments stand for. -/
def selectFiles (d : Disk) (arguments : List String) : Except SelectionError (List String) :=
  (arguments.mapM (expandArgument d)).map fun paths => dropRepeated [] paths.flatten

end DocLint.Files
