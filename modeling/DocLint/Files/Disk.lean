import DocLint.Files.Path
import DocLint.Files.Tree
import DocLint.Files.Utf8

/-!
# Files by path

A path is followed name by name, from the root or from the working directory. Two dots lead back to
the directory above the one that was reached, which need not be what is left of the text of the path
without its last names. A path that is too long is not followed at all, and none leads to what
cannot be looked at: there is a name, but to ask whether anything is there is to be told no.

* `Disk.find` — where a path leads, and `Disk.entry` — what is there;
* `Disk.leads`, `Disk.isFile`, `Disk.isDirectory` — what the system tells of it;
* `Disk.readText` — the text that can be read there;
* `Disk.write` — the disk with other contents of the file there.
-/

namespace DocLint.Files

/-- One step on the way to a file. -/
inductive Step where
  /-- to the same directory -/
  | stay
  /-- to the directory above -/
  | up
  /-- to what is in the directory under a name -/
  | down (name : String)
deriving DecidableEq, Repr, Inhabited

/-- The step for a part of a path between slashes. -/
def Step.ofPiece (piece : List Char) : Step :=
  if piece = [] ∨ piece = ['.'] then stay
  else if piece = ['.', '.'] then up
  else down (String.ofList piece)

/-- A place in a file tree. -/
structure Spot where
  here : Entry
  /-- the names of the directories that the place is in and its own name, the innermost first, and
  what each of them is in -/
  above : List (String × Entry) := []

namespace Spot

/-- The names that lead from the root to a place. -/
def names (s : Spot) : List String := (s.above.map (·.1)).reverse

/-- Take one step; only a directory can be stepped from, and not to what is sealed. -/
def step (s : Spot) (next : Step) : Except Fault Spot :=
  match s.here with
  | .directory _ =>
    match next, s.above with
    | .stay, _ => .ok s
    | .up, [] => .ok s
    | .up, (_, outer) :: above => .ok ⟨outer, above⟩
    | .down name, above =>
      match s.here.child? name with
      | some (.sealed fault) => .error fault
      | some e => .ok ⟨e, (name, s.here) :: above⟩
      | none => .error .notFound
  | _ => .error .notDirectory

/-- Take some steps. -/
def follow (s : Spot) : List Step → Except Fault Spot
  | [] => .ok s
  | next :: steps =>
    match s.step next with
    | .ok t => t.follow steps
    | .error f => .error f

end Spot

/-- A file tree with a working directory in it. -/
structure Disk where
  root : Entry
  /-- the names that lead from the root to the working directory -/
  place : List String := []

namespace Disk

/-- The steps that a path says. -/
def steps (path : String) : List Step := (Text.pieces '/' path.toList).map Step.ofPiece

/-- Where a path starts. -/
def start (d : Disk) (path : String) : Except Fault Spot :=
  Spot.follow ⟨d.root, []⟩ (if Path.isAbsolute path then [] else d.place.map .down)

/-- Why a path is not followed at all, if it is not. -/
def refusal? (path : String) : Option Fault :=
  if path.isEmpty then some .notFound
  else if Path.fits path then none
  else some .tooLong

/-- Where a path leads. The empty path leads nowhere, and so does one that is too long. -/
def find (d : Disk) (path : String) : Except Fault Spot :=
  match refusal? path with
  | some fault => .error fault
  | none => (d.start path).bind fun s => s.follow (steps path)

/-- What is where a path leads. -/
def entry (d : Disk) (path : String) : Except Fault Entry := (d.find path).map (·.here)

/-- Whether a path leads anywhere. Whatever the reason is that it cannot be followed, the answer is
no, be there something under the name or not. -/
def leads (d : Disk) (path : String) : Bool := (d.entry path).toBool

/-- Whether a path leads to a file. A stream is none. -/
def isFile (d : Disk) (path : String) : Bool := (d.entry path).toOption.any Entry.isFile

/-- Whether a path leads to a directory. -/
def isDirectory (d : Disk) (path : String) : Bool := (d.entry path).toOption.any Entry.isDirectory

/-- The text of an entry. -/
def textOf : Entry → Except Fault (List Char)
  | .directory _ => .error .isDirectory
  | .file bytes | .stream bytes =>
    match Utf8.decode? bytes with
    | some cs => .ok cs
    | none => .error .notText
  | .unreadable fault | .sealed fault => .error fault

/-- The text that can be read where a path leads. -/
def readText (d : Disk) (path : String) : Except Fault (List Char) := (d.entry path).bind textOf

/-- The disk with a file of the given bytes where a path leads. The directory it is in must be
there, and a path that ends like that of a directory leads to no file. What is written to a stream
does not stay. -/
def write (d : Disk) (path : String) (bytes : List UInt8) : Except Fault Disk :=
  match refusal? path with
  | some fault => .error fault
  | none =>
    let all := steps path
    ((d.start path).bind fun s => s.follow all.dropLast).bind fun s =>
      match s.here, all.getLast? with
      | .directory _, some (.down name) =>
        match s.here.child? name with
        | some (.directory _) => .error .isDirectory
        | some (.sealed fault) => .error fault
        | some (.stream _) => .ok d
        | _ => .ok { d with root := Entry.put (.file bytes) (s.names ++ [name]) d.root }
      | .directory _, _ => .error .isDirectory
      | _, _ => .error .notDirectory

end Disk

end DocLint.Files
