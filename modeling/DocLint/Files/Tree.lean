/-!
# File trees

A tree of what is kept under names, as a value. A directory keeps its entries in the order they were
put in.

Not all that has a name is a file or a directory. A pipe or a device can be read like a file, but it
is none. A file may be there and refuse to be read. And of some things there is only the name, as
the system fails whenever it is asked about them: a link that leads nowhere or to itself, or all
that is in a directory which may be listed but not entered. A link that leads to a file is that file
here. There are no links to directories, as in a tree there is one way down to everything.

* `Entry.child?` — what is in a directory under a name;
* `Entry.put` — the tree with another entry at some place in it;
* `Entry.contents` — everything in a tree, with the names that lead there.
-/

namespace DocLint.Files

/-- Why something under a name cannot be used. -/
inductive Fault where
  /-- nothing has the name -/
  | notFound
  /-- a path goes on below a file -/
  | notDirectory
  /-- a directory is where a file should be -/
  | isDirectory
  /-- the bytes of the file are no text -/
  | notText
  /-- the user may not do this -/
  | denied
  /-- links lead to links, and to nothing else -/
  | endlessLinks
  /-- a path has too many bytes -/
  | tooLong
deriving DecidableEq, Repr, Inhabited

/-- What is said of a fault. -/
def Fault.message : Fault → String
  | notFound => "No such file or directory (os error 2)"
  | notDirectory => "Not a directory (os error 20)"
  | isDirectory => "Is a directory (os error 21)"
  | notText => "stream did not contain valid UTF-8"
  | denied => "Permission denied (os error 13)"
  | endlessLinks => "Too many levels of symbolic links (os error 40)"
  | tooLong => "File name too long (os error 36)"

/-- What is kept under a name. -/
inductive Entry where
  | file (bytes : List UInt8)
  | directory (entries : List (String × Entry))
  /-- what can be read but is no file, such as a pipe or a device, with the bytes that come out -/
  | stream (bytes : List UInt8)
  /-- a file that cannot be read, and why -/
  | unreadable (fault : Fault)
  /-- what cannot even be looked at, such as a link that leads nowhere, and why -/
  | sealed (fault : Fault)
deriving Inhabited

namespace Entry

/-- Whether an entry is a directory. -/
def isDirectory : Entry → Bool
  | directory _ => true
  | _ => false

/-- Whether an entry is a file, be it one that can be read or not. -/
def isFile : Entry → Bool
  | file _ | unreadable _ => true
  | _ => false

/-- Whether there is no more to an entry than its name. -/
def isSealed : Entry → Bool
  | sealed _ => true
  | _ => false

/-- What is in a directory. -/
def entries : Entry → List (String × Entry)
  | directory es => es
  | _ => []

/-- What is in a directory under a name. -/
def child? (e : Entry) (name : String) : Option Entry := e.entries.lookup name

/-- Let `new` be under a name: in the place of what was there, or after all others. -/
def putChild (name : String) (new : Entry) : List (String × Entry) → List (String × Entry)
  | [] => [(name, new)]
  | (n, e) :: es => if name == n then (n, new) :: es else (n, e) :: putChild name new es

/-- The tree with `new` where some names lead; directories missing on the way are added. -/
def put (new : Entry) : List String → Entry → Entry
  | [], _ => new
  | name :: names, e =>
    directory (putChild name (put new names ((e.child? name).getD (directory []))) e.entries)

mutual

/-- Everything below an entry, each with the names that lead there. -/
def contents : Entry → List (List String × Entry)
  | directory es => contentsOf es
  | _ => []

/-- What is in a directory and everything below that. -/
def contentsOf : List (String × Entry) → List (List String × Entry)
  | [] => []
  | (name, e) :: es => ([name], e) :: (contents e).map (fun (names, d) => (name :: names, d)) ++
      contentsOf es

end

end Entry

end DocLint.Files
