import DocLint.Command.Run

/-!
# The command line

The program as it is started: the working directory is read into a disk, the run is computed, and
what it prints and writes is printed and written. Nothing is decided here.
-/

namespace DocLint.Main

open Files Command

/-- The bytes of a stream up to its end, after some that were read. -/
partial def readStream (input : IO.FS.Stream) (bytes : ByteArray) : IO ByteArray := do
  let more ← input.read 65536
  if more.isEmpty then return bytes else readStream input (bytes ++ more)

/-- The tree below an entry of a directory. Files are without their contents, a directory that a link
leads to is without its entries, and a link that leads nowhere is sealed. -/
partial def readTree (e : IO.FS.DirEntry) : IO Entry := do
  let metadata ← e.path.symlinkMetadata
  match metadata.type with
  | .dir =>
    let entries ← try e.path.readDir catch _ => pure #[]
    let trees ← entries.toList.mapM fun child => return (child.fileName, ← readTree child)
    return .directory trees
  | .file => return .file []
  | .other => return .stream []
  | .symlink =>
    let target : Option IO.FS.Metadata ← try some <$> e.path.metadata catch _ => pure none
    return match target.map IO.FS.Metadata.type with
      | some .dir => .directory []
      | some .other => .stream []
      | some _ => .file []
      | none => .sealed .notFound

/-- The disk with the working directory and everything below it. -/
def readDisk : IO Disk := do
  let directory ← IO.currentDir
  let entries ← directory.readDir
  let trees ← entries.toList.mapM fun child => return (child.fileName, ← readTree child)
  let place := ((Text.pieces '/' directory.toString.toList).filter (!·.isEmpty)).map String.ofList
  return ⟨Entry.put (.directory trees) place (.directory []), place⟩

/-- The disk with what can be read where a path leads. -/
def readContents (d : Disk) (path : String) : IO Disk := do
  match d.find path with
  | .error _ => return d
  | .ok s =>
    let bytes : Option ByteArray ← try some <$> IO.FS.readBinFile path catch _ => pure none
    let entry : Entry := match s.here, bytes with
      | .file _, some bytes => .file bytes.toList
      | .file _, none => .unreadable .denied
      | .stream _, some bytes => .stream bytes.toList
      | e, _ => e
    return { d with root := Entry.put entry s.names d.root }

/-- The variables a run may depend on. -/
def readEnvironment : IO (List (String × String)) := do
  let found ← ["CLICOLOR_FORCE", "RUST_LOG"].mapM fun name => return (name, ← IO.getEnv name)
  return found.filterMap fun (name, value) => value.map (name, ·)

/-- The surroundings of a run that some arguments ask for. -/
def readSurroundings (arguments : List String) : IO Surroundings := do
  let environment ← readEnvironment
  match Request.parse arguments with
  | .ok r =>
    let names ← readDisk
    let disk ← (r.reads names).foldlM readContents names
    let stdin ← if r.readsStdin then readStream (← IO.getStdin) ByteArray.empty else pure .empty
    return { disk, stdin := stdin.toList, environment }
  | .error _ => return { disk := ⟨.directory [], []⟩, environment }

end DocLint.Main

/-- Run the program with some arguments. -/
def main (arguments : List String) : IO UInt32 := do
  let o := DocLint.Command.run (← DocLint.Main.readSurroundings arguments) arguments
  IO.print o.output
  o.notices.forM fun n => IO.eprintln n.text
  o.written.forM fun (path, bytes) => IO.FS.writeBinFile path (ByteArray.mk bytes.toArray)
  return UInt32.ofNat o.exit.code
