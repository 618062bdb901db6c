import DocLint.Config.Decode
import DocLint.Files.Disk

/-!
# Finding configurations

The configuration that governs a directory is in the directory itself or in the nearest one above
it, as the text of its path tells. One that can be looked at but not be used is an error, whatever is
in the directories above. One that cannot even be looked at is passed over as if it were not there.

* `Config.load` — the configuration in a file, told by what is there (`Config.ofEntry`);
* `Config.places` — the paths where a configuration may be, the nearest first;
* `Config.find` — the nearest configuration.
-/

namespace DocLint

open Files

/-- Why a configuration cannot be used. -/
inductive ConfigError where
  | unreadable (path : String) (fault : Fault)
  | invalid (path : String) (fault : ConfigFault)
deriving DecidableEq, Repr, Inhabited

namespace ConfigError

/-- What is wrong with a configuration, in words. -/
def detail : ConfigFault → String
  | .malformed => "not a TOML document"
  | .mistyped => "a setting has a value of another type"
  | .unknownName name expected => ((ConfigFault.unknownName name expected).message?).getD ""

/-- What is said of an error. -/
def message : ConfigError → String
  | unreadable path fault => s!"Failed to read config file '{path}': {fault.message}"
  | invalid path fault => s!"Failed to parse config file '{path}': {detail fault}"

end ConfigError

namespace Config

/-- The name of the file that a configuration is in. -/
def fileName : String := ".txtlint.toml"

/-- The configuration in what is at a path. -/
def ofEntry (path : String) (e : Entry) : Except ConfigError Config :=
  match Disk.textOf e with
  | .error fault => .error (.unreadable path fault)
  | .ok text =>
    match parse text with
    | .error fault => .error (.invalid path fault)
    | .ok c => .ok c

/-- The configuration where a path leads. -/
def load (d : Disk) (path : String) : Except ConfigError Config :=
  match d.entry path with
  | .error fault => .error (.unreadable path fault)
  | .ok e => ofEntry path e

/-- The paths where the configuration of a directory may be, the nearest first. -/
def places (directory : String) : List String :=
  (Path.ancestors directory).map fun above => Path.join above fileName

/-- The configuration of a directory with the path where it is, if there is one. The system is asked
first whether a path leads anywhere, and only then is it read. -/
def find (d : Disk) (directory : String) : Except ConfigError (Option (String × Config)) :=
  match (places directory).find? d.leads with
  | none => .ok none
  | some path =>
    match load d path with
    | .error e => .error e
    | .ok c => .ok (some (path, c))

end Config

end DocLint
