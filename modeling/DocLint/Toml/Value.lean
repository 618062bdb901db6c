/-!
# TOML values

A TOML document is a table: keys, each with a value. Numbers and times are kept as they are written,
because no setting is one.

* `valueAt?` — the value at a key of a table.
-/

namespace DocLint.Toml

/-- A value in a TOML document. -/
inductive Value where
  | string (s : String)
  | boolean (b : Bool)
  /-- an integer or a float, as it is written -/
  | number (written : String)
  /-- a date, a time of day, or both, as it is written -/
  | moment (written : String)
  | array (elements : List Value)
  | table (entries : List (String × Value))
deriving Repr, Inhabited

/-- The keys of a table with their values; no key occurs twice. -/
abbrev Entries := List (String × Value)

/-- The value at a key. -/
def valueAt? (entries : Entries) (key : String) : Option Value :=
  (entries.find? (·.1 == key)).map (·.2)

end DocLint.Toml
