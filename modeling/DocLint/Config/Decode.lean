import DocLint.Config.Basic
import DocLint.Toml.Document

/-!
# Reading configurations

A configuration is written as a TOML document. Keys that are not known are passed over; a known one
must have a value of its type. Settings that belong together are written as a table, or as an array
of their values in a fixed order.

* `ConfigFault` — what can be wrong with a configuration;
* `Config.ofToml` — the settings in the entries of a document;
* `Config.parse` — the settings in a text.
-/

namespace DocLint

/-- What is wrong with a configuration. -/
inductive ConfigFault where
  /-- the text is no document -/
  | malformed
  /-- a value is not of the type it should be -/
  | mistyped
  /-- a value should be one of some names -/
  | unknownName (name : String) (expected : List String)
deriving DecidableEq, Repr, Inhabited

namespace ConfigFault

/-- A name in a message. -/
def quoteName (s : String) : String := "\x60" ++ s ++ "\x60"

/-- The message for a fault, if it has one of its own. -/
def message? : ConfigFault → Option String
  | malformed => none
  | mistyped => none
  | unknownName name expected =>
    some ("unknown variant " ++ quoteName name ++ ", expected one of " ++
      ", ".intercalate (expected.map quoteName))

end ConfigFault

namespace Config

open Toml (Value Entries valueAt?)

/-! ## Values -/

def decodeBool : Value → Except ConfigFault Bool
  | .boolean b => .ok b
  | _ => .error .mistyped

def decodeText : Value → Except ConfigFault String
  | .string s => .ok s
  | _ => .error .mistyped

/-- Whether a value is an empty table or array. -/
def isEmptyValue : Value → Bool
  | .table [] => true
  | .array [] => true
  | _ => false

/-- One of some named things: its name, or a table in which the name alone stands with an empty
value. -/
def decodeName {α : Type} (all : List α) (name : α → String) (v : Value) :
    Except ConfigFault α :=
  let find (s : String) : Except ConfigFault α :=
    match all.find? (name · == s) with
    | some a => .ok a
    | none => .error (.unknownName s (all.map name))
  match v with
  | .string s => find s
  | .table [(s, content)] => do
    let a ← find s
    if isEmptyValue content then return a else throw .mistyped
  | _ => .error .mistyped

def decodeKinds : Value → Except ConfigFault (List NodeKind)
  | .array vs => vs.mapM (decodeName NodeKind.all NodeKind.name)
  | _ => .error .mistyped

/-- A value that may be missing. -/
def decodeOr {α : Type} (decode : Value → Except ConfigFault α) (other : α) :
    Option Value → Except ConfigFault α
  | none => .ok other
  | some v => decode v

/-! ## Settings -/

/-- Settings that belong together, as they are written. -/
inductive Record where
  | named (entries : Entries)
  | listed (values : List Value)

/-- The settings in a value. A date or a time counts as a table without settings. -/
def Record.ofValue : Value → Except ConfigFault Record
  | .table entries => .ok (.named entries)
  | .array vs => .ok (.listed vs)
  | .moment _ => .ok (.named [])
  | _ => .error .mistyped

/-- The settings of a rule. -/
def decodeRule (v : Value) : Except ConfigFault RuleSettings := do
  match ← Record.ofValue v with
  | .named entries =>
    let enabled ← decodeOr decodeBool true (valueAt? entries "enabled")
    let kinds ← decodeOr decodeKinds [] (valueAt? entries "node_types")
    return { enabled, kinds }
  | .listed vs =>
    let enabled ← decodeOr decodeBool true vs[0]?
    let kinds ← decodeOr decodeKinds [] vs[1]?
    return { enabled, kinds }

/-- The settings of a filter. In an array none of them may be missing. -/
def decodeFilter (v : Value) : Except ConfigFault FilterSettings := do
  match ← Record.ofValue v with
  | .named entries =>
    let keyword ← (valueAt? entries "disabling_next_line_comment").mapM decodeText
    let enabled ← decodeOr decodeBool true (valueAt? entries "enabled")
    return { enabled, keyword }
  | .listed (enabled :: keyword :: _) =>
    let enabled ← decodeBool enabled
    let keyword ← decodeText keyword
    return { enabled, keyword := some keyword }
  | .listed [enabled] =>
    let _ ← decodeBool enabled
    throw .mistyped
  | .listed [] => throw .mistyped

/-- The colours of reports. -/
def decodePalette (v : Value) : Except ConfigFault Palette := do
  let standard : Palette := {}
  let mode := decodeOr (decodeName ColorMode.all ColorMode.name) standard.mode
  let error := decodeOr (decodeName Color.all Color.name) standard.error
  let warning := decodeOr (decodeName Color.all Color.name) standard.warning
  match ← Record.ofValue v with
  | .named entries =>
    let error ← error (valueAt? entries "error")
    let mode ← mode (valueAt? entries "ui")
    let warning ← warning (valueAt? entries "warning")
    return { mode, error, warning }
  | .listed vs =>
    let mode ← mode vs[0]?
    let error ← error vs[1]?
    let warning ← warning vs[2]?
    return { mode, error, warning }

/-- Settings by name, in the order of the names. -/
def decodeNamed {α : Type} (decode : Value → Except ConfigFault α) :
    Value → Except ConfigFault (List (String × α))
  | .table entries =>
    (entries.mergeSort fun a b => decide (a.1 ≤ b.1)).mapM fun (name, v) => do
      return (name, ← decode v)
  | _ => .error .mistyped

/-! ## The whole -/

/-- The settings in the entries of a document. -/
def ofToml (entries : Entries) : Except ConfigFault Config := do
  let palette ← decodeOr decodePalette {} (valueAt? entries "color")
  let filters ← decodeOr (decodeNamed decodeFilter) [] (valueAt? entries "filters")
  let rules ← decodeOr (decodeNamed decodeRule) [] (valueAt? entries "rules")
  return { rules, filters, palette }

/-- The settings in a text. -/
def parse (cs : List Char) : Except ConfigFault Config :=
  match Toml.parse? cs with
  | none => .error .malformed
  | some entries => ofToml entries

end Config

end DocLint
