import DocLint.Json.Basic
import DocLint.Tree.Basic

/-!
# Trees as JSON

A node becomes an object with its kind, its span, its value if it has one, and its children if there
are any. Reading takes such an object back; unknown fields are passed over, a missing list of
children is empty, and a value may be missing or null.
-/

namespace DocLint

namespace Position

/-- A position as an object. -/
def toJson (p : Position) : Json :=
  .obj [("line", .num p.line), ("column", .num p.column), ("offset", .num p.offset)]

/-- A natural number read from a field. -/
def number? (fields : List (String × Json)) (name : String) : Option Nat :=
  match Json.field? fields name with
  | some (.num n) => some n
  | _ => none

/-- A position read from an object that has all three numbers. -/
def ofJson? : Json → Option Position
  | .obj fields => do
    let line ← number? fields "line"
    let column ← number? fields "column"
    let offset ← number? fields "offset"
    return ⟨line, column, offset⟩
  | _ => none

end Position

namespace Span

/-- A span as an object. -/
def toJson (s : Span) : Json := .obj [("start", s.start.toJson), ("end", s.stop.toJson)]

/-- A span read from an object that has both ends. -/
def ofJson? : Json → Option Span
  | .obj fields => do
    let start ← (Json.field? fields "start").bind Position.ofJson?
    let stop ← (Json.field? fields "end").bind Position.ofJson?
    return ⟨start, stop⟩
  | _ => none

end Span

namespace Node

/-- The fields of a node other than its children. -/
def ownFields (kind : NodeKind) (span : Span) (value : Option String) : List (String × Json) :=
  [("node_type", .str kind.name), ("span", span.toJson)] ++
    (value.toList.map fun v => ("value", .str v))

mutual

/-- A tree as an object. -/
def toJson : Node → Json
  | ⟨kind, span, value, children⟩ =>
    match toJsonAll children with
    | [] => .obj (ownFields kind span value)
    | c :: cs => .obj (ownFields kind span value ++ [("children", .arr (c :: cs))])

def toJsonAll : List Node → List Json
  | [] => []
  | n :: ns => toJson n :: toJsonAll ns

end

/-- A kind read from its name. -/
def kindOf? (fields : List (String × Json)) : Option NodeKind :=
  match Json.field? fields "node_type" with
  | some (.str s) => NodeKind.ofName? s
  | _ => none

/-- A value read from a field that may be missing or null; anything else must be a string. -/
def valueOf? (fields : List (String × Json)) : Option (Option String) :=
  match Json.field? fields "value" with
  | none | some .null => some none
  | some (.str s) => some (some s)
  | some _ => none

mutual

/-- A tree read from an object. -/
def ofJson? : Json → Option Node
  | .obj fields =>
    match kindOf? fields, (Json.field? fields "span").bind Span.ofJson?, valueOf? fields,
        childrenOf? fields with
    | some kind, some span, some value, some children => some ⟨kind, span, value, children⟩
    | _, _, _, _ => none
  | _ => none

/-- The children among the fields of a node. -/
def childrenOf? : List (String × Json) → Option (List Node)
  | [] => some []
  | (name, v) :: fields => if name == "children" then listOf? v else childrenOf? fields

def listOf? : Json → Option (List Node)
  | .arr elements => allOf? elements
  | _ => none

def allOf? : List Json → Option (List Node)
  | [] => some []
  | v :: vs =>
    match ofJson? v, allOf? vs with
    | some n, some ns => some (n :: ns)
    | _, _ => none

end

end Node

end DocLint
