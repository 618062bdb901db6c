import DocLint.Toml.Key
import DocLint.Toml.Value

/-!
# Tables in the making

While a document is read, a table is not only its entries: it also matters what brought it about. A
table may be opened by its own header once, after it was implied by the header of a table below it;
one that the keys of an assignment brought about is closed to headers, and one that a header brought
about is closed to the keys of other assignments.

* `Draft` — a table in the making, and `Item`, what stands at one of its keys;
* `Draft.assign?`, `Draft.open?`, `Draft.append?` — an assignment, the header of a table, and the
  header of one more table in an array of tables;
* `Draft.entries` — the table once it is complete.
-/

namespace DocLint.Toml

/-- What brought a table about. -/
inductive Cause where
  /-- its own header, or the start of the document -/
  | header
  /-- the header of a table below it -/
  | implied
  /-- the keys of an assignment -/
  | keys
deriving DecidableEq, Repr, Inhabited

/-- What stands at a key of a table in the making. -/
inductive Item where
  | value (v : Value)
  | table (cause : Cause) (items : List (String × Item))
  /-- an array of tables; the table that is last is first here -/
  | tables (latest : List (List (String × Item)))
deriving Inhabited

/-- The keys of a table in the making with what stands at them. -/
abbrev Draft := List (String × Item)

namespace Draft

/-- What stands at a key. -/
def item? (d : Draft) (key : String) : Option Item := (d.find? (·.1 == key)).map (·.2)

/-- Let `i` stand at a key: in the place of what stood there, or after all others. -/
def put (d : Draft) (key : String) (i : Item) : Draft :=
  if (item? d key).isSome then d.map fun e => if e.1 == key then (key, i) else e
  else d ++ [(key, i)]

/-- Change the table that some keys lead to. Tables that are missing on the way are brought about.
The keys lead into the latest of an array of tables; they lead nowhere below another value, nor, if
they are those of an assignment, into a table with a header of its own. `change` learns what brought
about the table it changes. -/
def update? (cause : Cause) (change : Cause → Draft → Option Draft) (here : Cause) :
    List String → Draft → Option Draft
  | [], d => change here d
  | key :: keys, d =>
    match item? d key with
    | none => (update? cause change cause keys []).map fun below => d.put key (.table cause below)
    | some (.table made items) =>
      if cause = .keys ∧ made = .header then none
      else (update? cause change made keys items).map fun below => d.put key (.table made below)
    | some (.tables (latest :: others)) =>
      (update? cause change .header keys latest).map fun below =>
        d.put key (.tables (below :: others))
    | some (.tables []) => none
    | some (.value _) => none

/-- Assign a value to a path of keys, seen from this table. The table that takes the value must have
been brought about by such keys, unless the path is a single key, and the last key must be new. -/
def assign? (d : Draft) (path : KeyPath) (v : Value) : Option Draft :=
  update? .keys
    (fun made items =>
      if path.above ≠ [] ∧ made ≠ .keys then none
      else if (item? items path.last).isSome then none
      else some (items.put path.last (.value v)))
    .header path.above d

/-- Open a table by its header: it must be new, or implied so far. -/
def open? (d : Draft) (path : KeyPath) : Option Draft :=
  update? .implied
    (fun _ items =>
      match item? items path.last with
      | none => some (items.put path.last (.table .header []))
      | some (.table .implied below) => some (items.put path.last (.table .header below))
      | some _ => none)
    .header path.above d

/-- Append a table to an array of tables, which must be new or made of such headers only. -/
def append? (d : Draft) (path : KeyPath) : Option Draft :=
  update? .implied
    (fun _ items =>
      match item? items path.last with
      | none => some (items.put path.last (.tables [[]]))
      | some (.tables latest) => some (items.put path.last (.tables ([] :: latest)))
      | some _ => none)
    .header path.above d

/-- Assign a value to a path of keys, seen from the table that the latest header leads to. -/
def assignUnder? (d : Draft) (header : List String) (path : KeyPath) (v : Value) : Option Draft :=
  update? .implied (fun _ items => assign? items path v) .header header d

end Draft

mutual

/-- The value that stands at a key once the table is complete. -/
def Item.complete : Item → Value
  | .value v => v
  | .table _ items => .table (Draft.entries items)
  | .tables latest => .array (Draft.completeAll latest).reverse

/-- The entries of a complete table. -/
def Draft.entries : Draft → Entries
  | [] => []
  | (key, i) :: items => (key, i.complete) :: Draft.entries items

/-- The tables of a complete array of tables. -/
def Draft.completeAll : List Draft → List Value
  | [] => []
  | d :: ds => .table (Draft.entries d) :: Draft.completeAll ds

end

end DocLint.Toml
