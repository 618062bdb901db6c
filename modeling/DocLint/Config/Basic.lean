import DocLint.Config.Color
import DocLint.Lint.Linter

/-!
# Configurations

What a user may set: which rules and filters run and how, and the colours of reports. What is not
set has a default; a configuration need not name any rule to run it.

* `Config.ruleEnabled`, `Config.filterEnabled`, `Config.keyword?` — what is in force;
* `Config.setKeyword` — the same configuration with another keyword for directives;
* `Linter.ofConfig` — the linter that a configuration asks for.
-/

namespace DocLint

/-- The settings of a rule. -/
structure RuleSettings where
  enabled : Bool := true
  /-- the kinds of node that a kind rule reports -/
  kinds : List NodeKind := []
deriving DecidableEq, Repr, Inhabited

/-- The settings of a filter. -/
structure FilterSettings where
  enabled : Bool := true
  /-- the keyword of the directives that the filter reads -/
  keyword : Option String := none
deriving DecidableEq, Repr, Inhabited

/-- The colours of reports. -/
structure Palette where
  mode : ColorMode := .auto
  error : Color := ⟨.red, false⟩
  warning : Color := ⟨.yellow, false⟩
deriving DecidableEq, Repr, Inhabited

/-- What is set of rules, filters and colours. -/
structure Config where
  /-- the settings of rules by name -/
  rules : List (String × RuleSettings) := []
  /-- the settings of filters by name -/
  filters : List (String × FilterSettings) := []
  palette : Palette := {}
deriving DecidableEq, Repr, Inhabited

namespace Config

/-- The rules that run only if they are enabled by name. -/
def offByDefault : List String := [Rule.nodeKindsName]

/-- The settings of a rule, if there are any. -/
def rule? (c : Config) (name : String) : Option RuleSettings := c.rules.lookup name

/-- The settings of a filter, if there are any. -/
def filter? (c : Config) (name : String) : Option FilterSettings := c.filters.lookup name

/-- Whether a rule runs. -/
def ruleEnabled (c : Config) (name : String) : Bool :=
  match c.rule? name with
  | some r => r.enabled
  | none => !offByDefault.contains name

/-- Whether a filter runs. -/
def filterEnabled (c : Config) (name : String) : Bool :=
  match c.filter? name with
  | some f => f.enabled
  | none => true

/-- The keyword that is set for directives. -/
def keyword? (c : Config) : Option String := (c.filter? NextNodeFilter.name).bind (·.keyword)

/-- Set one of some named settings. -/
def put {α : Type} (settings : List (String × α)) (name : String) (a : α) : List (String × α) :=
  match settings with
  | [] => [(name, a)]
  | (n, b) :: rest => if name == n then (n, a) :: rest else (n, b) :: put rest name a

/-- Set the keyword for directives; the filter that reads them is enabled unless it was disabled
before. -/
def setKeyword (c : Config) (keyword : String) : Config :=
  let settings := (c.filter? NextNodeFilter.name).getD {}
  { c with
    filters := put c.filters NextNodeFilter.name { settings with keyword := some keyword } }

theorem lookup_put {α : Type} (settings : List (String × α)) (name other : String) (a : α) :
    (put settings name a).lookup other =
      if other == name then some a else settings.lookup other := by
  induction settings with
  | nil => by_cases h : other == name <;> simp [put, List.lookup_cons, h]
  | cons e rest ih =>
    obtain ⟨n, b⟩ := e
    by_cases hn : name == n
    · obtain rfl : name = n := by simpa using hn
      by_cases h : other == name <;> simp [put, List.lookup_cons, h]
    · by_cases h : other == n
      · obtain rfl : other = n := by simpa using h
        have hne : (other == name) = false := by
          simp only [beq_eq_false_iff_ne, ne_eq]
          rintro rfl
          simp at hn
        simp [put, hn, hne]
      · simp [put, List.lookup_cons, hn, h, ih]

end Config

/-! ## The linter -/

namespace Linter

/-- The linter that a configuration asks for: the marker rule, the kind rule and the directive
filter, as far as they are enabled. -/
def ofConfig (c : Config) : Linter where
  rules :=
    (if c.ruleEnabled Rule.todoName then [.todoMarkers] else []) ++
      if c.ruleEnabled Rule.nodeKindsName then
        [.nodeKinds Rule.nodeKindsName (((c.rule? Rule.nodeKindsName).map (·.kinds)).getD [])]
      else []
  filters :=
    if c.filterEnabled NextNodeFilter.name then [.ofKeyword (c.keyword?.getD "")] else []

/-- The linter for when nothing is set. -/
def standard : Linter := ofConfig {}

end Linter

end DocLint
