/-!
# Colours

The colours a terminal can show severities in, and when they are shown.
-/

namespace DocLint

/-- A colour without its brightness. -/
inductive Hue where
  | black
  | red
  | green
  | yellow
  | blue
  | magenta
  | cyan
  | white
deriving DecidableEq, Repr, Inhabited

namespace Hue

/-- Every hue, in the order of terminal codes. -/
def all : List Hue := [black, red, green, yellow, blue, magenta, cyan, white]

/-- The name of a hue. -/
def name : Hue → String
  | black => "black"
  | red => "red"
  | green => "green"
  | yellow => "yellow"
  | blue => "blue"
  | magenta => "magenta"
  | cyan => "cyan"
  | white => "white"

/-- The place of a hue in the order. -/
def index (h : Hue) : Nat := all.idxOf h

end Hue

/-- A colour of a terminal. -/
structure Color where
  hue : Hue
  bright : Bool := false
deriving DecidableEq, Repr, Inhabited

namespace Color

/-- Every colour, the bright ones last. -/
def all : List Color := (Hue.all.map fun h => ⟨h, false⟩) ++ Hue.all.map fun h => ⟨h, true⟩

/-- The name of a colour in configurations. -/
def name (c : Color) : String := if c.bright then "bright_" ++ c.hue.name else c.hue.name

/-- The colour with the given name. -/
def ofName? (s : String) : Option Color := all.find? (·.name == s)

/-- The code that makes a terminal write in a colour. -/
def code (c : Color) : Nat := (if c.bright then 90 else 30) + c.hue.index

end Color

/-- When colours are shown. -/
inductive ColorMode where
  /-- if the surroundings ask for them -/
  | auto
  | always
  | never
deriving DecidableEq, Repr, Inhabited

namespace ColorMode

/-- Every mode, in order. -/
def all : List ColorMode := [auto, always, never]

/-- The name of a mode in configurations. -/
def name : ColorMode → String
  | auto => "auto"
  | always => "always"
  | never => "never"

/-- Whether the mode decides on its own, and how. -/
def decision? : ColorMode → Option Bool
  | auto => none
  | always => some true
  | never => some false

end ColorMode

end DocLint
