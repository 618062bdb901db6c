/-!
# Options on a command line

The arguments of a command are options and operands. A long option starts with two hyphens, and its
value comes after an equals sign or is the next argument; a short option is a letter after one
hyphen, several of them may come together, and the value of the last may follow at once. After two
hyphens alone everything is an operand, and so is a hyphen alone.

* `OptionSet` — the options a command knows;
* `OptionSet.next` — the items in the first argument of several.
-/

namespace DocLint.Command

/-- Why the arguments of a command make no sense. -/
inductive UsageFault where
  | unknownOption (name : String)
  | missingValue (name : String)
  | surplusValue (name : String)
  | badValue (name value : String)
  | repeated (name : String)
  | conflict (one other : String)
  | emptyOperand
  | surplusOperand (operand : String)
  | misplacedCommand (name : String)
  | unknownCommand (name : String)
deriving DecidableEq, Repr, Inhabited

/-- What is said of a fault. -/
def UsageFault.message : UsageFault → String
  | unknownOption name => s!"unexpected option '{name}'"
  | missingValue name => s!"a value is required for '{name}'"
  | surplusValue name => s!"'{name}' takes no value"
  | badValue name value => s!"invalid value '{value}' for '{name}'"
  | repeated name => s!"'{name}' cannot be used more than once"
  | conflict one other => s!"'{one}' cannot be used with '{other}'"
  | emptyOperand => "a file must have a name"
  | surplusOperand operand => s!"unexpected argument '{operand}'"
  | misplacedCommand name => s!"the command '{name}' must come before all files"
  | unknownCommand name => s!"unknown command '{name}'"

/-- The options a command knows. -/
structure OptionSet (α : Type) where
  all : List α
  /-- the name of an option without its hyphens -/
  long : α → String
  /-- the letter of an option -/
  short? : α → Option Char
  takesValue : α → Bool

/-- Something on a command line. -/
inductive Item (α : Type) where
  | option (o : α) (value : Option String)
  /-- two hyphens alone -/
  | escape
  | operand (s : String)
  | fault (f : UsageFault)
deriving Repr, Inhabited

namespace OptionSet

variable {α : Type}

/-- The option with a long name. -/
def ofLong? (set : OptionSet α) (name : String) : Option α := set.all.find? (set.long · == name)

/-- The option with a letter. -/
def ofShort? (set : OptionSet α) (c : Char) : Option α := set.all.find? (set.short? · == some c)

/-- The name of an option as it is written. -/
def display (set : OptionSet α) (o : α) : String := "--" ++ set.long o

/-- Whether an argument can be the value of the option before it: it must not look like an option.
-/
def isValue (argument : String) : Bool :=
  argument.toList.head? != some '-' || argument == "-"

/-- An option whose value is the next argument, and the arguments after that. -/
def withNext (set : OptionSet α) (o : α) (rest : List String) : Item α × List String :=
  match rest with
  | value :: rest =>
    if isValue value then (.option o (some value), rest)
    else (.fault (.missingValue (set.display o)), value :: rest)
  | [] => (.fault (.missingValue (set.display o)), [])

/-- The item in a long option without its hyphens, and the arguments after it. -/
def longItem (set : OptionSet α) (cs : List Char) (rest : List String) : Item α × List String :=
  let name := String.ofList (cs.takeWhile (· != '='))
  match set.ofLong? name with
  | none => (.fault (.unknownOption ("--" ++ name)), rest)
  | some o =>
    match cs.dropWhile (· != '='), set.takesValue o with
    | [], false => (.option o none, rest)
    | [], true => set.withNext o rest
    | _ :: _, false => (.fault (.surplusValue (set.display o)), rest)
    | _ :: value, true => (.option o (some (String.ofList value)), rest)

/-- The items in some letters after a hyphen, and the arguments after them. -/
def shortItems (set : OptionSet α) (rest : List String) : List Char → List (Item α) × List String
  | [] => ([], rest)
  | c :: cs =>
    match set.ofShort? c with
    | none => ([.fault (.unknownOption (String.ofList ['-', c]))], rest)
    | some o =>
      if set.takesValue o then
        match cs with
        | [] =>
          let (item, rest) := set.withNext o rest
          ([item], rest)
        | '=' :: value => ([.option o (some (String.ofList value))], rest)
        | value => ([.option o (some (String.ofList value))], rest)
      else
        let (items, rest) := set.shortItems rest cs
        (.option o none :: items, rest)

/-- The items in the first argument, and the arguments after them. -/
def next (set : OptionSet α) (argument : String) (rest : List String) :
    List (Item α) × List String :=
  match argument.toList with
  | ['-'] => ([.operand argument], rest)
  | ['-', '-'] => ([.escape], rest)
  | '-' :: '-' :: cs =>
    let (item, rest) := set.longItem cs rest
    ([item], rest)
  | '-' :: cs => set.shortItems rest cs
  | _ => ([.operand argument], rest)

end OptionSet

end DocLint.Command
