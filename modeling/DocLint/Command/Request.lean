import DocLint.Command.Help
import DocLint.Command.Options
import DocLint.Config.Find
import DocLint.Report.Basic

/-!
# What is asked for

The arguments of the program ask for one thing: to check documents, to write a configuration to
start from, or to say something about the program. The first argument that makes no sense is a
fault, unless help or the version was asked for before.

* `Request.parse` — what some arguments ask for.
-/

namespace DocLint.Command

/-- How documents are to be checked. -/
structure CheckOptions where
  /-- the documents, as they are named -/
  files : List String := []
  format : ReportFormat := .text
  /-- the path of the configuration -/
  config : Option String := none
  /-- whether the standard input is Markdown -/
  stdinMarkdown : Bool := false
  /-- the keyword of directives -/
  keyword : Option String := none
  color : Bool := false
  noColor : Bool := false
  verbose : Bool := false
  noFailOnWarnings : Bool := false
deriving DecidableEq, Repr, Inhabited

/-- How a configuration is to be written. -/
structure InitOptions where
  output : String := Config.fileName
  /-- whether another file may be overwritten -/
  force : Bool := false
deriving DecidableEq, Repr, Inhabited

/-- What is asked for. -/
inductive Request where
  | check (o : CheckOptions)
  | init (verbose : Bool) (o : InitOptions)
  | help (topic : HelpTopic)
  | version
  /-- a command that is not complete: it is explained -/
  | incomplete (topic : HelpTopic)
deriving Repr, Inhabited

/-! ## Writing a configuration -/

/-- An option of the command that writes a configuration. -/
inductive InitFlag where
  | output
  | force
  | help
deriving DecidableEq, Repr, Inhabited

/-- The options of the command that writes a configuration. -/
def initFlags : OptionSet InitFlag where
  all := [.output, .force, .help]
  long
    | .output => "output"
    | .force => "force"
    | .help => "help"
  short?
    | .output => some 'o'
    | .force => none
    | .help => some 'h'
  takesValue
    | .output => true
    | _ => false

/-- The options of a command so far, with those that were given, or what it asks for after all. -/
inductive Progress (α β : Type) where
  | going (options : α) (given : List β)
  | done (r : Request)

/-- Whether an option may be given: none may be given twice. -/
def once {α : Type} [DecidableEq α] (set : OptionSet α) (given : List α) (o : α) :
    Except UsageFault (List α) :=
  if o ∈ given then .error (.repeated (set.display o)) else .ok (o :: given)

/-- A value that must not be empty. -/
def nonempty (name value : String) : Except UsageFault String :=
  if value.isEmpty then .error (.badValue name value) else .ok value

/-- Take one item into account. -/
def initItem (o : InitOptions) (given : List InitFlag) :
    Item InitFlag → Except UsageFault (Progress InitOptions InitFlag)
  | .fault f => .error f
  | .escape => .ok (.going o given)
  | .operand s => .error (.surplusOperand s)
  | .option .help _ => .ok (.done (.help .configInit))
  | .option .force _ => do
    return .going { o with force := true } (← once initFlags given .force)
  | .option .output value => do
    let given ← once initFlags given .output
    return .going { o with output := ← nonempty "--output" (value.getD "") } given

/-- Take some items into account. -/
def initItems (o : InitOptions) (given : List InitFlag) :
    List (Item InitFlag) → Except UsageFault (Progress InitOptions InitFlag)
  | [] => .ok (.going o given)
  | item :: items => do
    match ← initItem o given item with
    | .done r => return .done r
    | .going o given => initItems o given items

/-- What the arguments of the command that writes a configuration ask for; `limit` is at least their
number. -/
def readInit (verbose : Bool) :
    Nat → InitOptions → List InitFlag → List String → Except UsageFault Request
  | _, o, _, [] => .ok (.init verbose o)
  | 0, o, _, _ :: _ => .ok (.init verbose o)
  | limit + 1, o, given, argument :: rest => do
    let (items, rest) := initFlags.next argument rest
    match ← initItems o given items with
    | .done r => return r
    | .going o given =>
      match items, rest with
      | [.escape], s :: _ => throw (.surplusOperand s)
      | _, rest => readInit verbose limit o given rest

/-- What the arguments of the command for configurations ask for. -/
def readConfig (verbose : Bool) : List String → Except UsageFault Request
  | [] => .ok (.incomplete .config)
  | "init" :: rest => readInit verbose rest.length {} [] rest
  | "help" :: rest =>
    match HelpTopic.ofCommands? ("config" :: rest) with
    | some topic => .ok (.help topic)
    | none => .error (.unknownCommand (" ".intercalate rest))
  | argument :: _ =>
    if argument = "--help" ∨ argument.toList.take 2 = ['-', 'h'] then .ok (.help .config)
    else .error (.unknownCommand argument)

/-! ## Checking documents -/

/-- An option of the program. -/
inductive Flag where
  | format
  | config
  | stdinMarkdown
  | keyword
  | color
  | noColor
  | verbose
  | noFailOnWarnings
  | help
  | version
deriving DecidableEq, Repr, Inhabited

/-- The options of the program. -/
def flags : OptionSet Flag where
  all := [.format, .config, .stdinMarkdown, .keyword, .color, .noColor, .verbose,
    .noFailOnWarnings, .help, .version]
  long
    | .format => "format"
    | .config => "config"
    | .stdinMarkdown => "stdin-markdown"
    | .keyword => "disable-next-line-keyword"
    | .color => "color"
    | .noColor => "no-color"
    | .verbose => "verbose"
    | .noFailOnWarnings => "no-fail-on-warnings"
    | .help => "help"
    | .version => "version"
  short?
    | .format => some 'o'
    | .config => some 'c'
    | .verbose => some 'v'
    | .help => some 'h'
    | .version => some 'V'
    | _ => none
  takesValue
    | .format | .config | .keyword => true
    | _ => false

/-- The options with one more. -/
def CheckOptions.set (o : CheckOptions) (value : String) : Flag → Except UsageFault CheckOptions
  | .format =>
    match ReportFormat.ofName? value with
    | some format => .ok { o with format }
    | none => .error (.badValue "--format" value)
  | .config => do return { o with config := some (← nonempty "--config" value) }
  | .stdinMarkdown => .ok { o with stdinMarkdown := true }
  | .keyword => .ok { o with keyword := some value }
  | .color => .ok { o with color := true }
  | .noColor => .ok { o with noColor := true }
  | .verbose => .ok { o with verbose := true }
  | .noFailOnWarnings => .ok { o with noFailOnWarnings := true }
  | .help => .ok o
  | .version => .ok o

/-- The options with one more file. -/
def CheckOptions.addFile (o : CheckOptions) (file : String) : Except UsageFault CheckOptions :=
  if file.isEmpty then .error .emptyOperand else .ok { o with files := o.files ++ [file] }

/-- What is asked for once all arguments are read: no two of them may contradict each other. -/
def CheckOptions.agree (o : CheckOptions) (r : Request) : Except UsageFault Request :=
  if o.color && o.noColor then .error (.conflict "--color" "--no-color") else .ok r

/-- The names of commands. -/
def commandNames : List String := ["config", "help"]

/-- What a command with its arguments asks for after some options. -/
def readCommand (o : CheckOptions) (name : String) (rest : List String) :
    Except UsageFault Request :=
  if ¬ o.files.isEmpty then .error (.misplacedCommand name)
  else if name = "help" then
    match HelpTopic.ofCommands? rest with
    | some topic => .ok (.help topic)
    | none => .error (.unknownCommand (" ".intercalate rest))
  else do
    match ← readConfig o.verbose rest with
    | .init verbose init => o.agree (.init verbose init)
    | r => return r

/-- Take one item into account; `rest` are the arguments after it. -/
def checkItem (o : CheckOptions) (given : List Flag) (rest : List String) :
    Item Flag → Except UsageFault (Progress CheckOptions Flag)
  | .fault f => .error f
  | .escape => .ok (.going o given)
  | .operand s =>
    if s ∈ commandNames then (readCommand o s rest).map .done
    else do return .going (← o.addFile s) given
  | .option .help _ => .ok (.done (.help .program))
  | .option .version _ => .ok (.done .version)
  | .option flag value => do
    let given ← once flags given flag
    return .going (← o.set (value.getD "") flag) given

/-- Take some items into account. -/
def checkItems (o : CheckOptions) (given : List Flag) (rest : List String) :
    List (Item Flag) → Except UsageFault (Progress CheckOptions Flag)
  | [] => .ok (.going o given)
  | item :: items => do
    match ← checkItem o given rest item with
    | .done r => return .done r
    | .going o given => checkItems o given rest items

/-- What some arguments ask for after some options; `limit` is at least their number. -/
def readCheck : Nat → CheckOptions → List Flag → List String → Except UsageFault Request
  | _, o, _, [] => o.agree (.check o)
  | 0, o, _, _ :: _ => o.agree (.check o)
  | limit + 1, o, given, argument :: rest => do
    let (items, rest) := flags.next argument rest
    match ← checkItems o given rest items with
    | .done r => return r
    | .going o given =>
      match items with
      | [.escape] => do
        let o ← rest.foldlM CheckOptions.addFile o
        o.agree (.check o)
      | _ => readCheck limit o given rest

/-- What some arguments ask for. -/
def Request.parse (arguments : List String) : Except UsageFault Request :=
  readCheck arguments.length {} [] arguments

end DocLint.Command
