/-!
# Help

What the program says about itself and its commands.
-/

namespace DocLint.Command

/-- What help is about. -/
inductive HelpTopic where
  | program
  | config
  | configInit
  /-- the command that shows help, of the program or of the command for configurations -/
  | help (ofConfig : Bool)
deriving DecidableEq, Repr, Inhabited

/-- The name of the program. -/
def programName : String := "txtlint"

/-- The name and the version of the program. -/
def versionText : String := programName ++ " 0.1.0\n"

/-- What is said of the program. -/
def programHelp : List String :=
  ["Lint Markdown and plain text documents",
    "",
    "Usage: txtlint [OPTIONS] [FILE]... [COMMAND]",
    "",
    "Commands:",
    "  config  Configuration file management",
    "  help    Print this message or the help of the given subcommand(s)",
    "",
    "Arguments:",
    "  [FILE]...  Files or glob patterns to lint, or \x60-\x60 to read from stdin",
    "",
    "Options:",
    "  -o, --format <FORMAT>",
    "          Output format [default: text] [possible values: text, json]",
    "  -c, --config <FILE>",
    "          Path to configuration file",
    "      --stdin-markdown",
    "          Parse stdin as Markdown instead of plain text",
    "      --disable-next-line-keyword <WORD>",
    "          Comment keyword that suppresses diagnostics on the next node",
    "      --color",
    "          Force colored output",
    "      --no-color",
    "          Disable colored output",
    "  -v, --verbose",
    "          Show verbose output",
    "      --no-fail-on-warnings",
    "          Do not exit with non-zero code on warnings (only fail on errors)",
    "  -h, --help",
    "          Print help",
    "  -V, --version",
    "          Print version"]

/-- What is said of the command for configurations. -/
def configHelp : List String :=
  ["Configuration file management",
    "",
    "Usage: txtlint config <COMMAND>",
    "",
    "Commands:",
    "  init  Generate a default .txtlint.toml configuration file",
    "  help  Print this message or the help of the given subcommand(s)",
    "",
    "Options:",
    "  -h, --help  Print help"]

/-- What is said of the command that writes a configuration. -/
def configInitHelp : List String :=
  ["Generate a default .txtlint.toml configuration file",
    "",
    "Usage: txtlint config init [OPTIONS]",
    "",
    "Options:",
    "  -o, --output <OUTPUT>  Output path for the configuration file [default: .txtlint.toml]",
    "      --force            Overwrite existing file",
    "  -h, --help             Print help"]

/-- What is said of the command that shows help. -/
def helpHelp (command : String) : List String :=
  ["Print this message or the help of the given subcommand(s)",
    "",
    "Usage: " ++ command ++ " [COMMAND]...",
    "",
    "Arguments:",
    "  [COMMAND]...  Print help for the subcommand(s)"]

/-- What is said about a topic, line by line. -/
def HelpTopic.lines : HelpTopic → List String
  | program => programHelp
  | config => configHelp
  | configInit => configInitHelp
  | help false => helpHelp "txtlint help"
  | help true => helpHelp "txtlint config help"

/-- What is said about a topic, as it is printed. -/
def HelpTopic.text (t : HelpTopic) : String := String.join (t.lines.map (· ++ "\n"))

/-- The topic that the names of commands lead to. -/
def HelpTopic.ofCommands? : List String → Option HelpTopic
  | [] => some program
  | ["help"] => some (help false)
  | ["config"] => some config
  | ["config", "init"] => some configInit
  | ["config", "help"] => some (help true)
  | _ => none

end DocLint.Command
