/-!
# A configuration to start from

The text of a configuration that names everything there is to set.
-/

namespace DocLint.Config

/-- The lines of a configuration to start from. -/
def templateLines : List String :=
  ["# txtlint configuration",
    "",
    "[rules.no-todo]",
    "enabled = true",
    "",
    "# Reports every node of the listed kinds. Handy for checking directives.",
    "[rules.report-node-types]",
    "enabled = false",
    "node_types = [\"Str\"]",
    "",
    "[filters.disable-next-line]",
    "enabled = true",
    "# Matched as a substring of the comment body:",
    "#   <!-- disable-next-line -->",
    "#   <!-- disable-next-line no-todo, report-node-types -->",
    "disabling_next_line_comment = \"disable-next-line\"",
    "",
    "[color]",
    "ui = \"auto\"",
    "error = \"red\"",
    "warning = \"yellow\""]

/-- The text of a configuration to start from. -/
def template : String := String.join (templateLines.map (· ++ "\n"))

end DocLint.Config
