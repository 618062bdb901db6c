import DocLint.Text.Blank
import DocLint.Text.Search

/-!
# Log records

What a program says about its work, for those who want to know. A record has a level and a target,
which names the part of the program; a filter says up to which level the records of which targets
are shown.

* `LogFilter.parse` — the filter that a text describes, and what in the text makes no sense;
* `LogFilter.shows` — whether a record is shown.
-/

namespace DocLint

/-- How much a record matters. -/
inductive LogLevel where
  | error
  | warn
  | info
  | debug
  | trace
deriving DecidableEq, Repr, Inhabited

namespace LogLevel

/-- Every level, the gravest first. -/
def all : List LogLevel := [error, warn, info, debug, trace]

/-- The name of a level. -/
def name : LogLevel → String
  | error => "ERROR"
  | warn => "WARN"
  | info => "INFO"
  | debug => "DEBUG"
  | trace => "TRACE"

/-- How far down a level is in the order; zero is for no level at all. -/
def depth (l : LogLevel) : Nat := all.idxOf l + 1

end LogLevel

/-- Something a part of the program says. -/
structure LogRecord where
  level : LogLevel
  target : String
  message : String
deriving DecidableEq, Repr, Inhabited

namespace LogRecord

/-- A name with blanks after it up to five characters. -/
def padded (s : String) : String := s ++ String.ofList (List.replicate (5 - s.length) ' ')

/-- A record as a line of text. -/
def line (r : LogRecord) : String := s!"[{padded r.level.name} {r.target}] {r.message}"

end LogRecord

/-! ## Filters -/

/-- How deep the records of some targets are shown. -/
structure LogDirective where
  /-- how the targets start; none for all targets -/
  target : Option String
  depth : Nat
deriving DecidableEq, Repr, Inhabited

/-- Whether a directive is meant for a target. -/
def LogDirective.concerns (d : LogDirective) (target : String) : Bool :=
  d.target.all fun t => t.toList.isPrefixOf target.toList

/-- Which records are shown. -/
structure LogFilter where
  directives : List LogDirective
  /-- what the message must contain -/
  pattern : String := ""
deriving DecidableEq, Repr, Inhabited

namespace LogFilter

/-- The depth that a name stands for, in whatever letter case. -/
def depth? (name : String) : Option Nat :=
  let upper := String.ofList (name.toList.map Char.toUpper)
  if upper = "OFF" then some 0
  else (LogLevel.all.find? (·.name == upper)).map (·.depth)

/-- The depth that shows everything. -/
def deepest : Nat := LogLevel.trace.depth

/-- One directive: a level, a target, or both with an equals sign between them. -/
def directive (cs : List Char) : Except String LogDirective :=
  match Text.pieces '=' cs with
  | [only] =>
    match depth? (String.ofList only) with
    | some depth => .ok ⟨none, depth⟩
    | none => .ok ⟨some (String.ofList only), deepest⟩
  | [target, level] =>
    let level := String.ofList (Text.trim level)
    if level.isEmpty then .ok ⟨some (String.ofList target), deepest⟩
    else
      match depth? level with
      | some depth => .ok ⟨some (String.ofList target), depth⟩
      | none => .error s!"invalid logging spec '{level}'"
  | _ => .error s!"invalid logging spec '{String.ofList cs}'"

/-- Add a directive; it takes the place of one for the same targets. -/
def add (directives : List LogDirective) (new : LogDirective) : List LogDirective :=
  if directives.any (·.target == new.target) then
    directives.map fun old => if old.target == new.target then new else old
  else directives ++ [new]

/-- The directives in some texts, and what makes no sense in them. -/
def collect (texts : List (List Char)) : List LogDirective × List String :=
  texts.foldl
    (fun (found, wrong) text =>
      match directive text with
      | .ok new => (add found new, wrong)
      | .error message => (found, wrong ++ [message]))
    ([], [])

/-- Without a directive the gravest records are shown. -/
def orDefault (directives : List LogDirective) : List LogDirective :=
  if directives.isEmpty then [⟨none, LogLevel.error.depth⟩] else directives

/-- The filter that a text describes, and what makes no sense in it: directives with commas between
them, and after a slash what messages must contain. -/
def parse (text : String) : LogFilter × List String :=
  match Text.pieces '/' text.toList with
  | directives :: rest =>
    if 1 < rest.length then
      (⟨orDefault [], ""⟩, [s!"invalid logging spec '{text}' (too many '/'s)"])
    else
      let texts := ((Text.pieces ',' directives).map Text.trim).filter (!·.isEmpty)
      let (found, wrong) := collect texts
      (⟨orDefault found, String.ofList (rest.headD [])⟩, wrong)
  | [] => (⟨orDefault [], ""⟩, [])

/-- The filter that shows the records of all targets to some level. -/
def upTo (level : LogLevel) : LogFilter := ⟨[⟨none, level.depth⟩], ""⟩

/-- The directive that decides for a target: of those that are meant for it, the one that says most
about it, and of two equal ones the last. -/
def deciding? (f : LogFilter) (target : String) : Option LogDirective :=
  let size (d : LogDirective) : Nat := (d.target.map String.utf8ByteSize).getD 0
  (f.directives.filter (·.concerns target)).foldl
    (fun best d => if best.any fun b => size d < size b then best else some d) none

/-- Whether a record is shown. -/
def shows (f : LogFilter) (r : LogRecord) : Bool :=
  ((f.deciding? r.target).any fun d => r.level.depth ≤ d.depth) &&
    (Text.splitOnce? f.pattern.toList r.message.toList).isSome

end LogFilter

end DocLint
