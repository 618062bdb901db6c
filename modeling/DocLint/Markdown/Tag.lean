/-!
# Tags

The tags of raw HTML, read one character at a time. Inside a paragraph a line ending is as good as a
blank, and a value without quotes is read more strictly; a tag that makes a block of its own has to
stay on one row.

* `TagState.next?` — one step inside an opening tag, after its name;
* `isNameStart`, `isNameRest` — the characters of a tag's name.
-/

namespace DocLint.Markdown

/-- A letter of ASCII. -/
def isNameStart (c : Char) : Bool := c.isAlpha

/-- A letter, a digit or a hyphen. -/
def isNameRest (c : Char) : Bool := c.isAlphanum || c == '-'

/-- What starts the name of an attribute. -/
def isAttributeStart (c : Char) : Bool := c.isAlpha || c == '_' || c == ':'

/-- What the name of an attribute goes on with. -/
def isAttributeRest (c : Char) : Bool :=
  isAttributeStart c || c.isDigit || c == '-' || c == '.'

/-- What is special in a value without quotes. -/
def isValueMark (c : Char) : Bool :=
  c == '"' || c == '\x27' || c == '<' || c == '=' || c == '\x60'

/-- Where a reader is inside an opening tag, after its name. -/
inductive TagState where
  /-- between attributes -/
  | between
  | name
  | nameAfter
  | valueBefore
  | quoted (mark : Char)
  | unquoted
  | valueAfter
  /-- after the slash of a tag that closes itself -/
  | slash
  /-- after the end of the tag -/
  | done
deriving DecidableEq, Repr

namespace TagState

variable (inline : Bool)

/-- A blank, or a line ending inside a paragraph. -/
def isGap (c : Char) : Bool := c == ' ' || c == '\t' || inline && c == '\n'

/-- A character between attributes. -/
def atBetween (c : Char) : Option TagState :=
  if c = '/' then some slash
  else if isAttributeStart c then some name
  else if isGap inline c then some between
  else if c = '>' then some done
  else none

/-- A character after the name of an attribute. -/
def atNameAfter (c : Char) : Option TagState :=
  if c = '=' then some valueBefore
  else if isGap inline c then some nameAfter
  else atBetween inline c

/-- A character of a value without quotes. -/
def atUnquoted (c : Char) : Option TagState :=
  if inline then
    if isValueMark c then none
    else if isGap inline c || c == '/' || c == '>' then atBetween inline c
    else some unquoted
  else if isValueMark c || isGap inline c || c == '/' || c == '>' then atNameAfter inline c
  else some unquoted

/-- The state after one more character of an opening tag. -/
def next? (s : TagState) (c : Char) : Option TagState :=
  match s with
  | between => atBetween inline c
  | name => if isAttributeRest c then some name else atNameAfter inline c
  | nameAfter => atNameAfter inline c
  | valueBefore =>
    if c = '<' ∨ c = '=' ∨ c = '>' ∨ c = '\x60' then none
    else if c = '"' ∨ c = '\x27' then some (quoted c)
    else if isGap inline c then some valueBefore
    else atUnquoted inline c
  | quoted mark => if c = mark then some valueAfter else some (quoted mark)
  | unquoted => atUnquoted inline c
  | valueAfter =>
    if isGap inline c || c == '/' || c == '>' then atBetween inline c else none
  | slash => if c = '>' then some done else none
  | done => none

end TagState

end DocLint.Markdown
