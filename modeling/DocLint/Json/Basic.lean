/-!
# JSON values

The values that reports and serialized trees are made of: numbers are natural numbers, and an object
keeps its fields in the order they were given.

* `compact` — one line, no spaces;
* `pretty` — one element or field a line, two spaces a level, an empty list or object on one line.
-/

namespace DocLint

/-- A JSON value without negative or fractional numbers. -/
inductive Json where
  | null
  | bool (b : Bool)
  | num (n : Nat)
  | str (s : String)
  | arr (elements : List Json)
  | obj (fields : List (String × Json))
deriving Inhabited

namespace Json

/-- The field of an object with the given name; the first one if there are several. -/
def field? (fields : List (String × Json)) (name : String) : Option Json :=
  (fields.find? (·.1 == name)).map (·.2)

/-! ## Text -/

/-- A hexadecimal digit, in small letters. -/
def hexDigit (n : Nat) : Char := if n < 10 then Char.ofNat (48 + n) else Char.ofNat (87 + n)

/-- A character inside a quoted string: quotes, backslashes and controls are escaped, everything
else stands for itself. -/
def escapeChar (c : Char) : List Char :=
  if c = '"' then ['\\', '"']
  else if c = '\\' then ['\\', '\\']
  else if c = '\n' then ['\\', 'n']
  else if c = '\r' then ['\\', 'r']
  else if c = '\t' then ['\\', 't']
  else if c.toNat = 8 then ['\\', 'b']
  else if c.toNat = 12 then ['\\', 'f']
  else if c.toNat < 32 then
    ['\\', 'u', '0', '0', hexDigit (c.toNat / 16), hexDigit (c.toNat % 16)]
  else [c]

/-- A quoted string. -/
def quote (s : String) : String :=
  String.ofList ('"' :: s.toList.flatMap escapeChar ++ ['"'])

mutual

/-- The text of a value on one line. -/
def compact : Json → String
  | null => "null"
  | bool true => "true"
  | bool false => "false"
  | num n => toString n
  | str s => quote s
  | arr xs => "[" ++ ",".intercalate (compactAll xs) ++ "]"
  | obj fs => "\x7b" ++ ",".intercalate (compactFields fs) ++ "\x7d"

def compactAll : List Json → List String
  | [] => []
  | x :: xs => compact x :: compactAll xs

def compactFields : List (String × Json) → List String
  | [] => []
  | (k, v) :: fs => (quote k ++ ":" ++ compact v) :: compactFields fs

end

/-- Two spaces a level. -/
def indent (level : Nat) : String := String.ofList (List.replicate (2 * level) ' ')

/-- Parts between brackets, one a line; no part leaves just the brackets. -/
def block (level : Nat) (left right : String) : List String → String
  | [] => left ++ right
  | parts =>
    left ++ "\n" ++ ",\n".intercalate (parts.map (indent (level + 1) ++ ·)) ++ "\n" ++
      indent level ++ right

mutual

/-- The text of a value over several lines, starting at the given level. -/
def prettyAt (level : Nat) : Json → String
  | null => "null"
  | bool true => "true"
  | bool false => "false"
  | num n => toString n
  | str s => quote s
  | arr xs => block level "[" "]" (prettyAll (level + 1) xs)
  | obj fs => block level "\x7b" "\x7d" (prettyFields (level + 1) fs)

def prettyAll (level : Nat) : List Json → List String
  | [] => []
  | x :: xs => prettyAt level x :: prettyAll level xs

def prettyFields (level : Nat) : List (String × Json) → List String
  | [] => []
  | (k, v) :: fs => (quote k ++ ": " ++ prettyAt level v) :: prettyFields level fs

end

/-- The text of a value over several lines. -/
def pretty (v : Json) : String := prettyAt 0 v

end Json

end DocLint
