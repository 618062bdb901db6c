import DocLint.Text.Search

/-!
# Patterns for paths

A pattern is a path in which some characters stand for others: a question mark for any one
character, a star for any number of them, and characters in brackets for one of them, or for one
that is none of them after an exclamation mark. Two stars that are a whole part of the path stand
for any number of directories.

* `Pattern.parse` — the parts of a pattern, or what is wrong with it;
* `Pattern.covers` — whether a name is one a part stands for.
-/

namespace DocLint.Files

/-- Characters in brackets. -/
inductive Member where
  | one (c : Char)
  | range (first last : Char)
deriving DecidableEq, Repr, Inhabited

/-- What stands for characters of a name. -/
inductive Wildcard where
  | char (c : Char)
  | any
  | many
  | among (members : List Member)
  | except (members : List Member)
deriving DecidableEq, Repr, Inhabited

/-- A part of a pattern between slashes. -/
inductive PatternPart where
  /-- any number of directories -/
  | directories
  | name (wildcards : List Wildcard)
deriving DecidableEq, Repr, Inhabited

/-- What is wrong with a pattern. -/
inductive PatternError where
  | tooManyStars
  | starsNotAlone
  | badBrackets
deriving DecidableEq, Repr, Inhabited

/-- What is said of an error. -/
def PatternError.message : PatternError → String
  | tooManyStars => "wildcards are either regular \x60*\x60 or recursive \x60**\x60"
  | starsNotAlone => "recursive wildcards must form a single path component"
  | badBrackets => "invalid range pattern"

/-- Something wrong at a place of a pattern. -/
structure PatternFault where
  /-- how many characters come before the place -/
  place : Nat
  error : PatternError
deriving DecidableEq, Repr, Inhabited

/-- What is said of a fault. -/
def PatternFault.message (f : PatternFault) : String :=
  s!"Pattern syntax error near position {f.place}: {f.error.message}"

namespace Pattern

/-- The members of a pair of brackets. -/
def members : List Char → List Member
  | a :: '-' :: b :: cs => .range a b :: members cs
  | c :: cs => .one c :: members cs
  | [] => []

/-- The rest of a pair of brackets after the first member, which may be a closing bracket itself:
the characters up to the closing bracket, and what follows it. -/
def closeBrackets? (first : Char) (cs : List Char) : Option (List Char × List Char) :=
  match cs.dropWhile (· != ']') with
  | _ :: rest => some (first :: cs.takeWhile (· != ']'), rest)
  | [] => none

/-- What a pair of brackets stands for whose opening one was read, and what follows it. -/
def brackets? : List Char → Option (Wildcard × List Char)
  | '!' :: c :: cs => (closeBrackets? c cs).map fun (body, rest) => (.except (members body), rest)
  | '!' :: [] => none
  | c :: cs => (closeBrackets? c cs).map fun (body, rest) => (.among (members body), rest)
  | [] => none

/-- What some stars stand for, of which the first is at `place` right after `before`: one star for
many characters, two for directories if they stand between slashes. -/
def stars (place : Nat) (before : Option Char) (count : Nat) (rest : List Char) :
    Except PatternFault (List Wildcard) :=
  if count = 1 then .ok [.many]
  else if 2 < count then .error ⟨place + 2, .tooManyStars⟩
  else if before.any (· != '/') then .error ⟨place - 1, .starsNotAlone⟩
  else if rest.head?.any (· != '/') then .error ⟨place + 2, .starsNotAlone⟩
  else .ok []

/-- What the characters of a pattern stand for. They start at `place` right after `before`, and
there are at most `limit` of them. Two stars stand for nothing here. -/
def wildcards : Nat → Nat → Option Char → List Char → Except PatternFault (List Wildcard)
  | _, _, _, [] => .ok []
  | 0, _, _, _ :: _ => .ok []
  | limit + 1, place, before, c :: cs =>
    if c = '?' then do
      return .any :: (← wildcards limit (place + 1) (some c) cs)
    else if c = '*' then do
      let count := (cs.takeWhile (· == '*')).length + 1
      let rest := cs.dropWhile (· == '*')
      let found ← stars place before count rest
      return found ++ (← wildcards limit (place + count) (some c) rest)
    else if c = '[' then
      match brackets? cs with
      | none => .error ⟨place, .badBrackets⟩
      | some (w, rest) => do
        return w :: (← wildcards limit (place + (cs.length - rest.length) + 1) (some ']') rest)
    else do
      return .char c :: (← wildcards limit (place + 1) (some c) cs)

/-- What a text stands for. -/
def read (cs : List Char) : Except PatternFault (List Wildcard) := wildcards cs.length 0 none cs

/-- A part of a pattern. -/
def part (cs : List Char) : Except PatternFault PatternPart :=
  if cs = ['*', '*'] then .ok .directories else (read cs).map .name

/-- The parts of a text between slashes, of which one at the end ends the last part. -/
def pieces (cs : List Char) : List (List Char) :=
  let all := Text.pieces '/' cs
  if all.getLast? = some [] then all.dropLast else all

/-- Several parts for directories in a row say no more than one. -/
def collapse : List PatternPart → List PatternPart
  | .directories :: .directories :: ps => collapse (.directories :: ps)
  | p :: ps => p :: collapse ps
  | [] => []

/-- The parts of a pattern. The pattern must make sense as a whole and part by part. -/
def parse (cs : List Char) : Except PatternFault (List PatternPart) := do
  let _ ← read cs
  let parts ← (pieces (if cs.head? = some '/' then cs.tail else cs)).mapM part
  return collapse parts

/-! ## Names -/

/-- Whether a character is among some in brackets. -/
def inBrackets (members : List Member) (c : Char) : Bool :=
  members.any fun
    | .one d => c == d
    | .range first last => first ≤ c && c ≤ last

/-- Whether wildcards stand for a name. -/
def covers : List Wildcard → List Char → Bool
  | [], cs => cs.isEmpty
  | .many :: ws, cs => coversMany (covers ws) cs
  | .char d :: ws, cs => coversOne (· == d) (covers ws) cs
  | .any :: ws, cs => coversOne (fun _ => true) (covers ws) cs
  | .among ms :: ws, cs => coversOne (inBrackets ms) (covers ws) cs
  | .except ms :: ws, cs => coversOne (fun c => !inBrackets ms c) (covers ws) cs
where
  /-- One character that satisfies `p`, then a text that satisfies `rest`. -/
  coversOne (p : Char → Bool) (rest : List Char → Bool) : List Char → Bool
    | [] => false
    | c :: cs => p c && rest cs
  /-- Any number of characters, then a text that satisfies `rest`. -/
  coversMany (rest : List Char → Bool) : List Char → Bool
    | [] => rest []
    | c :: cs => rest (c :: cs) || coversMany rest cs

/-- The name that wildcards spell out, if each of them is a character. -/
def literal? : List Wildcard → Option (List Char)
  | [] => some []
  | .char c :: ws => (literal? ws).map (c :: ·)
  | _ :: _ => none

end Pattern

end DocLint.Files
