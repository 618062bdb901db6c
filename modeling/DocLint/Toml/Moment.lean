import DocLint.Text.Digit

/-!
# Dates and times

How a date, a time of day, or a date with a time is written. The numbers in it must be those of a
day in the calendar and of a minute of the day; the seconds may be left out, and a leap second is
none too many.

* `afterDate?`, `afterTime?`, `afterOffset?` — what follows each part;
* `isMoment` — the whole text is a date, a time, or both.
-/

namespace DocLint.Toml

/-- The number that the first `n` characters stand for, which must be digits, and what follows. -/
def digits? (n : Nat) (cs : List Char) : Option (Nat × List Char) :=
  let ds := cs.take n
  if ds.length = n ∧ ds.all Char.isDigit then some (Text.numberValue 10 ds, cs.drop n) else none

/-- What follows a certain character. -/
def after? (mark : Char) : List Char → Option (List Char)
  | [] => none
  | c :: cs => if c = mark then some cs else none

/-- Whether a year has a day more than others. -/
def isLeapYear (year : Nat) : Bool := year % 4 = 0 && (year % 100 ≠ 0 || year % 400 = 0)

/-- How many days a month has; none if there is no such month. -/
def daysIn (year month : Nat) : Nat :=
  if month = 2 then if isLeapYear year then 29 else 28
  else if month ∈ [4, 6, 9, 11] then 30
  else if 1 ≤ month ∧ month ≤ 12 then 31
  else 0

/-- What follows a date. -/
def afterDate? (cs : List Char) : Option (List Char) := do
  let (year, cs) ← digits? 4 cs
  let cs ← after? '-' cs
  let (month, cs) ← digits? 2 cs
  let cs ← after? '-' cs
  let (day, cs) ← digits? 2 cs
  if 1 ≤ day ∧ day ≤ daysIn year month then some cs else none

/-- What follows the fraction of a second, which may be missing. -/
def afterFraction? : List Char → Option (List Char)
  | '.' :: cs => if cs.head?.any Char.isDigit then some (cs.dropWhile Char.isDigit) else none
  | cs => some cs

/-- What follows the seconds of a time, which may be missing. -/
def afterSeconds? : List Char → Option (List Char)
  | ':' :: cs => do
    let (second, cs) ← digits? 2 cs
    if second ≤ 60 then afterFraction? cs else none
  | cs => some cs

/-- What follows an hour and a minute. -/
def afterMinute? (cs : List Char) : Option (List Char) := do
  let (hour, cs) ← digits? 2 cs
  let cs ← after? ':' cs
  let (minute, cs) ← digits? 2 cs
  if hour < 24 ∧ minute < 60 then some cs else none

/-- What follows a time of day. -/
def afterTime? (cs : List Char) : Option (List Char) := (afterMinute? cs).bind afterSeconds?

/-- What follows the offset of a time zone, which may be missing. -/
def afterOffset? : List Char → Option (List Char)
  | 'Z' :: cs => some cs
  | 'z' :: cs => some cs
  | '+' :: cs => afterMinute? cs
  | '-' :: cs => afterMinute? cs
  | cs => some cs

/-- Whether a character may stand between a date and a time. -/
def isDateMark (c : Char) : Bool := c = 'T' || c = 't' || c = ' '

/-- A date without a time. -/
def isDate (cs : List Char) : Bool := afterDate? cs == some []

/-- A date, a time, or both. -/
def isMoment (cs : List Char) : Bool :=
  match afterDate? cs with
  | some [] => true
  | some (mark :: time) => isDateMark mark && (afterTime? time).bind afterOffset? == some []
  | none => afterTime? cs == some []

end DocLint.Toml
