/-!
# Dates and times in TOML

A date, a time, or both with an optional offset from universal time, in the form of RFC 3339.
Seconds can be left out and a second of 60 is allowed; days have to exist in the calendar.
-/

namespace BoundSql.Toml.DateTime

/-- A number of exactly two digits, and what follows it. -/
def twoDigits? : List Char → Option (Nat × List Char)
  | a :: b :: s =>
    if a.isDigit && b.isDigit then
      some ((a.toNat - '0'.toNat) * 10 + (b.toNat - '0'.toNat), s)
    else none
  | _ => none

/-- What follows an expected character. -/
def skip? (p : Char → Bool) : List Char → Option (List Char)
  | c :: s => if p c then some s else none
  | [] => none

/-- Whether a year has a leap day. -/
def isLeapYear (year : Nat) : Bool := year % 4 == 0 && (year % 100 != 0 || year % 400 == 0)

/-- The number of days of a month. -/
def daysIn (year month : Nat) : Nat :=
  if month = 2 then if isLeapYear year then 29 else 28
  else if month = 4 ∨ month = 6 ∨ month = 9 ∨ month = 11 then 30
  else 31

/-- What follows a date at the start of a text. -/
def afterDate? (s : List Char) : Option (List Char) := do
  let (century, s) ← twoDigits? s
  let (rest, s) ← twoDigits? s
  let year := century * 100 + rest
  let (month, s) ← twoDigits? (← skip? (· == '-') s)
  let (day, s) ← twoDigits? (← skip? (· == '-') s)
  if 1 ≤ month ∧ month ≤ 12 ∧ 1 ≤ day ∧ day ≤ daysIn year month then some s else none

/-- What follows a fraction of a second, if there is one. -/
def afterFraction? : List Char → Option (List Char)
  | '.' :: c :: s => if c.isDigit then some (s.dropWhile Char.isDigit) else none
  | ['.'] => none
  | s => some s

/-- What follows the seconds of a time and their fraction, if there are any. -/
def afterSeconds? : List Char → Option (List Char)
  | ':' :: s => do
    let (second, s) ← twoDigits? s
    if second ≤ 60 then afterFraction? s else none
  | s => some s

/-- What follows a time at the start of a text. -/
def afterTime? (s : List Char) : Option (List Char) := do
  let (hour, s) ← twoDigits? s
  let (minute, s) ← twoDigits? (← skip? (· == ':') s)
  if hour ≤ 23 ∧ minute ≤ 59 then afterSeconds? s else none

/-- Whether a whole text is an offset, or nothing. -/
def isOffset : List Char → Bool
  | [] => true
  | ['Z'] => true
  | ['z'] => true
  | c :: s =>
    (c == '+' || c == '-') &&
      Option.any (fun s => s.isEmpty) do
        let (hour, s) ← twoDigits? s
        let (minute, s) ← twoDigits? (← skip? (· == ':') s)
        if hour ≤ 23 ∧ minute ≤ 59 then some s else none

/-- Whether a whole text is a date. -/
def isDate (s : List Char) : Bool := (afterDate? s).any List.isEmpty

/-- Whether a whole text is a time. -/
def isTime (s : List Char) : Bool := (afterTime? s).any List.isEmpty

/-- Whether a whole text is a date with a time and an optional offset. -/
def isDateWithTime (s : List Char) : Bool :=
  Option.any isOffset do
    let s ← afterDate? s
    afterTime? (← skip? (fun c => c == 'T' || c == 't' || c == ' ') s)

/-- Whether a whole text is a date, a time or both. -/
def isDateTime (s : List Char) : Bool := isDate s || isTime s || isDateWithTime s

end BoundSql.Toml.DateTime
