import VhdlLayout.Toml.Rule

/-!
# Dates and times

A date, a time of the day, or a date and a time with an optional offset from
universal time. Only days that exist in the calendar are dates; a minute may have
a leap second.
-/

namespace VhdlLayout.Toml

/-- The year has a 29th of February. -/
def isLeapYear (year : Nat) : Bool := year % 4 == 0 && (year % 100 != 0 || year % 400 == 0)

/-- The number of days in a month. -/
def daysInMonth (year month : Nat) : Nat :=
  if month = 2 then if isLeapYear year then 29 else 28
  else if month ∈ [4, 6, 9, 11] then 30
  else 31

namespace Rule

/-- Takes a number of exactly so many digits. -/
def fixedDigits (count : Nat) : Rule Nat := fun cs =>
  if (cs.take count).length = count ∧ (cs.take count).all Char.isDigit then
    some (Nat.ofDigitChars 10 (cs.take count) 0, cs.drop count)
  else none

/-- Takes a number of two digits within a range. -/
def twoDigits (least greatest : Nat) : Rule Nat :=
  guarded (fixedDigits 2) fun n => least ≤ n && n ≤ greatest

/-- Takes a date. -/
def date : Rule Unit := do
  let year ← fixedDigits 4
  char '-'
  let month ← twoDigits 1 12
  char '-'
  skip (twoDigits 1 (daysInMonth year month))

/-- Takes a fraction of a second. -/
def secondFraction : Rule Unit := do
  char '.'
  skip (satisfying Char.isDigit)
  skip (spanning Char.isDigit)

/-- Takes a time of the day. -/
def time : Rule Unit := do
  skip (twoDigits 0 23)
  char ':'
  skip (twoDigits 0 59)
  char ':'
  skip (twoDigits 0 60)
  skip (optional secondFraction)

/-- Takes an offset from universal time. -/
def offset : Rule Unit := do
  match ← satisfying fun _ => true with
  | 'Z' | 'z' => pure ()
  | '+' | '-' =>
    skip (twoDigits 0 23)
    char ':'
    skip (twoDigits 0 59)
  | _ => failure

/-- Takes a time after a date, and its offset. -/
def timeAfterDate : Rule Unit := do
  char 'T' <|> char 't' <|> char ' '
  time
  skip (optional offset)

/-- Takes a date, a time or both. -/
def moment : Rule Unit := (do date; skip (optional timeAfterDate)) <|> time

end Rule

end VhdlLayout.Toml
