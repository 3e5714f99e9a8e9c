/-
  TestCoverage.Toml.Moment

  Dates and times.  They are checked against the calendar and kept in normal form: a `T`
  between date and time, no zeros at the end of a fraction, and a sign and five characters
  for a distance from universal time.
-/
import TestCoverage.Decimal.Reading
import TestCoverage.Toml.Value

namespace TestCoverage.Toml

/-- Reads exactly so many digits. -/
def readFixed (count : Nat) : Reader (List Char) := fun text =>
  let digits := text.take count
  if digits.length = count ∧ digits.all Char.isDigit then some (digits, text.drop count)
  else none

/-- Reads a number of two digits within bounds. -/
def readTwo (low high : Nat) : Reader (List Char) := fun text => do
  let (digits, rest) ← readFixed 2 text
  if low ≤ Decimal.natural 0 digits ∧ Decimal.natural 0 digits ≤ high then some (digits, rest)
  else none

/-- Reads one given character. -/
def readChar (c : Char) : List Char → Option (List Char)
  | [] => none
  | d :: rest => if d = c then some rest else none

/-- The number of days in a month. -/
def daysIn (year month : Nat) : Nat :=
  if month = 2 then
    if year % 4 = 0 ∧ (year % 100 ≠ 0 ∨ year % 400 = 0) then 29 else 28
  else if month = 4 ∨ month = 6 ∨ month = 9 ∨ month = 11 then 30
  else 31

/-- Reads a date. -/
def readDate : Reader (List Char) := fun text => do
  let (year, rest) ← readFixed 4 text
  let rest ← readChar '-' rest
  let (month, rest) ← readTwo 1 12 rest
  let rest ← readChar '-' rest
  let (day, rest) ← readTwo 1 (daysIn (Decimal.natural 0 year) (Decimal.natural 0 month)) rest
  return (year ++ '-' :: month ++ '-' :: day, rest)

/-- A fraction of a second in normal form: nine digits count, and zeros at the end are left
    out. -/
def fraction (digits : List Char) : List Char :=
  let shown := ((digits.take 9).reverse.dropWhile (· == '0')).reverse
  if shown.isEmpty then [] else '.' :: shown

/-- Reads a time of day.  A minute may have a leap second. -/
def readTime : Reader (List Char) := fun text => do
  let (hour, rest) ← readTwo 0 23 text
  let rest ← readChar ':' rest
  let (minute, rest) ← readTwo 0 59 rest
  let rest ← readChar ':' rest
  let (second, rest) ← readTwo 0 60 rest
  let time := hour ++ ':' :: minute ++ ':' :: second
  match rest with
  | '.' :: behind =>
    let digits := behind.takeWhile Char.isDigit
    if digits.isEmpty then none
    else return (time ++ fraction digits, behind.dropWhile Char.isDigit)
  | _ => return (time, rest)

/-- A number below a hundred in two digits. -/
def twoDigits (n : Nat) : List Char :=
  [Nat.digitChar (n / 10), Nat.digitChar (n % 10)]

/-- A distance from universal time in normal form.  No distance counts as one forwards. -/
def offset (backwards : Bool) (minutes : Nat) : List Char :=
  let sign := if backwards ∧ minutes ≠ 0 then '-' else '+'
  sign :: twoDigits (minutes / 60) ++ ':' :: twoDigits (minutes % 60)

/-- Reads the distance from universal time, if one is given. -/
def readOffset : Reader (List Char) := fun text =>
  match text with
  | [] => some ([], [])
  | c :: rest =>
    if c = 'Z' ∨ c = 'z' then some (['Z'], rest)
    else if c = '+' ∨ c = '-' then do
      let (hour, rest) ← readTwo 0 23 rest
      let rest ← readChar ':' rest
      let (minute, rest) ← readTwo 0 59 rest
      return (offset (c = '-') (Decimal.natural 0 hour * 60 + Decimal.natural 0 minute), rest)
    else some ([], c :: rest)

/-- The text begins with a time of day, good or bad. -/
def startsTime (text : List Char) : Bool :=
  match text with
  | a :: b :: ':' :: _ => a.isDigit && b.isDigit
  | _ => false

/-- The text begins with a date, good or bad. -/
def startsDate (text : List Char) : Bool :=
  match text with
  | a :: b :: c :: d :: '-' :: _ => a.isDigit && b.isDigit && c.isDigit && d.isDigit
  | _ => false

/-- Reads a date, a time, or both. -/
def readMoment : Reader (List Char) := fun text =>
  if startsDate text then do
    let (date, rest) ← readDate text
    match rest with
    | c :: behind =>
      if (c = 'T' ∨ c = 't' ∨ c = ' ') ∧ startsTime behind then do
        let (time, rest) ← readTime behind
        let (offset, rest) ← readOffset rest
        return (date ++ 'T' :: time ++ offset, rest)
      else return (date, rest)
    | [] => return (date, [])
  else readTime text

/-- The moment that a whole string writes. -/
def momentOf? (text : List Char) : Option (List Char) :=
  match readMoment text with
  | some (moment, []) => some moment
  | _ => none

example : readMoment "1979-05-27t07:32:00.10-07:00".toList =
    some ("1979-05-27T07:32:00.1-07:00".toList, []) := by decide +kernel
example : readMoment "1979-05-27 # day".toList =
    some ("1979-05-27".toList, " # day".toList) := by decide +kernel
example : readMoment "2001-02-29".toList = none := by decide +kernel
example : readMoment "24:00:00".toList = none := by decide +kernel
example : momentOf? "1979-05-27 07:32:00-01:39".toList =
    some "1979-05-27T07:32:00-01:39".toList := by decide +kernel
example : momentOf? "1979-05-27 07:32:00-00:99".toList = none := by decide +kernel
example : momentOf? "07:32:00Z".toList = none := by decide +kernel

end TestCoverage.Toml
