import Ramp.Document.Basic
import Ramp.Toml.Filler

/-!
# `Toml.Date` — dates and times of day

## Contents
- `number`: digits of a fixed count, up to a limit.
- `daysIn`: the length of a month.
- `day`, `time`, `zone`, and `date`: a date, a time of day, or both.
-/

namespace Ramp.Toml

open Reader

/-- A number of exactly so many digits, which may not exceed a limit. -/
def number (digits limit : Nat) : Reader Nat := do
  let cs ← (List.range digits).mapM fun _ => one Char.isDigit
  let n := Nat.ofDigitChars 10 cs 0
  if n ≤ limit then return n else failure

/-- Whether February has a 29th day in a year. -/
def isLeapYear (year : Nat) : Bool :=
  year % 4 == 0 && (year % 100 != 0 || year % 400 == 0)

/-- How many days a month has. -/
def daysIn (year month : Nat) : Nat :=
  if month = 2 then (if isLeapYear year then 29 else 28)
  else if month = 4 ∨ month = 6 ∨ month = 9 ∨ month = 11 then 30
  else 31

/-- A year, a month and a day. -/
def day : Reader Unit := do
  let year ← number 4 9999
  mark "-"
  let month ← number 2 12
  mark "-"
  let day ← number 2 (daysIn year month)
  if 1 ≤ month ∧ 1 ≤ day then return () else failure

/-- Hours, minutes, seconds and, if need be, parts of a second. -/
def time : Reader Unit := do
  discard <| number 2 23
  mark ":"
  discard <| number 2 59
  mark ":"
  discard <| number 2 60
  discard <| optional do
    mark "."
    discard <| one Char.isDigit
    discard <| takeAll Char.isDigit

/-- How far a time zone is from the one at Greenwich. -/
def zone : Reader Unit :=
  mark "Z" <|> mark "z" <|> do
    mark "+" <|> mark "-"
    discard <| number 2 23
    mark ":"
    discard <| number 2 59

/-- A date, which may have a time of day, which may have a zone. -/
def dayAndTime : Reader Unit := do
  day
  discard <| optional do
    mark "T" <|> mark "t" <|> mark " "
    time
    discard <| optional zone

/-- A date, a time of day, or both. -/
def date : Reader Document := do
  dayAndTime <|> time
  return .date

end Ramp.Toml
