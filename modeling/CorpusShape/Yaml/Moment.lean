import CorpusShape.Numeric.Literal
import CorpusShape.Value
import CorpusShape.Yaml.Tag
/-!
# Dates and times

A date or a time of the proleptic calendar, checked part by part, and how it is shown.
-/
namespace CorpusShape.Yaml

/-- A date, with the time of day and the seconds by which its zone is ahead if they are given. -/
structure Moment where
  year : Nat
  month : Nat
  day : Nat
  clock : Option (Nat × Nat × Nat × Nat) := none
  ahead : Option Int := none
deriving Repr, DecidableEq

namespace Moment

def isLeap (year : Nat) : Bool := year % 4 == 0 && (year % 100 != 0 || year % 400 == 0)

def daysIn (year month : Nat) : Nat :=
  if month == 2 then (if isLeap year then 29 else 28)
  else if [4, 6, 9, 11].contains month then 30 else 31

/-- The first part that is not in its range. -/
def problem? (m : Moment) : Option String :=
  if m.ahead.any fun z => z ≤ -86400 || 86400 ≤ z then
    some "offset must be a timedelta strictly between -timedelta(hours=24) and timedelta(hours=24)"
  else if m.year == 0 then some "year 0 is out of range"
  else if m.month == 0 || 12 < m.month then some "month must be in 1..12"
  else if m.day == 0 || daysIn m.year m.month < m.day then some "day is out of range for month"
  else
    m.clock.bind fun (h, min, s, _) =>
      if 23 < h then some "hour must be in 0..23"
      else if 59 < min then some "minute must be in 0..59"
      else if 59 < s then some "second must be in 0..59"
      else none

/-- Six digits after the point of the seconds. -/
def micros (places : List Char) : Nat :=
  Numeric.natOfDigits ((places ++ List.replicate 6 '0').take 6)

/-- The moment that the parts of a text stand for. -/
def ofText (t : TimeText) : Moment :=
  let n := Numeric.natOfDigits
  { year := n t.year
    month := n t.month
    day := n t.day
    clock := t.clock.map fun (h, min, s, places) => (n h, n min, n s, micros places)
    ahead := t.zone.map fun
      | none => 0
      | some (behind, h, min) =>
        let seconds : Int := 3600 * n h + 60 * n min
        if behind then -seconds else seconds }

/-- A zone. One that is behind is shown as a day less and the seconds ahead of that. -/
def zoneShown (z : Int) : String :=
  if z == 0 then "datetime.timezone.utc"
  else
    let span := if z < 0 then "days=-1, seconds=" ++ toString (86400 + z) else "seconds=" ++ toString z
    "datetime.timezone(datetime.timedelta(" ++ span ++ "))"

def shown (m : Moment) : String :=
  let date := [toString m.year, toString m.month, toString m.day]
  match m.clock with
  | none => "datetime.date(" ++ String.intercalate ", " date ++ ")"
  | some (h, min, s, micro) =>
    let parts := date ++ [toString h, toString min] ++
      (if s == 0 && micro == 0 then [] else [toString s]) ++ (if micro == 0 then [] else [toString micro]) ++
      (match m.ahead with
        | some z => ["tzinfo=" ++ zoneShown z]
        | none => [])
    "datetime.datetime(" ++ String.intercalate ", " parts ++ ")"

def toValue (m : Moment) : Value := .other (if m.clock.isSome then "datetime" else "date") m.shown

end Moment

end CorpusShape.Yaml
