import Regen.Yaml.Fault

/-!
# Dates and points in time in YAML

A date is written with four, two and two digits. A point in time adds a time of day and a time zone, which may be
missing. Leading zeros of the month, the day and the hour may be left out, but a date alone looks like one only with
all its digits.
-/

namespace Regen.Yaml

/-- The parts of a point in time. -/
structure TimeOfDay where
  hour : Nat
  minute : Nat
  second : Nat
  /-- The distance from the prime meridian in minutes. -/
  zone : Option Int
deriving DecidableEq, Repr

/-- A date, which may or may not exist, with the time of day if there is one. -/
structure Calendar where
  year : Nat
  month : Nat
  day : Nat
  time : Option TimeOfDay
deriving DecidableEq, Repr

namespace Calendar

/-- Reads between `least` and `most` digits at the start of a text. -/
def digitsAhead? (least most : Nat) (text : Text) : Option (Nat × Text) :=
  let digits := (text.takeWhile (Numeral.isDigit 10)).take most
  if digits.length < least then none else some (Numeral.ofDigits 10 digits, text.drop digits.length)

/-- Passes a character at the start of a text. -/
def charAhead? (c : Char) : Text → Option Text
  | d :: rest => if c == d then some rest else none
  | [] => none

/-- The distance that a time zone denotes; no text denotes none. -/
def zone? : Text → Option (Option Int)
  | [] => some none
  | ['Z'] => some (some 0)
  | sign :: rest => do
    if sign ≠ '-' ∧ sign ≠ '+' then none
    let (hours, rest) ← digitsAhead? 1 2 rest
    let minutes ← if rest.isEmpty then some 0 else do
      let (minutes, rest) ← (charAhead? ':' rest).bind (digitsAhead? 2 2)
      if rest.isEmpty then some minutes else none
    let distance : Int := hours * 60 + minutes
    return some (if sign = '-' then -distance else distance)

def ofText? (text : Text) : Option Calendar := do
  let (year, rest) ← digitsAhead? 4 4 text
  let rest ← charAhead? '-' rest
  let (month, afterMonth) ← digitsAhead? 1 2 rest
  let rest ← charAhead? '-' afterMonth
  let (day, afterDay) ← digitsAhead? 1 2 rest
  if afterDay.isEmpty then return ⟨year, month, day, none⟩
  else
    let blanks := afterDay.takeWhile fun c => c == ' ' || c == '\t'
    let rest ← if blanks.isEmpty then (charAhead? 'T' afterDay).or (charAhead? 't' afterDay)
      else some (afterDay.drop blanks.length)
    let (hour, rest) ← digitsAhead? 1 2 rest
    let (minute, rest) ← (charAhead? ':' rest).bind (digitsAhead? 2 2)
    let (second, rest) ← (charAhead? ':' rest).bind (digitsAhead? 2 2)
    let rest := match charAhead? '.' rest with
      | some fraction => fraction.dropWhile (Numeral.isDigit 10)
      | none => rest
    let ending := rest.dropWhile fun c => c == ' ' || c == '\t'
    if ending.isEmpty && !rest.isEmpty then none
    else return ⟨year, month, day, some ⟨hour, minute, second, ← zone? ending⟩⟩

def looksTime (text : Text) : Bool :=
  (ofText? text).any fun calendar => calendar.time.isSome || text.length = 10

def daysIn (year month : Nat) : Nat :=
  if month = 2 then if year % 4 = 0 ∧ (year % 100 ≠ 0 ∨ year % 400 = 0) then 29 else 28
  else if month = 4 ∨ month = 6 ∨ month = 9 ∨ month = 11 then 30
  else 31

/-- What the calendar does not have of a time of day, if anything. -/
def missingTime? (time : TimeOfDay) : Option TimePart :=
  if time.hour > 23 then some .hour
  else if time.minute > 59 then some .minute
  else if time.second > 59 then some .second
  else none

/-- What the calendar does not have, if anything. -/
def missing? (calendar : Calendar) : Option TimePart :=
  if calendar.year = 0 then some .year
  else if calendar.month = 0 ∨ calendar.month > 12 then some .month
  else if calendar.day = 0 ∨ calendar.day > daysIn calendar.year calendar.month then some .day
  else calendar.time.bind missingTime?

/-- Why there is no such date or point in time, if there is none. The time zone is looked at first. -/
def misfit? (calendar : Calendar) : Option Misfit :=
  match calendar.time.bind TimeOfDay.zone with
  | some minutes =>
    if minutes.natAbs ≥ 1440 then some (.farZone minutes) else calendar.missing?.map .outsideCalendar
  | none => calendar.missing?.map .outsideCalendar

end Calendar

end Regen.Yaml
