import Regen.Numeral

/-!
# Faults of YAML streams
-/

namespace Regen.Yaml

/-- The parts of a date and of a time of day. -/
inductive TimePart where
  | year
  | month
  | day
  | hour
  | minute
  | second
deriving DecidableEq, Repr

/-- Why something that is to be a value denotes none. -/
inductive Misfit where
  | numeral (fault : Numeral.Fault)
  /-- A number of which nothing but a sign is left. -/
  | noNumber
  /-- A number to base sixty with a group worth more than every float. -/
  | beyondFloat
  /-- A word that is no truth value. -/
  | noTruth (word : WideText)
  /-- A text that is no point in time. -/
  | noTime
  /-- A point in time that stands inside a mapping. -/
  | mappedTime
  /-- A date or time that the calendar does not have. -/
  | outsideCalendar (part : TimePart)
  /-- A time zone a day or more away from the prime meridian, in minutes. -/
  | farZone (minutes : Int)
  /-- The code of no code point. -/
  | noCharacter
  /-- A code of more than 31 bits. -/
  | oversizedCode
  /-- A value that stands inside itself, or too far inside others. -/
  | endless
deriving DecidableEq, Repr

namespace Misfit

/-- A span of time in messages: whole days, which may be negative, and seconds. -/
def span (minutes : Int) : Text :=
  let days := minutes.fdiv 1440
  let seconds := minutes.fmod 1440 * 60
  let part (name : String) (n : Int) := if n = 0 then [] else [name.toList ++ '=' :: Text.ofInt n]
  "datetime.timedelta(".toList ++ ", ".toList.intercalate (part "days" days ++ part "seconds" seconds) ++ [')']

def message : Misfit → Text
  | numeral fault => fault.message
  | noNumber => "string index out of range".toList
  | beyondFloat => "int too large to convert to float".toList
  | noTruth word => word.quoted
  | noTime => "'NoneType' object has no attribute 'groupdict'".toList
  | mappedTime => "expected string or bytes-like object, got 'list'".toList
  | outsideCalendar .year => "year 0 is out of range".toList
  | outsideCalendar .month => "month must be in 1..12".toList
  | outsideCalendar .day => "day is out of range for month".toList
  | outsideCalendar .hour => "hour must be in 0..23".toList
  | outsideCalendar .minute => "minute must be in 0..59".toList
  | outsideCalendar .second => "second must be in 0..59".toList
  | farZone minutes =>
    "offset must be a timedelta strictly between -timedelta(hours=24) and timedelta(hours=24), not ".toList ++
      span minutes ++ ['.']
  | noCharacter => "chr() arg not in range(0x110000)".toList
  | oversizedCode => "Python int too large to convert to C int".toList
  | endless => "maximum recursion depth exceeded".toList

end Misfit

/-- Why a stream gives no value. -/
inductive Fault where
  /-- The stream is not YAML, or uses what has no value here. -/
  | malformed
  /-- The text ends where it has to go on. -/
  | unfinished
  /-- The rest of the stream cannot be read. -/
  | unreadable
  | misfit (reason : Misfit)
deriving DecidableEq, Repr

end Regen.Yaml
