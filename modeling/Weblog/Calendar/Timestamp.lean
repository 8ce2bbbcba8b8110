import Weblog.Calendar.Date
/-!
# Timestamps

A timestamp is a date and a time of day at an offset from UTC. A second numbered 60 is a leap
second: it shares the date and the minute of second 59.

* `Timestamp.isValid`: the date, the time and the offset exist, and so does the date in UTC.
* `Timestamp.millis`: the milliseconds from 1970-01-01, midnight UTC.
* `Timestamp.utcDate`: the date in UTC.
-/

namespace Weblog.Calendar

/-- A date and a time of day, `offset` seconds ahead of UTC. -/
structure Timestamp where
  date : Date
  hour : Nat
  minute : Nat
  second : Nat
  nanosecond : Nat
  offset : Int
  deriving DecidableEq

namespace Timestamp

def midnight (date : Date) : Timestamp :=
  ⟨date, 0, 0, 0, 0, 0⟩

/-- The seconds from midnight UTC of the date to the timestamp, a leap second not counted. -/
def utcSeconds (t : Timestamp) : Int :=
  3600 * t.hour + 60 * t.minute + (min t.second 59 : Nat) - t.offset

/-- The date in universal time. -/
def utcDate (t : Timestamp) : Date :=
  t.date.shift (t.utcSeconds / 86400)

/-- Whether the moment exists. A leap second is let through. -/
def isValid (t : Timestamp) : Bool :=
  t.date.isValid && t.hour < 24 && t.minute < 60 && t.second ≤ 60 &&
    -86400 < t.offset && t.offset < 86400 && t.utcDate.isValid

/-- The milliseconds from the beginning of 1970. -/
def millis (t : Timestamp) : Int :=
  86400000 * t.date.dayNumber + 3600000 * t.hour + 60000 * t.minute + 1000 * t.second +
    (t.nanosecond / 1000000 : Nat) - 1000 * t.offset

def checked (t : Timestamp) : Option Timestamp :=
  if t.isValid then some t else none

end Timestamp

end Weblog.Calendar
