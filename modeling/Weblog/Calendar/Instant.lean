import Weblog.Calendar.Layout
import Weblog.Calendar.Mail
/-!
# Instants

The texts that denote an instant: an RFC 3339 timestamp, an RFC 2822 date, a date and time in one of
the layouts, or a date alone. Blanks around the text do not count.

* `readTimestamp`: an RFC 3339 timestamp.
* `readDate`: a date alone, `year-month-day` or `year-month`, with hyphens or slashes.
* `readInstant`: **the instant of a text**, in milliseconds from 1970-01-01, midnight UTC.
* `displayDate`: how a timestamp is shown, as its date in UTC.
-/

namespace Weblog.Calendar

open Text Number

/-! ## RFC 3339 -/

/-- The character between a date and a time: the letter T or a blank. -/
def separator : Scan Unit := fun s =>
  match s with
  | c :: rest => if c = 'T' ∨ c = 't' ∨ c = ' ' then some ((), rest) else none
  | [] => none

/-- The letter of UTC or an offset with a colon. -/
def offsetOrZ : Scan Int := fun s =>
  match s with
  | 'Z' :: rest | 'z' :: rest => some (0, rest)
  | _ => Scan.offset true (Scan.literal ':') s

/-- An RFC 3339 timestamp, with every number at its full width. -/
def timestamp : Scan Timestamp := do
  let year ← Scan.number 4 4
  Scan.literal '-'
  let month ← Scan.number 2 2
  Scan.literal '-'
  let day ← Scan.number 2 2
  separator
  let hour ← Scan.number 2 2
  Scan.literal ':'
  let minute ← Scan.number 2 2
  Scan.literal ':'
  let second ← Scan.number 2 2
  let nanosecond ← Scan.optionalFraction
  let offset ← offsetOrZ
  pure ⟨⟨year, month, day⟩, hour, minute, second, nanosecond, offset⟩

/-- The timestamp that a text denotes after RFC 3339. -/
def readTimestamp (text : List Char) : Option Timestamp :=
  (Scan.whole timestamp text).bind Timestamp.checked

/-- A timestamp as its date in UTC; any other text as it is. -/
def displayDate (text : String) : String :=
  match readTimestamp text.toList with
  | some t => t.utcDate.text
  | none => text

/-! ## Dates alone -/

/-- The number of some digits, if there are as many as asked for. -/
def fixedNumber (width : Nat) (digits : List Char) : Option Nat :=
  if digits.length = width ∧ digits.all Char.isDigit then some (decimalValue digits) else none

/-- The number of one digit or of two. -/
def shortNumber (digits : List Char) : Option Nat :=
  (fixedNumber 1 digits).orElse fun _ => fixedNumber 2 digits

/-- The text in front of a character and the text after it. -/
def splitOnce (c : Char) (text : List Char) : Option (List Char × List Char) :=
  match text.dropWhile (· != c) with
  | [] => none
  | _ :: rest => some (text.takeWhile (· != c), rest)

/-- The year in front of the first separator, and what follows the separator. A year has four
digits, or a sign and six digits. -/
def splitYear (separator : Char) : List Char → Option (Int × List Char)
  | '+' :: text => do
    let (digits, rest) ← splitOnce separator text
    return (← fixedNumber 6 digits, rest)
  | '-' :: text => do
    let (digits, rest) ← splitOnce separator text
    return (-(← fixedNumber 6 digits : Nat), rest)
  | text => do
    let (digits, rest) ← splitOnce separator text
    return (← fixedNumber 4 digits, rest)

/-- The month and the day; without a day, the first. -/
def monthAndDay (separator : Char) (text : List Char) : Option (Nat × Nat) :=
  match text.splitOn separator with
  | [month] => return (← shortNumber month, 1)
  | [month, day] => return (← shortNumber month, ← shortNumber day)
  | _ => none

/-- The date that a text denotes. It uses one separator throughout. -/
def readDate (text : List Char) : Option Date := do
  let separator := if text.contains '/' then '/' else '-'
  let (year, rest) ← splitYear separator text
  let (month, day) ← monthAndDay separator rest
  let date : Date := ⟨year, month, day⟩
  if date.isValid then some date else none

/-! ## Instants -/

/-- The readings of a text, in the order in which they are tried. -/
def readings : List (List Char → Option Timestamp) :=
  [readTimestamp, readMailDate] ++ (offsetLayouts ++ utcLayouts).map Layout.read ++
    [fun text => (readDate text).map Timestamp.midnight]

/-- The instant of a text without blanks around it: the first reading that succeeds counts. -/
def readInstantTrimmed (text : List Char) : Option Int :=
  (readings.findSome? fun read => read text).map Timestamp.millis

/-- The milliseconds from 1970 to the instant that a text stands for. -/
def readInstant (text : String) : Option Int :=
  readInstantTrimmed (trim text.toList)

end Weblog.Calendar
