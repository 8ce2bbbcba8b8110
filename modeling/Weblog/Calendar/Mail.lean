import Weblog.Calendar.Scan
/-!
# RFC 2822 dates

The dates of mail headers: an optional day of the week, day, month name, year, time of day and zone,
and comments in parentheses after it.

* `zoneOffset`: the zones with a name.
* `skipComment`: the text after a comment; comments nest.
* `readMailDate`: **the timestamp of an RFC 2822 date**. A day of the week has to be the right one.
-/

namespace Weblog.Calendar

open Text

def monthNames : List String :=
  ["jan", "feb", "mar", "apr", "may", "jun", "jul", "aug", "sep", "oct", "nov", "dec"]

def dayNames : List String :=
  ["mon", "tue", "wed", "thu", "fri", "sat", "sun"]

/-- The day of the week of a date as its place in `dayNames`. -/
def Date.weekday (d : Date) : Nat :=
  ((d.dayNumber + 3) % 7).toNat

/-! ## Zones -/

/-- The offset of a zone name in seconds. Military zones other than J count as UTC. -/
def zoneOffset (name : List Char) : Option Int :=
  match String.ofList (name.map Char.toLower) with
  | "gmt" | "ut" | "z" => some 0
  | "edt" => some (-4 * 3600)
  | "est" | "cdt" => some (-5 * 3600)
  | "cst" | "mdt" => some (-6 * 3600)
  | "mst" | "pdt" => some (-7 * 3600)
  | "pst" => some (-8 * 3600)
  | "j" => none
  | _ => if name.length = 1 then some 0 else none

/-- A zone: letters name one, otherwise it is an offset without a colon. -/
def zone : Scan Int := fun s =>
  let name := s.takeWhile Char.isAlpha
  if name.isEmpty then Scan.offset false (pure ()) s
  else (zoneOffset name).map fun seconds => (seconds, s.dropWhile Char.isAlpha)

/-! ## Comments -/

/-- The text after the parenthesis that closes the outermost of `depth` comments. A backslash takes
its meaning from the character after it. -/
def skipComment (depth : Nat) : List Char → Option (List Char)
  | [] => none
  | '\\' :: _ :: rest => skipComment depth rest
  | '(' :: rest => skipComment (depth + 1) rest
  | ')' :: rest => if depth ≤ 1 then some rest else skipComment (depth - 1) rest
  | _ :: rest => skipComment depth rest

/-- A text without the comments in parentheses at its beginning. -/
def skipComments : Nat → List Char → List Char
  | 0, s => s
  | most + 1, s =>
    match trimStart s with
    | '(' :: rest =>
      match skipComment 1 rest with
      | some rest => skipComments most rest
      | none => s
    | _ => s

def comments : Scan Unit := fun s => some ((), skipComments s.length s)

/-! ## Dates -/

/-- A day of the week and a comma, if the text begins with one. -/
def optionalWeekday : Scan (Option Nat) := fun s =>
  match Scan.name dayNames s with
  | some (day, ',' :: rest) => some (some day, rest)
  | some _ => none
  | none => some (none, s)

/-- A year. Years of two digits lie in 1950 to 2049, years of three digits count from 1900. -/
def mailYear : Scan Int := do
  let (n, digits) ← Scan.longNumber 2
  if digits = 2 then pure (if n < 50 then n + 2000 else n + 1900)
  else if digits = 3 then pure (n + 1900)
  else pure n

/-- The seconds after a second colon, zero if there is none. -/
def optionalSecond : Scan Nat := fun s =>
  match trimStart s with
  | ':' :: rest => Scan.number 2 2 rest
  | _ => some (0, s)

/-- The day of the week and the timestamp of an RFC 2822 date. -/
def mailDate : Scan (Option Nat × Timestamp) := do
  Scan.blanks
  let weekday ← optionalWeekday
  Scan.blanks
  let day ← Scan.number 1 2
  Scan.someBlanks
  let month ← Scan.name monthNames
  Scan.someBlanks
  let year ← mailYear
  Scan.someBlanks
  let hour ← Scan.number 2 2
  Scan.blanks
  Scan.literal ':'
  Scan.blanks
  let minute ← Scan.number 2 2
  let second ← optionalSecond
  Scan.someBlanks
  let offset ← zone
  comments
  pure (weekday, ⟨⟨year, month + 1, day⟩, hour, minute, second, 0, offset⟩)

/-- The moment of a date line of a mail, if its day of the week is right. -/
def readMailDate (text : List Char) : Option Timestamp := do
  let (weekday, t) ← Scan.whole mailDate text
  let t ← t.checked
  if weekday = none ∨ weekday = some t.date.weekday then some t else none

end Weblog.Calendar
