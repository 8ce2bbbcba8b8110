import Weblog.Calendar.Scan
/-!
# Date layouts

A layout lists the parts of a date and time in the order in which they are written. Numbers may be
shorter than their usual width, and blanks may stand in front of a number.

* `Part`, `Part.read`: a part and how it is read into a timestamp.
* `Layout.read`: a whole text in a layout.
* `offsetLayouts`, `utcLayouts`: the layouts with an offset, and those of times in UTC.
-/

namespace Weblog.Calendar

open Text

/-- The parts of a written moment. -/
inductive Part
  | year
  | month
  | day
  | hour
  | minute
  | second
  | fraction
  | offset
  | blanks
  | literal (c : Char)
  deriving DecidableEq

namespace Part

/-- A number of at most two digits after blanks. -/
def shortNumber : Scan Nat := do
  Scan.blanks
  Scan.number 1 2

/-- A year after blanks. With a sign it has any number of digits, otherwise at most four. -/
def yearNumber : Scan Int := do
  Scan.blanks
  match ← get with
  | '-' :: rest =>
    set rest
    let (n, _) ← Scan.longNumber 1
    pure (-n)
  | '+' :: rest =>
    set rest
    let (n, _) ← Scan.longNumber 1
    pure n
  | _ =>
    let n ← Scan.number 1 4
    pure n

/-- Reads one part into a timestamp. -/
def read (t : Timestamp) : Part → Scan Timestamp
  | year => return { t with date := { t.date with year := ← yearNumber } }
  | month => return { t with date := { t.date with month := ← shortNumber } }
  | day => return { t with date := { t.date with day := ← shortNumber } }
  | hour => return { t with hour := ← shortNumber }
  | minute => return { t with minute := ← shortNumber }
  | second => return { t with second := ← shortNumber }
  | fraction => return { t with nanosecond := ← Scan.optionalFraction }
  | offset => do
    Scan.blanks
    return { t with offset := ← Scan.offset true Scan.colonsAndBlanks }
  | blanks => do
    Scan.blanks
    return t
  | literal c => do
    Scan.literal c
    return t

end Part

/-- The parts of a date and time in order. -/
abbrev Layout := List Part

namespace Layout

/-- Reads the parts in order into a timestamp. -/
def scan (layout : Layout) (t : Timestamp) : Scan Timestamp :=
  layout.foldlM Part.read t

/-- The timestamp that a text denotes in a layout. -/
def read (layout : Layout) (text : List Char) : Option Timestamp :=
  (Scan.whole (layout.scan (.midnight ⟨0, 1, 1⟩)) text).bind Timestamp.checked

end Layout

/-! ## The layouts -/

def dateLayout : Layout :=
  [.year, .literal '-', .month, .literal '-', .day]

def minuteLayout : Layout :=
  [.hour, .literal ':', .minute]

/-- A time with seconds and perhaps a fraction of them. -/
def secondLayout : Layout :=
  minuteLayout ++ [.literal ':', .second, .fraction]

def letterT : Layout := [.literal 'T']

/-- A letter Z after a time in UTC. -/
def letterZ : Layout := [.literal 'Z']

/-- The layouts with an offset, in the order in which they are tried. -/
def offsetLayouts : List Layout := [
  dateLayout ++ [.blanks] ++ secondLayout ++ [.offset],
  dateLayout ++ letterT ++ secondLayout ++ [.offset],
  dateLayout ++ letterT ++ minuteLayout ++ [.offset],
  dateLayout ++ [.blanks] ++ minuteLayout ++ [.offset]]

/-- The layouts of times in UTC, in the order in which they are tried. -/
def utcLayouts : List Layout := [
  dateLayout ++ letterT ++ secondLayout,
  dateLayout ++ letterT ++ minuteLayout,
  dateLayout ++ letterT ++ minuteLayout ++ letterZ,
  dateLayout ++ [.blanks] ++ secondLayout,
  dateLayout ++ [.blanks] ++ secondLayout ++ letterZ,
  dateLayout ++ [.blanks] ++ minuteLayout,
  dateLayout ++ [.blanks] ++ minuteLayout ++ letterZ]

end Weblog.Calendar
