import Weblog.Calendar.Timestamp
import Weblog.Number.Numeral
/-!
# Scanning dates and times

Steps that read one part of a date from the beginning of a text and leave the rest.

* `number`: between `least` and `most` digits.
* `fraction`: the digits of a fraction of a second, in nanoseconds.
* `offset`: an offset from UTC in hours and minutes.
* `Scan.whole`: a reading that uses up the text.
-/

namespace Weblog.Calendar

open Text Number

/-- A reading of the beginning of a text; it leaves the rest or fails. -/
abbrev Scan (α : Type) := StateT (List Char) Option α

/-- The outcome of a reading that uses up the text. -/
def Scan.whole {α : Type} (scan : Scan α) (text : List Char) : Option α :=
  match scan.run text with
  | some (a, []) => some a
  | _ => none

namespace Scan

def literal (c : Char) : Scan Unit := fun s =>
  match s with
  | [] => none
  | d :: rest => if d = c then some ((), rest) else none

def blanks : Scan Unit := fun s => some ((), trimStart s)

def someBlanks : Scan Unit := fun s =>
  match s with
  | [] => none
  | c :: _ => if isBlank c then some ((), trimStart s) else none

/-- The number that at most `most` digits denote; fewer than `least` are none. -/
def number (least most : Nat) : Scan Nat := fun s =>
  let digits := (s.take most).takeWhile Char.isDigit
  if digits.length < least then none else some (decimalValue digits, s.drop digits.length)

/-- The number that one or more digits denote, and how many digits it has. -/
def longNumber (least : Nat) : Scan (Nat × Nat) := fun s =>
  let digits := s.takeWhile Char.isDigit
  if digits.length < least then none
  else some ((decimalValue digits, digits.length), s.dropWhile Char.isDigit)

/-- The nanoseconds that the digits after a point denote. Digits after the ninth do not count. -/
def fraction : Scan Nat := fun s =>
  let digits := (s.take 9).takeWhile Char.isDigit
  if digits.isEmpty then none
  else some (decimalValue digits * tenTo (9 - digits.length), s.dropWhile Char.isDigit)

/-- The nanoseconds after a point, zero if there is no point. -/
def optionalFraction : Scan Nat := fun s =>
  match s with
  | '.' :: rest => fraction rest
  | _ => some (0, s)

/-- The sign of an offset; `minus` says whether the minus sign U+2212 is one. -/
def sign (minus : Bool) : Scan Int := fun s =>
  match s with
  | [] => none
  | c :: rest =>
    if c = '+' then some (1, rest)
    else if c = '-' || minus && c.toNat == 0x2212 then some (-1, rest)
    else none

/-- An offset in seconds: a sign, two digits of hours, what may stand between, and two digits of
minutes. -/
def offset (minus : Bool) (between : Scan Unit) : Scan Int := do
  let sign ← sign minus
  let hours ← number 2 2
  between
  let minutes ← number 2 2
  if minutes < 60 then pure (sign * (3600 * hours + 60 * minutes)) else failure

/-- Reads any number of colons and blanks. -/
def colonsAndBlanks : Scan Unit := fun s =>
  some ((), s.dropWhile fun c => c == ':' || isBlank c)

/-- One of some names of three letters, in any letter case, as its place in the list. -/
def name (names : List String) : Scan Nat := fun s =>
  let word := (s.take 3).map Char.toLower
  (names.findIdx? fun n => n.toList == word).map fun i => (i, s.drop 3)

end Scan

end Weblog.Calendar
