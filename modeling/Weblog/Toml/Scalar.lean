import Weblog.Calendar.Scan
import Weblog.Toml.Value
/-!
# TOML numbers, dates and times

The values that are written in one word: booleans, numbers, and dates and times. A date and a time
may have a blank between them.

* `readInteger`: an integer of 64 bits in base 10, 16, 8 or 2.
* `readFloat`: a binary64 number.
* `isDate`, `isDateTime`: dates and times.
* `scanWord`: **the value at the beginning of a text**.
-/

namespace Weblog.Toml

open Number Calendar

/-! ## Numbers -/

/-- Digits without the underscores between them. An underscore at an end or beside another one is
an error. -/
def joinGroups (digits : List Char) : Option (List Char) :=
  let groups := digits.splitOn '_'
  if groups.all (· ≠ []) then some groups.flatten else none

/-- Decimal digits in groups that do not begin with a superfluous zero. -/
def wholeDigits (digits : List Char) : Option (List Char) :=
  match joinGroups digits with
  | some ['0'] => some ['0']
  | some (c :: rest) => if c != '0' && (c :: rest).all Char.isDigit then some (c :: rest) else none
  | _ => none

/-- Digits in groups, without what is between the groups. -/
def anyDigits (digits : List Char) : Option (List Char) :=
  (joinGroups digits).filter (·.all Char.isDigit)

/-- The integers of 64 bits range from `-2 ^ 63` to `2 ^ 63 - 1`. -/
def firstInteger : Int := -9223372036854775808
/-- The greatest integer. -/
def lastInteger : Int := 9223372036854775807

/-- An integer in base 10 with an optional sign, or without one in a base that is announced. -/
def readInteger (word : List Char) : Option Int :=
  let value : Option Int := match word with
    | '0' :: 'x' :: digits => ((joinGroups digits).bind (readNat 16)).map Int.ofNat
    | '0' :: 'o' :: digits => ((joinGroups digits).bind (readNat 8)).map Int.ofNat
    | '0' :: 'b' :: digits => ((joinGroups digits).bind (readNat 2)).map Int.ofNat
    | word =>
      let (negative, digits) := splitSign word
      (wholeDigits digits).map fun digits =>
        if negative then -(decimalValue digits : Int) else decimalValue digits
  value.filter fun i => firstInteger ≤ i && i ≤ lastInteger

def isGroupChar (c : Char) : Bool :=
  c.isDigit || c == '_'

def isExponent : List Char → Bool
  | [] => true
  | c :: rest => (c == 'e' || c == 'E') && (anyDigits (splitSign rest).2).isSome

/-- What follows the digits in front of the point of a number that is no integer. -/
def isFractional : List Char → Bool
  | [] => false
  | '.' :: rest =>
    (anyDigits (rest.takeWhile isGroupChar)).isSome && isExponent (rest.dropWhile isGroupChar)
  | rest => isExponent rest

/-- A number with a fraction or an exponent or both, or one of the words for what is no number. A
number so large that it would be rounded to infinity is an error. -/
def readFloat (word : List Char) : Option Binary64 :=
  let (negative, unsigned) := splitSign word
  if unsigned = "inf".toList then some (if negative then Binary64.infinity.neg else .infinity)
  else if unsigned = "nan".toList then some .nan
  else if (wholeDigits (unsigned.takeWhile isGroupChar)).isSome &&
      isFractional (unsigned.dropWhile isGroupChar) then
    ((splitDecimal (word.filter (· != '_'))).map fun p => p.2.toBinary64 p.1).filter
      (· != Binary64.infinity)
  else none

/-! ## Dates and times -/

/-- A number of two digits up to a bound. -/
def twoDigits (most : Nat) : Scan Nat := do
  let n ← Scan.number 2 2
  if n ≤ most then pure n else failure

def scanDate : Scan Unit := do
  let year ← Scan.number 4 4
  Scan.literal '-'
  let month ← Scan.number 2 2
  Scan.literal '-'
  let day ← Scan.number 2 2
  if (Date.mk year month day).isValid then pure () else failure

def scanTime : Scan Unit := do
  let _ ← twoDigits 23
  Scan.literal ':'
  let _ ← twoDigits 59
  Scan.literal ':'
  let _ ← twoDigits 60
  let _ ← Scan.optionalFraction

def scanOffset : Scan Unit := fun s =>
  match s with
  | [] => some ((), [])
  | c :: rest =>
    if c = 'Z' ∨ c = 'z' then some ((), rest)
    else if c = '+' ∨ c = '-' then
      (do
        let _ ← twoDigits 23
        Scan.literal ':'
        let _ ← twoDigits 59 : Scan Unit) rest
    else none

def isDate (word : List Char) : Bool :=
  (scanDate.whole word).isSome

def isTime (word : List Char) : Bool :=
  (scanTime.whole word).isSome

/-- A date and a time with an offset, with a letter or a blank between date and time. -/
def isTimestamp (word : List Char) : Bool :=
  let scan : Scan Unit := do
    scanDate
    Scan.literal 'T' <|> Scan.literal 't' <|> Scan.literal ' '
    scanTime
    scanOffset
  (scan.whole word).isSome

/-- Whether a word is a date, a time or both. -/
def isDateTime (word : List Char) : Bool :=
  isDate word || isTime word || isTimestamp word

/-! ## Words -/

/-- The value of a word: a truth value, a number or a date. -/
def readWord (word : List Char) : Option Toml :=
  if word = "true".toList then some (.boolean true)
  else if word = "false".toList then some (.boolean false)
  else if isDateTime word then some (.datetime (String.ofList word))
  else
    match readInteger word with
    | some i => some (.integer i)
    | none => (readFloat word).map .float

/-- Whether a character can stand in a word. -/
def isWordChar (c : Char) : Bool :=
  c.isAlphanum || c == '+' || c == '-' || c == '_' || c == '.' || c == ':'

/-- The value at the beginning of a text, and what follows it. After a date and a blank another word
belongs to the value. -/
def scanWord (s : List Char) : Option (Toml × List Char) :=
  let word := s.takeWhile isWordChar
  let rest := s.dropWhile isWordChar
  let alone := (readWord word).map fun v => (v, rest)
  match rest with
  | ' ' :: after =>
    let time := after.takeWhile isWordChar
    if isDate word && !time.isEmpty then
      (readWord (word ++ ' ' :: time)).map fun v => (v, after.dropWhile isWordChar)
    else alone
  | _ => alone

end Weblog.Toml
