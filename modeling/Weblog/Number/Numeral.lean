import Weblog.Number.Decimal
import Weblog.Text.Blank
/-!
# Numerals

The texts that a query takes for numbers. A numeral is a decimal with an optional sign, point and
exponent, or a natural number below `2 ^ 64` in base 16, 8 or 2 after `0x`, `0o` or `0b`. Blanks
around it do not count.

* `splitDecimal`: the sign and the value of a decimal numeral.
* `splitRadix`: the base and the digits of a numeral with a base.
* `readNumber`: **the number that a text denotes**, rounded to the nearest; no text denotes
  infinity.
* `readCount`: the natural number below `2 ^ 64` that a text denotes.
-/

namespace Weblog.Number

/-! ## Digits -/

/-- The value of a digit below the base. -/
def digitValue (base : Nat) (c : Char) : Option Nat :=
  let value :=
    if '0' ≤ c ∧ c ≤ '9' then some (c.toNat - '0'.toNat)
    else if 'a' ≤ c ∧ c ≤ 'z' then some (c.toNat - 'a'.toNat + 10)
    else if 'A' ≤ c ∧ c ≤ 'Z' then some (c.toNat - 'A'.toNat + 10)
    else none
  value.filter (· < base)

/-- The number written with the given digit values, the first one leading. -/
def ofDigits (base : Nat) (values : List Nat) : Nat :=
  values.foldl (fun n d => n * base + d) 0

/-- The natural number that one or more digits denote. -/
def readNat (base : Nat) (digits : List Char) : Option Nat :=
  if digits.isEmpty then none else (digits.mapM (digitValue base)).map (ofDigits base)

/-- The number of some decimal digits. -/
def decimalValue (digits : List Char) : Nat :=
  ofDigits 10 (digits.map fun c => c.toNat - '0'.toNat)

/-! ## Decimal numerals -/

/-- A sign, plus if there is none, and what follows it. -/
def splitSign : List Char → Bool × List Char
  | '-' :: rest => (true, rest)
  | '+' :: rest => (false, rest)
  | rest => (false, rest)

/-- The exponent after a decimal; nothing means zero. -/
def splitExponent : List Char → Option Int
  | [] => some 0
  | c :: rest =>
    let (negative, digits) := splitSign rest
    if (c = 'e' ∨ c = 'E') ∧ digits ≠ [] ∧ digits.all Char.isDigit then
      some (if negative then -decimalValue digits else decimalValue digits)
    else none

/-- The digits after a point, if there is a point, and what follows them. -/
def splitFraction : List Char → List Char × List Char
  | '.' :: rest => (rest.takeWhile Char.isDigit, rest.dropWhile Char.isDigit)
  | rest => ([], rest)

/-- The sign and the value of a decimal numeral. -/
def splitDecimal (text : List Char) : Option (Bool × Decimal) :=
  let (negative, unsigned) := splitSign text
  let whole := unsigned.takeWhile Char.isDigit
  let (fraction, rest) := splitFraction (unsigned.dropWhile Char.isDigit)
  if whole.isEmpty && fraction.isEmpty then none
  else (splitExponent rest).map fun exponent =>
    (negative, ⟨decimalValue (whole ++ fraction), exponent - fraction.length⟩)

/-! ## Numerals -/

/-- The base that the beginning of a text announces, and what follows it. -/
def splitRadix : List Char → Option (Nat × List Char)
  | '0' :: c :: rest =>
    if c = 'x' ∨ c = 'X' then some (16, rest)
    else if c = 'o' ∨ c = 'O' then some (8, rest)
    else if c = 'b' ∨ c = 'B' then some (2, rest)
    else none
  | _ => none

/-- The number that a text without blanks around it denotes. -/
def readTrimmed (text : List Char) : Option Binary64 :=
  match splitRadix text with
  | some (base, digits) => ((readNat base digits).filter (· < UInt64.size)).map .ofNat
  | none =>
    ((splitDecimal text).map fun p => p.2.toBinary64 p.1).filter Binary64.isFinite

/-- The number that a text spells, without the blanks around it. -/
def readNumber (text : String) : Option Binary64 :=
  readTrimmed (Text.trim text.toList)

/-- The natural number below `2 ^ 64` that decimal digits denote, perhaps after a plus sign. -/
def readCount (text : String) : Option UInt64 :=
  let digits := match text.toList with
    | '+' :: digits => digits
    | digits => digits
  ((readNat 10 digits).filter (· < UInt64.size)).map .ofNat

end Weblog.Number
