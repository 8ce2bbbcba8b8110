import Weblog.Json.Value
import Weblog.Number.Numeral
/-!
# JSON numbers

A JSON number without point and exponent is an integer if it lies between `-2 ^ 63` and `2 ^ 64`;
all others are binary64 numbers. Those are computed from the leading digits, as far as these stay
below `2 ^ 64`, with one multiplication or division by a rounded power of ten; the result can differ
from the nearest number in its last bit.

* `scanNumber`: the parts of a number at the beginning of a text.
* `NumberText.value`: the value of a number; a number beyond all finite numbers has none.
-/

namespace Weblog.Json

open Number

/-- The parts of a number: its sign, the digits in front of the point and after it, and the digits
of the exponent with their sign. -/
structure NumberText where
  negative : Bool
  whole : List Char
  fraction : Option (List Char)
  exponent : Option (Bool × List Char)
  deriving DecidableEq

/-! ## Scanning -/

/-- One or more digits and what follows them. -/
def someDigits (s : List Char) : Option (List Char × List Char) :=
  let digits := s.takeWhile Char.isDigit
  if digits.isEmpty then none else some (digits, s.dropWhile Char.isDigit)

/-- The digits after a point, if there is one. -/
def scanFraction : List Char → Option (Option (List Char) × List Char)
  | '.' :: rest => (someDigits rest).map fun p => (some p.1, p.2)
  | rest => some (none, rest)

/-- The sign and the digits of an exponent, if there is one. -/
def scanExponent : List Char → Option (Option (Bool × List Char) × List Char)
  | c :: rest =>
    if c = 'e' ∨ c = 'E' then
      let (negative, rest) := splitSign rest
      (someDigits rest).map fun p => (some (negative, p.1), p.2)
    else some (none, c :: rest)
  | [] => some (none, [])

/-- The parts of a number behind its sign. A zero in front of other digits is none. -/
def scanUnsigned (negative : Bool) (s : List Char) : Option (NumberText × List Char) := do
  let (whole, rest) ← someDigits s
  if whole.head? = some '0' ∧ whole.length ≠ 1 then none
  else
    let (fraction, rest) ← scanFraction rest
    let (exponent, rest) ← scanExponent rest
    return (⟨negative, whole, fraction, exponent⟩, rest)

/-- The number at the beginning of a text and what follows it. -/
def scanNumber : List Char → Option (NumberText × List Char)
  | '-' :: rest => scanUnsigned true rest
  | rest => scanUnsigned false rest

/-! ## Values -/

/-- A number collected digit by digit below `2 ^ 64`, and whether a digit did not fit any more. -/
structure Collected where
  value : Nat
  taken : Nat
  full : Bool

/-- Takes one more digit, if it still fits. -/
def Collected.push (c : Collected) (digit : Char) : Collected :=
  let value := c.value * 10 + (digit.toNat - '0'.toNat)
  if c.full || UInt64.size ≤ value then { c with full := true }
  else ⟨value, c.taken + 1, false⟩

/-- The leading digits that fit below `2 ^ 64` after a value. -/
def collect (value : Nat) (digits : List Char) : Collected :=
  digits.foldl Collected.push ⟨value, 0, false⟩

/-- The power of ten of a mantissa collected from the digits on both sides of the point. -/
def NumberText.collected (t : NumberText) : Nat × Int :=
  let whole := collect 0 t.whole
  let skipped := t.whole.length - whole.taken
  match t.fraction with
  | none => (whole.value, skipped)
  | some digits =>
    let all := collect whole.value digits
    (all.value, (skipped : Int) - all.taken)

/-- The number nearest to the product of a rank and a power of ten, the power rounded first. -/
def timesPower (rank power : Nat) : Nat :=
  nearestRank (units rank * units (nearestRank (tenTo power) 1)) (1 <<< 2148)

/-- The number nearest to the quotient of a rank and a power of ten, the power rounded first. -/
def overPower (rank power : Nat) : Nat :=
  nearestRank (units rank) (units (nearestRank (tenTo power) 1))

/-- The rank of a mantissa times a power of ten, divided in steps of at most `10 ^ 308`. Without a
finite result there is none. -/
def scaledRank (mantissa : Nat) (exponent : Int) : Option Nat :=
  let rank := nearestRank mantissa 1
  if rank = 0 then some 0
  else if 308 < exponent then none
  else if 0 ≤ exponent then some (timesPower rank exponent.toNat)
  else
    let power := (-exponent).toNat
    if power ≤ 308 then some (overPower rank power)
    else
      let once := overPower rank 308
      if power ≤ 616 then some (overPower once (power - 308)) else some 0

/-- The exponent that digits denote. Exponents from `2 ^ 31` on are beyond counting. -/
def exponentValue (digits : List Char) : Option Nat :=
  let value := decimalValue digits
  if value < UInt32.size / 2 then some value else none

/-- The rank of a number that is no integer. -/
def NumberText.rank (t : NumberText) : Option Nat :=
  let (mantissa, scale) := t.collected
  let finite (rank : Nat) : Option Nat := if rank < infinityRank then some rank else none
  match t.exponent with
  | none => (scaledRank mantissa scale).bind finite
  | some (negative, digits) =>
    match exponentValue digits with
    | some e => (scaledRank mantissa (if negative then scale - e else scale + e)).bind finite
    | none => if negative || mantissa == 0 then some 0 else none

/-- The integer that a number without point and exponent denotes, if it is one of 64 bits. Minus
zero is none. -/
def NumberText.int? (t : NumberText) : Option Int :=
  match t.fraction, t.exponent with
  | none, none =>
    let value := decimalValue t.whole
    if t.negative then
      if 0 < value ∧ value ≤ UInt64.size / 2 then some (-value) else none
    else if value < UInt64.size then some value else none
  | _, _ => none

/-- The number that is spelled: an integer of 64 bits, or else a float. -/
def NumberText.value (t : NumberText) : Option Numeral :=
  match t.int? with
  | some i => some (.int i)
  | none => t.rank.map fun rank => .real (.ofRank t.negative rank)

end Weblog.Json
