import Weblog.Number.Binary64
/-!
# Decimals

A decimal is an integer times a power of ten. Reading rounds a decimal to the nearest binary64
number; writing goes back with as few digits as reading allows.

* `Decimal.rank`: the rank nearest to a decimal.
* `exactDecimal`: the decimal with exactly the value of a rank.
* `shortest`: **the shortest decimal that reads back as a rank**, and of those the nearest.
-/

namespace Weblog.Number

def tenTo (exponent : Nat) : Nat := Nat.pow 10 exponent

/-- The value `mantissa * 10 ^ exponent`. -/
structure Decimal where
  mantissa : Nat
  exponent : Int
  deriving DecidableEq

/-! ## Reading -/

/-- An exponent above which every decimal but zero lies beyond all finite numbers. -/
def largestExponent : Int := 400

/-- Decimals below `10 ^ (-400)` lie nearer to zero than to any other number. -/
def Decimal.isNegligible (d : Decimal) : Bool :=
  d.exponent + (d.mantissa.log2 / 3 + 1 : Nat) < -400

/-- The rank nearest to a decimal. Decimals that are too large or too small for the exact
computation are decided by their exponents. -/
def Decimal.rank (d : Decimal) : Nat :=
  if d.mantissa = 0 then 0
  else if d.exponent > largestExponent then infinityRank
  else if d.isNegligible then 0
  else nearestRank (d.mantissa * tenTo d.exponent.toNat) (tenTo (-d.exponent).toNat)

/-- The number nearest to a decimal with a sign. -/
def Decimal.toBinary64 (negative : Bool) (d : Decimal) : Binary64 :=
  .ofRank negative d.rank

/-! ## Writing -/

/-- The decimal with exactly the value of a rank: a unit is `5 ^ 1074 * 10 ^ (-1074)`. -/
def exactDecimal (rank : Nat) : Decimal :=
  ⟨units rank * Nat.pow 5 1074, -1074⟩

/-- Which of two equally near decimals is written. -/
inductive Tie
  | up
  | even
  deriving DecidableEq

/-- Whether the upper of two neighbouring decimals is written, the value lying `rest` above the
lower one and the two being `gap` apart. -/
def Tie.takesUpper (tie : Tie) (lower rest gap : Nat) : Bool :=
  match compare (2 * rest) gap with
  | .lt => false
  | .gt => true
  | .eq => match tie with
    | .up => true
    | .even => lower % 2 == 1

/-- The neighbours of an exact decimal when its last `cut` digits are dropped, the nearer one
first. -/
def neighbours (tie : Tie) (exact : Decimal) (cut : Nat) : List Decimal :=
  let gap := tenTo cut
  let lower := exact.mantissa / gap
  let below : Decimal := ⟨lower, exact.exponent + cut⟩
  let above : Decimal := ⟨lower + 1, exact.exponent + cut⟩
  if tie.takesUpper lower (exact.mantissa % gap) gap then [above, below] else [below, above]

/-- The decimals with 1, 2, … 17 digits around an exact decimal. -/
def candidates (tie : Tie) (exact : Decimal) : List Decimal :=
  let digits := (Nat.toDigits 10 exact.mantissa).length
  (List.range 17).flatMap fun k => neighbours tie exact (digits - (k + 1))

/-- A decimal without zeros at the end of its mantissa. -/
def Decimal.trimmed (d : Decimal) : Decimal :=
  if h : d.mantissa ≠ 0 ∧ d.mantissa % 10 = 0 then
    trimmed ⟨d.mantissa / 10, d.exponent + 1⟩
  else d
termination_by d.mantissa
decreasing_by exact Nat.div_lt_self (Nat.pos_of_ne_zero h.1) (by decide)

/-- The shortest decimal that reads back as the rank. -/
def shortest (tie : Tie) (rank : Nat) : Decimal :=
  let exact := exactDecimal rank
  (((candidates tie exact).find? fun d => d.rank == rank).getD exact).trimmed

/-! ## Layout -/

/-- How a number is laid out: the exponents of the first digit for which it is written without an
exponent, whether such a number keeps a point when it is whole, whether an exponent that is not
negative has a sign, and which of two equally near decimals is written. -/
structure Layout where
  firstPlain : Int
  lastPlain : Int
  keepsPoint : Bool
  plusSign : Bool
  tie : Tie

/-- Digits with a point after the first `n` of them. -/
def withPoint (digits : List Char) (n : Nat) : List Char :=
  digits.take n ++ '.' :: digits.drop n

/-- A decimal in digits, without an exponent. -/
def plainText (keepsPoint : Bool) (d : Decimal) : List Char :=
  let digits := Nat.toDigits 10 d.mantissa
  let lead := digits.length + d.exponent
  if 0 ≤ d.exponent then
    digits ++ List.replicate d.exponent.toNat '0' ++ if keepsPoint then ['.', '0'] else []
  else if 0 < lead then withPoint digits lead.toNat
  else '0' :: '.' :: List.replicate (-lead).toNat '0' ++ digits

/-- A decimal with one digit in front of the point and an exponent. -/
def exponentText (layout : Layout) (d : Decimal) (exponent : Int) : List Char :=
  let digits := Nat.toDigits 10 d.mantissa
  (if digits.length ≤ 1 then digits else withPoint digits 1) ++
    'e' :: (if exponent < 0 then ['-'] else if layout.plusSign then ['+'] else []) ++
    Nat.toDigits 10 exponent.natAbs

/-- A decimal as text. -/
def Layout.text (layout : Layout) (d : Decimal) : List Char :=
  let exponent := (Nat.toDigits 10 d.mantissa).length - 1 + d.exponent
  if d.mantissa = 0 then '0' :: if layout.keepsPoint then ['.', '0'] else []
  else if layout.firstPlain ≤ exponent ∧ exponent ≤ layout.lastPlain then
    plainText layout.keepsPoint d
  else exponentText layout d exponent

/-- The text of the finite number with a sign and a rank. -/
def Layout.signedText (layout : Layout) (negative : Bool) (rank : Nat) : List Char :=
  (if negative then ['-'] else []) ++ layout.text (shortest layout.tie rank)

end Weblog.Number
