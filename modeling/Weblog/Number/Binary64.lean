/-!
# Binary64 numbers

The numbers of the IEEE 754 format binary64. The numbers of one sign are counted from zero: the
**rank** of a number is how many numbers lie between zero and it. Rank and value grow together, so
numbers are compared by rank, and the number nearest to a fraction is one of two neighbours.

* `Binary64`: not-a-number, or a sign with a rank up to the rank of infinity.
* `units`: the value of a rank, in units of `2 ^ (-1074)`.
* `nearestRank`: the rank nearest to a fraction; of two equally near ranks the even one.
* `Binary64.order`: the order of two numbers, if they have one.
-/

namespace Weblog.Number

/-! ## Ranks -/

/-- How many numbers have the same exponent: one for each fraction of 52 bits. -/
def fractions : Nat := 1 <<< 52

/-- The rank of infinity: all exponents but the last one stand before it. -/
def infinityRank : Nat := 2047 * fractions

/-- The value of a rank in units of `2 ^ (-1074)`, the smallest number above zero. The distance to
the next rank doubles with every exponent but the first. -/
def units (rank : Nat) : Nat :=
  if rank < fractions then rank
  else (fractions + rank % fractions) <<< (rank / fractions - 1)

/-- The greatest rank whose value is at most `k` units. -/
def floorRank (k : Nat) : Nat :=
  if k < 2 * fractions then k
  else (k.log2 - 52) * fractions + k >>> (k.log2 - 52)

/-- The rank nearest to the fraction `num / den`, without an upper limit. The fraction is compared
with the midpoint between the rank below it and the next one; at the midpoint the even rank wins. -/
def nearestRank (num den : Nat) : Nat :=
  let below := floorRank ((num <<< 1074) / den)
  match compare (num <<< 1075) (den * (units below + units (below + 1))) with
  | .lt => below
  | .gt => below + 1
  | .eq => if below % 2 = 0 then below else below + 1

end Weblog.Number

namespace Weblog

open Number

/-! ## Numbers -/

/-- A binary64 number. Zero and infinity have both signs. -/
inductive Binary64
  | nan
  | signed (negative : Bool) (rank : Fin (infinityRank + 1))
  deriving DecidableEq

namespace Binary64

/-- The number of a rank; ranks beyond infinity count as infinity. -/
def ofRank (negative : Bool) (rank : Nat) : Binary64 :=
  .signed negative ⟨min rank infinityRank, Nat.lt_succ_of_le (Nat.min_le_right ..)⟩

def zero : Binary64 := ofRank false 0

def infinity : Binary64 := ofRank false infinityRank

/-- The number nearest to a fraction. -/
def ofFraction (negative : Bool) (num den : Nat) : Binary64 :=
  ofRank negative (nearestRank num den)

/-- The number nearest to a natural number. -/
def ofNat (n : Nat) : Binary64 :=
  ofFraction false n 1

/-- The number nearest to an integer. -/
def ofInt (i : Int) : Binary64 :=
  ofFraction (i < 0) i.natAbs 1

def isFinite : Binary64 → Bool
  | nan => false
  | signed _ rank => rank.val != infinityRank

def isZero : Binary64 → Bool
  | nan => false
  | signed _ rank => rank.val == 0

def neg : Binary64 → Binary64
  | nan => nan
  | signed negative rank => signed (!negative) rank

/-- The rank with the sign of the number; the two zeros share one. -/
def signedRank (negative : Bool) (rank : Nat) : Int :=
  if negative then -rank else rank

/-- The order of two numbers. A number that is not one has no order. -/
def order : Binary64 → Binary64 → Option Ordering
  | signed n r, signed n' r' => some (compare (signedRank n r.val) (signedRank n' r'.val))
  | _, _ => none

/-- The bit pattern: the sign bit, eleven bits of exponent and 52 bits of fraction. The rank is the
pattern without the sign bit. -/
def toBits : Binary64 → Nat
  | nan => 0x7FF8000000000000
  | signed negative rank => (if negative then 0x8000000000000000 else 0) + rank.val

end Binary64

end Weblog
