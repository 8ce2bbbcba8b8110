import Weblog.Proofs.Number.Rounding
/-!
# Fractions that are numbers

A fraction that has the value of a rank is rounded to that rank, and how a fraction is written does
not matter. The same holds of decimals: the limits at which decimals are decided by their exponents
alone do not change the number that they are read as.

* `floorRank_units`: **the rank below the value of a rank is the rank**.
* `nearestRank_congr`: fractions of the same value have the same rank;
  `nearestRank_units`: a fraction with the value of a rank has that rank.
* `Decimal.SameValue`: whether two decimals have the same value.
* `Decimal.toBinary64_eq`: a decimal is read as the number nearest to its fraction.
* **`Decimal.SameValue.toBinary64`**: decimals of the same value are read as the same number.
* **`toBinary64_shortest`**: the shortest decimal of a number is read back as the number.
-/

namespace Weblog.Number

/-! ## Ranks and their values -/

theorem log2_mul_two_pow {m : Nat} (hlow : fractions ≤ m) (hhigh : m < 2 * fractions) (e : Nat) :
    (m * 2 ^ e).log2 = 52 + e := by
  have hfractions : fractions = 2 ^ 52 := rfl
  have hpos : 0 < m * 2 ^ e := Nat.mul_pos (by omega) (Nat.two_pow_pos e)
  rw [hfractions] at hlow hhigh
  refine (Nat.log2_eq_iff hpos.ne').mpr ⟨?_, ?_⟩
  · rw [Nat.pow_add]
    exact Nat.mul_le_mul_right _ hlow
  · rw [Nat.add_assoc, Nat.add_comm e 1, ← Nat.add_assoc, Nat.pow_add]
    exact Nat.mul_lt_mul_of_pos_right hhigh (Nat.two_pow_pos e)

/-- **The rank below the value of a rank is the rank.** -/
theorem floorRank_units (rank : Nat) : floorRank (units rank) = rank := by
  have hdiv := Nat.div_add_mod rank fractions
  have hmod : rank % fractions < fractions := Nat.mod_lt rank (by decide)
  unfold units
  split_ifs with hlow
  · rw [floorRank, if_pos (by omega)]
  · obtain ⟨e, he⟩ : ∃ e, rank / fractions = e + 1 :=
      Nat.exists_eq_add_of_le' (Nat.div_pos (Nat.not_lt.mp hlow) (by decide))
    rw [he] at hdiv ⊢
    rw [Nat.add_sub_cancel, Nat.shiftLeft_eq]
    have hlog := log2_mul_two_pow (m := fractions + rank % fractions) (by omega) (by omega) e
    cases e with
    | zero =>
      -- numbers with the first exponent are their own ranks
      rw [floorRank, if_pos (by omega)]
      omega
    | succ e =>
      have hlarge : ¬ (fractions + rank % fractions) * 2 ^ (e + 1) < 2 * fractions := by
        rw [Nat.not_lt, Nat.mul_comm 2]
        exact Nat.mul_le_mul (Nat.le_add_right ..) (Nat.le_self_pow (Nat.succ_ne_zero e) 2)
      rw [floorRank, if_neg hlarge, hlog, Nat.add_sub_cancel_left, Nat.shiftRight_eq_div_pow,
        Nat.mul_div_cancel _ (Nat.two_pow_pos _), ← Nat.add_assoc, ← Nat.succ_mul,
        Nat.mul_comm, hdiv]

theorem units_lt_units_succ (rank : Nat) : units rank < units (rank + 1) := by
  by_contra h
  have hfloor := floorRank_mono (Nat.not_lt.mp h)
  rw [floorRank_units, floorRank_units] at hfloor
  omega

/-! ## Fractions of the same value -/

theorem shiftLeft_eq_mul (n k : Nat) : n <<< k = n * 1 <<< k := by
  rw [Nat.shiftLeft_eq, Nat.shiftLeft_eq, Nat.one_mul]

theorem one_shiftLeft_pos (k : Nat) : 0 < 1 <<< k := by
  rw [Nat.one_shiftLeft]
  exact Nat.two_pow_pos k

/-- How many units a one has. -/
def unitsOfOne : Nat := 1 <<< 1074

theorem unitsOfOne_pos : 0 < unitsOfOne := one_shiftLeft_pos 1074

theorem shiftLeft_eq_mul_units (n : Nat) : n <<< 1074 = n * unitsOfOne := shiftLeft_eq_mul n 1074

theorem shiftLeft_eq_two_mul_units (n : Nat) : n <<< 1075 = 2 * (n * unitsOfOne) := by
  rw [← shiftLeft_eq_mul_units]
  exact Nat.shiftLeft_succ n 1074

theorem nearestRank_mul {k : Nat} (hk : 0 < k) (num den : Nat) :
    nearestRank (k * num) (k * den) = nearestRank num den := by
  have hcompare : ∀ m n : Nat, compare (k * m) (k * n) = compare m n := fun m n => by
    simp only [compare, compareOfLessAndEq, Nat.mul_lt_mul_left hk, Nat.mul_right_inj hk.ne']
  simp only [nearestRank, shiftLeft_eq_mul_units, shiftLeft_eq_two_mul_units, Nat.mul_assoc,
    Nat.mul_div_mul_left _ _ hk, Nat.mul_left_comm 2 k, hcompare]

/-- **Fractions of the same value have the same rank.** -/
theorem nearestRank_congr {num den num' den' : Nat} (hden : 0 < den) (hden' : 0 < den')
    (h : num * den' = num' * den) : nearestRank num den = nearestRank num' den' := by
  rw [← nearestRank_mul hden' num den, ← nearestRank_mul hden num' den', Nat.mul_comm den' num, h,
    Nat.mul_comm num' den, Nat.mul_comm den' den]

/-- **A fraction with the value of a rank has that rank.** -/
theorem nearestRank_units {num den rank : Nat} (hden : 0 < den)
    (h : num * unitsOfOne = units rank * den) : nearestRank num den = rank := by
  have hnext := units_lt_units_succ rank
  have hmiddle : 2 * (units rank * unitsOfOne) <
      unitsOfOne * (units rank + units (rank + 1)) := by
    rw [Nat.mul_comm (units rank), Nat.mul_left_comm]
    exact Nat.mul_lt_mul_of_pos_left (by omega) unitsOfOne_pos
  rw [nearestRank_congr hden unitsOfOne_pos h]
  simp only [nearestRank, shiftLeft_eq_mul_units, shiftLeft_eq_two_mul_units,
    Nat.mul_div_cancel _ unitsOfOne_pos, floorRank_units, Nat.compare_eq_lt.mpr hmiddle]

theorem nearestRank_eq_zero {num den : Nat} (h : 2 * (num * unitsOfOne) < den) :
    nearestRank num den = 0 := by
  have hbelow : num * unitsOfOne / den = 0 := Nat.div_eq_of_lt (by omega)
  have hmiddle : 2 * (num * unitsOfOne) < den * (units 0 + units (0 + 1)) := by
    rw [show units 0 + units (0 + 1) = 1 by decide, Nat.mul_one]
    exact h
  simp only [nearestRank, shiftLeft_eq_mul_units, shiftLeft_eq_two_mul_units, hbelow,
    show floorRank 0 = 0 by decide, Nat.compare_eq_lt.mpr hmiddle]

/-! ## Decimals -/

theorem tenTo_pos (n : Nat) : 0 < tenTo n := Nat.pow_pos (by decide)

theorem tenTo_add (m n : Nat) : tenTo (m + n) = tenTo m * tenTo n := Nat.pow_add 10 m n

theorem tenTo_mono {m n : Nat} (h : m ≤ n) : tenTo m ≤ tenTo n :=
  Nat.pow_le_pow_right (by decide) h

namespace Decimal

/-- The fraction of a decimal. -/
def num (d : Decimal) : Nat := d.mantissa * tenTo d.exponent.toNat

def den (d : Decimal) : Nat := tenTo (-d.exponent).toNat

theorem den_pos (d : Decimal) : 0 < d.den := tenTo_pos _

/-- Whether two decimals have the same value. -/
def SameValue (d d' : Decimal) : Prop := d.num * d'.den = d'.num * d.den

theorem infinityRank_le_nearestRank {d : Decimal} (hd : d.mantissa ≠ 0)
    (h : d.exponent > largestExponent) : infinityRank ≤ nearestRank d.num d.den := by
  unfold largestExponent at h
  have hden : d.den = 1 := by rw [den, Int.toNat_of_nonpos (by omega)]; rfl
  have hnum : tenTo 401 ≤ d.num :=
    calc tenTo 401 ≤ tenTo d.exponent.toNat := tenTo_mono (by omega)
      _ ≤ d.num := Nat.le_mul_of_pos_left _ (Nat.pos_of_ne_zero hd)
  calc infinityRank ≤ nearestRank (tenTo 401) 1 := by decide +kernel
    _ ≤ nearestRank d.num 1 := nearestRank_mono hnum 1
    _ = nearestRank d.num d.den := by rw [hden]

theorem mantissa_lt_tenTo (m : Nat) : m < tenTo (m.log2 / 3 + 1) :=
  calc m < 2 ^ (m.log2 + 1) := Nat.lt_log2_self
    _ ≤ 2 ^ (3 * (m.log2 / 3 + 1)) := Nat.pow_le_pow_right (by decide) (by omega)
    _ = 8 ^ (m.log2 / 3 + 1) := by rw [Nat.pow_mul]
    _ ≤ tenTo (m.log2 / 3 + 1) := Nat.pow_le_pow_left (by decide) _

/-- Decimals that are negligible lie nearer to zero than to any other number. -/
theorem nearestRank_of_isNegligible {d : Decimal} (h : d.isNegligible = true) :
    nearestRank d.num d.den = 0 := by
  simp only [isNegligible, decide_eq_true_eq] at h
  have hnum : d.num = d.mantissa := by rw [num, Int.toNat_of_nonpos (by omega)]; exact Nat.mul_one _
  refine nearestRank_eq_zero ?_
  calc 2 * (d.num * unitsOfOne) = d.mantissa * (2 * unitsOfOne) := by
        rw [hnum, Nat.mul_left_comm]
    _ < tenTo (d.mantissa.log2 / 3 + 1) * (2 * unitsOfOne) :=
        Nat.mul_lt_mul_of_pos_right (mantissa_lt_tenTo _) (Nat.mul_pos (by decide) unitsOfOne_pos)
    _ ≤ tenTo (d.mantissa.log2 / 3 + 1) * tenTo 400 := Nat.mul_le_mul_left _ (by decide +kernel)
    _ = tenTo (d.mantissa.log2 / 3 + 1 + 400) := (tenTo_add ..).symm
    _ ≤ d.den := tenTo_mono (by omega)

/-- **A decimal is read as the number nearest to its fraction.** -/
theorem toBinary64_eq (negative : Bool) (d : Decimal) :
    d.toBinary64 negative = .ofFraction negative d.num d.den := by
  unfold toBinary64 Binary64.ofFraction rank
  split_ifs with hzero hlarge hsmall
  · rw [nearestRank_eq_zero (by rw [num, hzero]; simpa using d.den_pos)]
  · simp only [Binary64.ofRank, Nat.min_eq_right (infinityRank_le_nearestRank hzero hlarge),
      Nat.min_self]
  · rw [nearestRank_of_isNegligible hsmall]
  · rfl

/-- **Decimals of the same value are read as the same number.** -/
theorem SameValue.toBinary64 {d d' : Decimal} (h : d.SameValue d') (negative : Bool) :
    d.toBinary64 negative = d'.toBinary64 negative := by
  rw [toBinary64_eq, toBinary64_eq, Binary64.ofFraction, nearestRank_congr d.den_pos d'.den_pos h]
  rfl

theorem SameValue.trans {d d' d'' : Decimal} (h : d.SameValue d') (h' : d'.SameValue d'') :
    d.SameValue d'' := by
  unfold SameValue at *
  refine Nat.eq_of_mul_eq_mul_right d'.den_pos ?_
  calc d.num * d''.den * d'.den = d.num * d'.den * d''.den := Nat.mul_right_comm ..
    _ = d'.num * d''.den * d.den := by rw [h, Nat.mul_right_comm]
    _ = d''.num * d.den * d'.den := by rw [h', Nat.mul_right_comm]

/-- Zeros at the end of a mantissa can be told by the exponent. -/
theorem sameValue_shift (m k : Nat) (e : Int) :
    (⟨m * tenTo k, e⟩ : Decimal).SameValue ⟨m, e + k⟩ := by
  simp only [SameValue, num, den, Nat.mul_assoc, ← tenTo_add]
  rw [show k + e.toNat + (-(e + k)).toNat = (e + k).toNat + (-e).toNat by omega]

end Decimal

/-! ## Shortest decimals -/

theorem sameValue_trimmed (d : Decimal) : d.trimmed.SameValue d := by
  fun_induction Decimal.trimmed d with
  | case1 d h ih =>
    have hmantissa : d.mantissa / 10 * tenTo 1 = d.mantissa :=
      Nat.div_mul_cancel (Nat.dvd_of_mod_eq_zero h.2)
    have hshift := Decimal.sameValue_shift (d.mantissa / 10) 1 d.exponent
    rw [hmantissa] at hshift
    exact ih.trans hshift.symm
  | case2 d h => rfl

theorem toBinary64_exactDecimal (negative : Bool) (rank : Nat) :
    (exactDecimal rank).toBinary64 negative = .ofRank negative rank := by
  have hunit : Nat.pow 5 1074 * unitsOfOne = tenTo 1074 := by decide +kernel
  have hvalue : (exactDecimal rank).num * unitsOfOne = units rank * (exactDecimal rank).den :=
    calc units rank * Nat.pow 5 1074 * tenTo 0 * unitsOfOne =
        units rank * (Nat.pow 5 1074 * unitsOfOne) := by
          rw [show tenTo 0 = 1 from rfl, Nat.mul_one, Nat.mul_assoc]
      _ = units rank * tenTo 1074 := by rw [hunit]
  rw [Decimal.toBinary64_eq, Binary64.ofFraction, nearestRank_units (Decimal.den_pos _) hvalue]

/-- **The shortest decimal of a number is read back as the number.** -/
theorem toBinary64_shortest (tie : Tie) (negative : Bool) (rank : Nat) :
    (shortest tie rank).toBinary64 negative = .ofRank negative rank := by
  unfold shortest
  simp only
  rw [(sameValue_trimmed _).toBinary64]
  cases hfind : (candidates tie (exactDecimal rank)).find? fun d => d.rank == rank with
  | none => exact toBinary64_exactDecimal negative rank
  | some d =>
    have hrank : d.rank = rank := by simpa using List.find?_some hfind
    rw [Option.getD_some, Decimal.toBinary64, hrank]

end Weblog.Number
