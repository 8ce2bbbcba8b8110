import Mathlib.Data.Nat.Log
import Mathlib.Tactic.Common
import Mathlib.Tactic.Ring
import Weblog.Number.Numeral
/-!
# Rounding to binary64

Rounding keeps the order of numbers: of two fractions with the same rank below them, the same
midpoint decides.

* `floorRank_mono`, `nearestRank_mono`: **ranks grow with the fractions that they are nearest to**.
* `rankOfNat_mono`, `isFinite_ofNat`: natural numbers below `2 ^ 64` as finite numbers.
* `order_of_places`: numbers are compared through their places;
  `order_ofNat`: a natural number through its rank.
* **`isFinite_of_readNumber`**: what a text denotes is finite, so it has a place among all numbers.
-/

namespace Weblog.Number

theorem shiftRight_log2_bounds {k : Nat} (h : 2 * fractions ≤ k) :
    53 ≤ k.log2 ∧ fractions ≤ k >>> (k.log2 - 52) ∧ k >>> (k.log2 - 52) < 2 * fractions := by
  have hfractions : fractions = 2 ^ 52 := rfl
  have hk : k ≠ 0 := by rintro rfl; simp [hfractions] at h
  have hlog : 53 ≤ k.log2 := (Nat.le_log2 hk).mpr (by rw [hfractions] at h; omega)
  have hpow : 2 ^ k.log2 = 2 ^ 52 * 2 ^ (k.log2 - 52) := by
    rw [← Nat.pow_add]
    congr 1
    omega
  refine ⟨hlog, ?_, ?_⟩
  · rw [Nat.shiftRight_eq_div_pow, Nat.le_div_iff_mul_le (Nat.two_pow_pos _), hfractions, ← hpow]
    exact Nat.log2_self_le hk
  · rw [Nat.shiftRight_eq_div_pow, Nat.div_lt_iff_lt_mul (Nat.two_pow_pos _), hfractions,
      Nat.mul_assoc, ← hpow, ← Nat.pow_succ']
    exact Nat.lt_log2_self

theorem floorRank_mono {j k : Nat} (h : j ≤ k) : floorRank j ≤ floorRank k := by
  unfold floorRank
  split_ifs with hj hk hk
  · exact h
  · -- the first exponent ends below the others
    obtain ⟨hlog, hlow, -⟩ := shiftRight_log2_bounds (Nat.not_lt.mp hk)
    have hexp : fractions ≤ (k.log2 - 52) * fractions :=
      Nat.le_mul_of_pos_left fractions (by omega)
    omega
  · omega
  · obtain ⟨-, -, hhigh⟩ := shiftRight_log2_bounds (Nat.not_lt.mp hj)
    obtain ⟨-, hlow, -⟩ := shiftRight_log2_bounds (Nat.not_lt.mp hk)
    have hlogs : j.log2 ≤ k.log2 := by
      rw [Nat.log2_eq_log_two, Nat.log2_eq_log_two]
      exact Nat.log_mono_right h
    rcases hlogs.lt_or_eq with hlt | heq
    · -- a lower exponent
      have hexp : (j.log2 - 52 + 1) * fractions ≤ (k.log2 - 52) * fractions :=
        Nat.mul_le_mul_right fractions (by
          have := (shiftRight_log2_bounds (Nat.not_lt.mp hj)).1
          omega)
      rw [Nat.add_mul] at hexp
      omega
    · rw [heq, Nat.shiftRight_eq_div_pow, Nat.shiftRight_eq_div_pow]
      exact Nat.add_le_add_left (Nat.div_le_div_right h) _

theorem floorRank_le_nearestRank (num den : Nat) :
    floorRank ((num <<< 1074) / den) ≤ nearestRank num den ∧
      nearestRank num den ≤ floorRank ((num <<< 1074) / den) + 1 := by
  simp only [nearestRank]
  split
  · exact ⟨le_rfl, Nat.le_succ _⟩
  · exact ⟨Nat.le_succ _, le_rfl⟩
  · split_ifs <;> simp

/-- **The greater of two fractions has the greater nearest rank.** -/
theorem nearestRank_mono {num num' : Nat} (h : num ≤ num') (den : Nat) :
    nearestRank num den ≤ nearestRank num' den := by
  have hshift : ∀ n, num <<< n ≤ num' <<< n := fun n => by
    rw [Nat.shiftLeft_eq, Nat.shiftLeft_eq]
    exact Nat.mul_le_mul_right _ h
  have hbelow : floorRank ((num <<< 1074) / den) ≤ floorRank ((num' <<< 1074) / den) :=
    floorRank_mono (Nat.div_le_div_right (hshift 1074))
  rcases hbelow.lt_or_eq with hlt | heq
  · calc nearestRank num den ≤ floorRank ((num <<< 1074) / den) + 1 :=
        (floorRank_le_nearestRank num den).2
      _ ≤ floorRank ((num' <<< 1074) / den) := hlt
      _ ≤ nearestRank num' den := (floorRank_le_nearestRank num' den).1
  · -- both are compared with the same midpoint
    simp only [nearestRank, heq]
    generalize den * _ = middle
    generalize floorRank _ = below
    have hmiddle := hshift 1075
    rcases Nat.lt_trichotomy (num <<< 1075) middle with hlt | heq | hgt
    · -- the least of the three outcomes
      rw [Nat.compare_eq_lt.mpr hlt]
      dsimp only
      split
      · exact Nat.le_refl below
      · exact Nat.le_succ below
      · split_ifs <;> omega
    · rw [Nat.compare_eq_eq.mpr heq]
      rcases (heq ▸ hmiddle : middle ≤ num' <<< 1075).eq_or_lt with heq' | hgt'
      · rw [Nat.compare_eq_eq.mpr heq'.symm]
      · rw [Nat.compare_eq_gt.mpr hgt']
        dsimp only
        split_ifs <;> omega
    · rw [Nat.compare_eq_gt.mpr hgt, Nat.compare_eq_gt.mpr (hgt.trans_le hmiddle)]

/-! ## Numbers -/

/-- The rank of a natural number. -/
def rankOfNat (n : Nat) : Nat := min (nearestRank n 1) infinityRank

theorem rankOfNat_mono {n n' : Nat} (h : n ≤ n') : rankOfNat n ≤ rankOfNat n' :=
  min_le_min_right infinityRank (nearestRank_mono h 1)

theorem rankOfNat_lt {n : Nat} (h : n < 2 ^ 64) : rankOfNat n < infinityRank :=
  (rankOfNat_mono h.le).trans_lt (by decide +kernel)

theorem isFinite_ofNat {n : Nat} (h : n < 2 ^ 64) : (Binary64.ofNat n).isFinite = true :=
  bne_iff_ne.mpr (rankOfNat_lt h).ne

/-- The place of a number among all numbers. -/
def placeOf : Binary64 → Option Int
  | .nan => none
  | .signed negative rank => some (Binary64.signedRank negative rank)

theorem order_of_places {x y : Binary64} {a b : Int} (hx : placeOf x = some a)
    (hy : placeOf y = some b) : x.order y = some (compare a b) := by
  cases x <;> cases y <;> cases hx <;> cases hy
  rfl

theorem order_ofNat (n : Nat) (x : Binary64) :
    (Binary64.ofNat n).order x = (placeOf x).map (compare (rankOfNat n : Int)) := by
  cases x <;> rfl

theorem exists_placeOf_of_isFinite {x : Binary64} (h : x.isFinite = true) :
    ∃ place, placeOf x = some place := by
  cases x with
  | nan => cases h
  | signed negative rank => exact ⟨_, rfl⟩

/-- **What a text denotes is finite.** -/
theorem isFinite_of_readNumber {text : String} {x : Binary64} (h : readNumber text = some x) :
    x.isFinite = true := by
  unfold readNumber readTrimmed at h
  split at h
  · obtain ⟨n, hn, rfl⟩ := Option.map_eq_some_iff.mp h
    exact isFinite_ofNat (of_decide_eq_true (Option.filter_eq_some_iff.mp hn).2)
  · exact (Option.filter_eq_some_iff.mp h).2

theorem exists_placeOf_readNumber {text : String} {x : Binary64} (h : readNumber text = some x) :
    ∃ place, placeOf x = some place :=
  exists_placeOf_of_isFinite (isFinite_of_readNumber h)

end Weblog.Number
