import Mathlib.Algebra.Order.Field.Basic
import Mathlib.Algebra.Order.Field.Power
import Mathlib.Algebra.Order.AbsoluteValue.Basic
import Mathlib.Data.Rat.Cast.Order
import Mathlib.Order.Monotone.Basic
import Mathlib.Tactic.FieldSimp
import Mathlib.Tactic.Linarith
import Weblog.Proofs.Number.Exact
/-!
# The nearest number

The values of binary64 numbers are rationals that grow with the rank. The rank that is computed for
a fraction is that of the number to which the format rounds it: no number is nearer, of two that
are equally near the even one is taken, and what lies beyond the finite numbers is infinite.

* `magnitude`: the value of a rank; `magnitude_eq`: it is as many units as the rank has.
* `units_floorRank_le`, `lt_units_floorRank_succ`: the rank below a value, and the next one.
* `isNearestRank_nearestRank`: **the nearest rank is nearest**.
* `Binary64.value`, `Binary64.IsNearest`: values of numbers, and how a rational is rounded.
* `Binary64.isNearest_ofFraction`: **the number of a fraction is the nearest one**.
* `Binary64.IsNearest.value_le`: rounding keeps the order;
  `Binary64.IsNearest.eq`: there is one nearest number of each sign.
-/

namespace Weblog.Number

/-! ## Values -/

/-- The value of the numbers with a rank, without their sign. The rank holds the exponent and the
fraction of 52 bits; the first exponent belongs to the subnormal numbers. -/
def magnitude (rank : Nat) : ℚ :=
  if rank / 2 ^ 52 = 0 then (rank % 2 ^ 52 : Nat) * 2 ^ (-1074 : Int)
  else (2 ^ 52 + rank % 2 ^ 52 : Nat) * 2 ^ ((rank / 2 ^ 52 : Nat) - 1075 : Int)

theorem cast_one_shiftLeft (k : Nat) : ((1 <<< k : Nat) : ℚ) = 2 ^ (k : Int) := by
  rw [Nat.one_shiftLeft, Nat.cast_pow, Nat.cast_ofNat, zpow_natCast]

theorem magnitude_eq (rank : Nat) : magnitude rank = units rank / unitsOfOne := by
  have hunits : (unitsOfOne : ℚ) = 2 ^ (1074 : Int) := cast_one_shiftLeft 1074
  have hfractions : fractions = 2 ^ 52 := rfl
  rw [eq_div_iff (by rw [hunits]; positivity), magnitude, units, hfractions, hunits]
  by_cases hlow : rank < 2 ^ 52
  · rw [if_pos (Nat.div_eq_of_lt hlow), if_pos hlow, Nat.mod_eq_of_lt hlow, mul_assoc,
      ← zpow_add₀ (by norm_num)]
    simp
  · have hexp : 1 ≤ rank / 2 ^ 52 := by omega
    rw [if_neg (by omega), if_neg hlow, mul_assoc, ← zpow_add₀ (by norm_num), Nat.shiftLeft_eq,
      Nat.cast_mul, Nat.cast_pow, Nat.cast_ofNat, ← zpow_natCast, Nat.cast_sub hexp]
    congr 2
    omega

theorem unitsOfOne_cast_pos : (0 : ℚ) < unitsOfOne := Nat.cast_pos.mpr unitsOfOne_pos

theorem magnitude_strictMono : StrictMono magnitude := by
  apply strictMono_nat_of_lt_succ
  intro rank
  rw [magnitude_eq, magnitude_eq]
  exact div_lt_div_of_pos_right (Nat.cast_lt.mpr (units_lt_units_succ rank)) unitsOfOne_cast_pos

theorem magnitude_zero : magnitude 0 = 0 := by simp [magnitude]

theorem magnitude_nonneg (rank : Nat) : 0 ≤ magnitude rank := by
  rw [← magnitude_zero]
  exact magnitude_strictMono.monotone (Nat.zero_le rank)

/-! ## The ranks around a fraction -/

theorem units_add {m : Nat} (hlow : fractions ≤ m) (hhigh : m < 2 * fractions) (e : Nat) :
    units (e * fractions + m) = m <<< e := by
  rw [show fractions = 4503599627370496 from rfl] at *
  have hdiv : (e * 4503599627370496 + m) / 4503599627370496 = e + 1 := by omega
  have hmod : (e * 4503599627370496 + m) % 4503599627370496 = m - 4503599627370496 := by omega
  rw [units, show fractions = 4503599627370496 from rfl, if_neg (by omega), hdiv, hmod,
    Nat.add_sub_cancel, Nat.add_sub_cancel' hlow]

theorem units_floorRank_le (k : Nat) : units (floorRank k) ≤ k := by
  unfold floorRank
  by_cases hlow : k < 2 * fractions
  · rw [if_pos hlow]
    by_cases hfirst : k < fractions
    · rw [units, if_pos hfirst]
    · have hunits := units_add (Nat.not_lt.mp hfirst) hlow 0
      rw [Nat.zero_mul, Nat.zero_add, Nat.shiftLeft_zero] at hunits
      exact hunits.le
  · obtain ⟨-, hm, hm'⟩ := shiftRight_log2_bounds (Nat.not_lt.mp hlow)
    rw [if_neg hlow, units_add hm hm', Nat.shiftLeft_eq, Nat.shiftRight_eq_div_pow]
    exact Nat.div_mul_le_self k _

theorem lt_units_floorRank_succ (k : Nat) : k < units (floorRank k + 1) := by
  by_contra h
  have hfloor := floorRank_mono (Nat.not_lt.mp h)
  rw [floorRank_units] at hfloor
  omega

theorem nearestRank_cases (num : Nat) {den : Nat} (hden : 0 < den) :
    ∃ below : Nat, magnitude below ≤ (num / den : ℚ) ∧ (num / den : ℚ) < magnitude (below + 1) ∧
      ((2 * (num / den : ℚ) < magnitude below + magnitude (below + 1) ∧
          nearestRank num den = below) ∨
        (magnitude below + magnitude (below + 1) < 2 * (num / den : ℚ) ∧
          nearestRank num den = below + 1) ∨
        2 * (num / den : ℚ) = magnitude below + magnitude (below + 1) ∧
          nearestRank num den = if below % 2 = 0 then below else below + 1) := by
  have hden' : (0 : ℚ) < den := Nat.cast_pos.mpr hden
  refine ⟨floorRank (num * unitsOfOne / den), ?_, ?_, ?_⟩
  · have hle := (Nat.le_div_iff_mul_le hden).mp (units_floorRank_le (num * unitsOfOne / den))
    rw [magnitude_eq, div_le_div_iff₀ unitsOfOne_cast_pos hden']
    exact_mod_cast hle
  · have hlt := (Nat.div_lt_iff_lt_mul hden).mp (lt_units_floorRank_succ (num * unitsOfOne / den))
    rw [magnitude_eq, div_lt_div_iff₀ hden' unitsOfOne_cast_pos]
    exact_mod_cast hlt
  · -- twice the fraction and the sum of both ranks, over the common denominator
    have hunit := unitsOfOne_cast_pos.ne'
    have htwice : (2 * (num / den : ℚ)) = (2 * (num * unitsOfOne) : Nat) / (den * unitsOfOne) := by
      push_cast
      field_simp
    have hsum : ∀ r : Nat, magnitude r + magnitude (r + 1) =
        (den * (units r + units (r + 1)) : Nat) / (den * unitsOfOne) := fun r => by
      rw [magnitude_eq, magnitude_eq]
      push_cast
      field_simp
    have hpos : (0 : ℚ) < den * unitsOfOne := mul_pos hden' unitsOfOne_cast_pos
    simp only [nearestRank, shiftLeft_eq_mul_units, shiftLeft_eq_two_mul_units]
    generalize floorRank (num * unitsOfOne / den) = below
    rw [htwice, hsum, div_lt_div_iff_of_pos_right hpos, div_lt_div_iff_of_pos_right hpos,
      div_left_inj' hpos.ne', Nat.cast_lt, Nat.cast_lt, Nat.cast_inj]
    obtain hlt | heq | hgt := Nat.lt_trichotomy (2 * (num * unitsOfOne))
      (den * (units below + units (below + 1)))
    · exact .inl ⟨hlt, by rw [Nat.compare_eq_lt.mpr hlt]⟩
    · exact .inr (.inr ⟨heq, by rw [Nat.compare_eq_eq.mpr heq]⟩)
    · exact .inr (.inl ⟨hgt, by rw [Nat.compare_eq_gt.mpr hgt]⟩)

/-- Whether no other rank has a value nearer to `q`, and an odd rank none as near. -/
structure IsNearestRank (q : ℚ) (rank : Nat) : Prop where
  closest : ∀ r, |q - magnitude rank| ≤ |q - magnitude r|
  even : ∀ r, |q - magnitude r| = |q - magnitude rank| → r ≠ rank → rank % 2 = 0

theorem isNearestRank_nearestRank (num : Nat) {den : Nat} (hden : 0 < den) :
    IsNearestRank (num / den : ℚ) (nearestRank num den) := by
  obtain ⟨below, hlow, hhigh, hside⟩ := nearestRank_cases num hden
  generalize (num / den : ℚ) = q at *
  have hmono := magnitude_strictMono
  -- all ranks but the two around the fraction lie further away than one of these
  have hbelow : |q - magnitude below| = q - magnitude below :=
    abs_of_nonneg (sub_nonneg.mpr hlow)
  have habove : |q - magnitude (below + 1)| = magnitude (below + 1) - q := by
    rw [abs_sub_comm]
    exact abs_of_nonneg (sub_nonneg.mpr hhigh.le)
  have hfar : ∀ r, r = below ∨ r = below + 1 ∨
      |q - magnitude below| < |q - magnitude r| ∨
      |q - magnitude (below + 1)| < |q - magnitude r| := by
    intro r
    rw [hbelow, habove]
    obtain hlt | hr | hr | hgt : r < below ∨ r = below ∨ r = below + 1 ∨ below + 1 < r := by omega
    · have hq := (hmono hlt).trans_le hlow
      rw [abs_of_pos (sub_pos.mpr hq)]
      exact .inr (.inr (.inl (sub_lt_sub_left (hmono hlt) q)))
    · exact .inl hr
    · exact .inr (.inl hr)
    · have hq := hhigh.trans (hmono hgt)
      rw [abs_sub_comm, abs_of_pos (sub_pos.mpr hq)]
      exact .inr (.inr (.inr (sub_lt_sub_right (hmono hgt) q)))
  obtain ⟨hlt, hrank⟩ | ⟨hgt, hrank⟩ | ⟨heq, hrank⟩ := hside
  · rw [hrank]
    refine ⟨fun r => ?_, fun r htie hne => ?_⟩
    · obtain rfl | rfl | hr | hr := hfar r <;> linarith
    · obtain hr | rfl | hr | hr := hfar r
      · exact absurd hr hne
      all_goals linarith
  · rw [hrank]
    refine ⟨fun r => ?_, fun r htie hne => ?_⟩
    · obtain rfl | rfl | hr | hr := hfar r <;> linarith
    · obtain rfl | hr | hr | hr := hfar r
      · linarith
      · exact absurd hr hne
      all_goals linarith
  · have hsame : |q - magnitude below| = |q - magnitude (below + 1)| := by linarith
    rw [hrank]
    split_ifs with heven
    · exact ⟨fun r => by obtain rfl | rfl | hr | hr := hfar r <;> linarith, fun _ _ _ => heven⟩
    · exact ⟨fun r => by obtain rfl | rfl | hr | hr := hfar r <;> linarith,
        fun _ _ _ => by omega⟩

/-- The same among the ranks up to a greatest one, to which greater ranks are lowered. -/
theorem IsNearestRank.upTo {q : ℚ} {rank : Nat} (h : IsNearestRank q rank) (top : Nat) :
    (∀ r ≤ top, |q - magnitude (min rank top)| ≤ |q - magnitude r|) ∧
      ∀ r ≤ top, |q - magnitude r| = |q - magnitude (min rank top)| → r ≠ min rank top →
        min rank top % 2 = 0 := by
  by_cases hrank : rank ≤ top
  · rw [Nat.min_eq_left hrank]
    exact ⟨fun r _ => h.closest r, fun r _ => h.even r⟩
  · rw [Nat.not_le] at hrank
    rw [Nat.min_eq_right hrank.le]
    have htop : magnitude top ≤ q := by
      by_contra hq
      rw [not_le] at hq
      have hclosest := h.closest top
      have hmono := magnitude_strictMono hrank
      rw [abs_of_neg (sub_neg.mpr hq), abs_of_neg (sub_neg.mpr (hq.trans hmono))] at hclosest
      linarith
    have hdist : ∀ r ≤ top, |q - magnitude r| = q - magnitude r := fun r hr =>
      abs_of_nonneg (sub_nonneg.mpr ((magnitude_strictMono.monotone hr).trans htop))
    rw [hdist top le_rfl]
    refine ⟨fun r hr => ?_, fun r hr htie hne => ?_⟩
    · rw [hdist r hr]
      exact sub_le_sub_left (magnitude_strictMono.monotone hr) q
    · rw [hdist r hr] at htie
      exact absurd (magnitude_strictMono.injective (sub_right_injective htie)) hne

end Weblog.Number

namespace Weblog

open Number

namespace Binary64

/-! ## Numbers in order of their values -/

/-- A value with a sign in front of it. -/
def withSign (negative : Bool) (q : ℚ) : ℚ := if negative then -q else q

/-- The value of a number. Infinity has the value to which the next exponent would lead; what is
not a number counts as zero. -/
def value : Binary64 → ℚ
  | nan => 0
  | signed negative rank => withSign negative (magnitude rank)

def isNegative : Binary64 → Bool
  | nan => false
  | signed negative _ => negative

/-- Whether the last bit of the fraction is zero. -/
def isEven : Binary64 → Bool
  | nan => false
  | signed _ rank => rank.val % 2 == 0

/-- The value at a place among all numbers. -/
def valueAt (place : Int) : ℚ := withSign (place < 0) (magnitude place.natAbs)

theorem value_of_place {x : Binary64} {place : Int} (h : placeOf x = some place) :
    x.value = valueAt place := by
  cases x with
  | nan => cases h
  | signed negative rank =>
    cases h
    cases negative with
    | false => simp [value, valueAt, signedRank, withSign]
    | true =>
      obtain hzero | hpos := Nat.eq_zero_or_pos rank.val
      · simp [value, valueAt, signedRank, withSign, hzero, magnitude_zero]
      · simp [value, valueAt, signedRank, withSign, hpos]

theorem valueAt_lt {a b : Int} (hab : a < b) : valueAt a < valueAt b := by
  unfold valueAt withSign
  by_cases ha : a < 0
  · by_cases hb : b < 0
    · have hlt := magnitude_strictMono (show b.natAbs < a.natAbs by omega)
      simpa [ha, hb] using hlt
    · have hpos := magnitude_strictMono (show 0 < a.natAbs by omega)
      rw [magnitude_zero] at hpos
      have hnonneg := magnitude_nonneg b.natAbs
      simp only [ha, hb, decide_true, decide_false, if_true, Bool.false_eq_true, if_false]
      linarith
  · have hlt := magnitude_strictMono (show a.natAbs < b.natAbs by omega)
    simpa [ha, show ¬b < 0 by omega] using hlt

theorem valueAt_lt_iff {a b : Int} : valueAt a < valueAt b ↔ a < b :=
  StrictMono.lt_iff_lt fun _ _ => valueAt_lt

theorem exists_place {x : Binary64} (h : x ≠ nan) : ∃ place, placeOf x = some place := by
  cases x with
  | nan => exact absurd rfl h
  | signed negative rank => exact ⟨_, rfl⟩

theorem natAbs_place_le {x : Binary64} {place : Int} (h : placeOf x = some place) :
    place.natAbs ≤ infinityRank := by
  cases x with
  | nan => cases h
  | signed negative rank =>
    cases h
    have hrank := Nat.le_of_lt_succ rank.isLt
    cases negative <;> simpa [signedRank] using hrank

theorem isEven_of_place {x : Binary64} {place : Int} (h : placeOf x = some place) :
    x.isEven = true ↔ place % 2 = 0 := by
  cases x with
  | nan => cases h
  | signed negative rank =>
    cases h
    cases negative <;> simp [isEven, signedRank] <;> omega

theorem exists_of_place {place : Int} (h : place.natAbs ≤ infinityRank) :
    ∃ x : Binary64, placeOf x = some place := by
  refine ⟨.signed (place < 0) ⟨place.natAbs, Nat.lt_succ_of_le h⟩, ?_⟩
  by_cases hneg : place < 0
  · simp [placeOf, signedRank, hneg, abs_of_neg hneg]
  · simp [placeOf, signedRank, hneg, abs_of_nonneg (not_lt.mp hneg)]

theorem exists_between {x y : Binary64} (hx : x.isEven = true) (hy : y.isEven = true)
    (h : x.value < y.value) : ∃ z : Binary64, z ≠ nan ∧ x.value < z.value ∧ z.value < y.value := by
  obtain ⟨a, ha⟩ := exists_place (x := x) (by rintro rfl; cases hx)
  obtain ⟨b, hb⟩ := exists_place (x := y) (by rintro rfl; cases hy)
  rw [isEven_of_place ha] at hx
  rw [isEven_of_place hb] at hy
  have hxmax := natAbs_place_le ha
  have hymax := natAbs_place_le hb
  rw [value_of_place ha, value_of_place hb] at *
  have hab := valueAt_lt_iff.mp h
  obtain ⟨z, hz⟩ := exists_of_place (show (a + 1).natAbs ≤ infinityRank by omega)
  have hvalue := value_of_place hz
  refine ⟨z, ?_, ?_, ?_⟩
  · rintro rfl
    cases hz
  · rw [hvalue]
    exact valueAt_lt (by omega)
  · rw [hvalue]
    exact valueAt_lt (by omega)

theorem order_eq {x y : Binary64} (hx : x ≠ nan) (hy : y ≠ nan) :
    ∃ o, x.order y = some o ∧ (o.isLE = true ↔ x.value ≤ y.value) := by
  obtain ⟨a, ha⟩ := exists_place hx
  obtain ⟨b, hb⟩ := exists_place hy
  refine ⟨compare a b, order_of_places ha hb, ?_⟩
  rw [value_of_place ha, value_of_place hb, ← not_lt, valueAt_lt_iff, not_lt]
  exact Int.isLE_compare

/-! ## Rounding -/

/-- Whether `x` is the number to which `q` is rounded: no other number is nearer, and of two that
are equally near it is the even one. Beyond the greatest finite number lies infinity. -/
structure IsNearest (x : Binary64) (q : ℚ) : Prop where
  isNumber : x ≠ nan
  closest : ∀ y : Binary64, y ≠ nan → |q - x.value| ≤ |q - y.value|
  even : ∀ y : Binary64, y ≠ nan → |q - y.value| = |q - x.value| → y.value ≠ x.value →
    x.isEven = true

theorem abs_withSign_sub (negative : Bool) (q m : ℚ) :
    |withSign negative q - withSign negative m| = |q - m| := by
  cases negative with
  | false => rfl
  | true => rw [withSign, withSign, if_pos rfl, if_pos rfl, neg_sub_neg, abs_sub_comm]

theorem abs_withSign_sub_not (negative : Bool) (q m : ℚ) :
    |withSign negative q - withSign (!negative) m| = |q + m| := by
  cases negative with
  | false => simp [withSign]
  | true => simp [withSign, ← abs_neg (-q - m), add_comm]

theorem abs_sub_le_abs_add {q m : ℚ} (hq : 0 ≤ q) (hm : 0 ≤ m) : |q - m| ≤ |q + m| := by
  rw [abs_of_nonneg (add_nonneg hq hm), abs_le]
  constructor <;> linarith

theorem isNearest_signed {q : ℚ} (hq : 0 ≤ q) (negative : Bool) {rank : Fin (infinityRank + 1)}
    (hclosest : ∀ r ≤ infinityRank, |q - magnitude rank| ≤ |q - magnitude r|)
    (heven : ∀ r ≤ infinityRank, |q - magnitude r| = |q - magnitude rank| → r ≠ rank →
      rank.val % 2 = 0) :
    (signed negative rank).IsNearest (withSign negative q) := by
  have hle : ∀ r : Fin (infinityRank + 1), r.val ≤ infinityRank := fun r =>
    Nat.le_of_lt_succ r.isLt
  have hopposite : ∀ r : Fin (infinityRank + 1), |q - magnitude r| ≤ |q + magnitude r| := fun r =>
    abs_sub_le_abs_add hq (magnitude_nonneg r)
  have hsigns : ∀ s, s = negative ∨ s = !negative := by cases negative <;> decide
  refine ⟨nofun, fun y hy => ?_, fun y hy htie hne => ?_⟩
  · cases y with
    | nan => exact absurd rfl hy
    | signed s r =>
      have hnear := hclosest r (hle r)
      simp only [value, abs_withSign_sub]
      obtain rfl | rfl := hsigns s
      · rwa [abs_withSign_sub]
      · rw [abs_withSign_sub_not]
        exact hnear.trans (hopposite r)
  · cases y with
    | nan => exact absurd rfl hy
    | signed s r =>
      simp only [value, abs_withSign_sub] at htie hne
      have hnear := hclosest r (hle r)
      obtain rfl | rfl := hsigns s
      · rw [abs_withSign_sub] at htie
        refine beq_iff_eq.mpr (heven r (hle r) htie ?_)
        rintro hr
        exact hne (by rw [hr])
      · -- a number of the other sign is as near only if both are zero
        rw [abs_withSign_sub_not] at htie
        have hsame : |q - magnitude r| = |q - magnitude rank| :=
          le_antisymm (htie ▸ hopposite r) hnear
        by_cases hr : r.val = rank.val
        · have hzero := hclosest 0 (Nat.zero_le _)
          have hpos := magnitude_nonneg rank
          rw [magnitude_zero, sub_zero, abs_of_nonneg hq, ← htie, hr,
            abs_of_nonneg (add_nonneg hq hpos)] at hzero
          have hm : magnitude rank = 0 := by linarith
          rw [hr, hm] at hne
          simp [withSign] at hne
        · exact beq_iff_eq.mpr (heven r (hle r) hsame hr)

/-- **The number of a fraction is the nearest one.** -/
theorem isNearest_ofFraction (negative : Bool) (num : Nat) {den : Nat} (hden : 0 < den) :
    (ofFraction negative num den).IsNearest (withSign negative (num / den : ℚ)) := by
  obtain ⟨hclosest, heven⟩ := (isNearestRank_nearestRank num hden).upTo infinityRank
  exact isNearest_signed (by positivity) negative hclosest heven

theorem add_le_of_closer {a b q : ℚ} (hab : a < b) (h : |q - b| ≤ |q - a|) : a + b ≤ 2 * q := by
  by_contra hq
  rw [not_le] at hq
  rw [abs_of_neg (show q - b < 0 by linarith), le_abs] at h
  obtain h | h := h <;> linarith

theorem le_add_of_closer {a b q : ℚ} (hab : a < b) (h : |q - a| ≤ |q - b|) : 2 * q ≤ a + b := by
  by_contra hq
  rw [not_le] at hq
  rw [abs_of_pos (show 0 < q - a by linarith), le_abs] at h
  obtain h | h := h <;> linarith

/-- **Rounding keeps the order.** -/
theorem IsNearest.value_le {x y : Binary64} {q q' : ℚ} (hx : x.IsNearest q) (hy : y.IsNearest q')
    (h : q ≤ q') : x.value ≤ y.value := by
  by_contra hlt
  rw [not_le] at hlt
  -- the fractions are the same midpoint, so both numbers are even and another one is nearer
  have hlow := add_le_of_closer hlt (hx.closest y hy.isNumber)
  have hhigh := le_add_of_closer hlt (hy.closest x hx.isNumber)
  obtain rfl : q = q' := by linarith
  have hxy : |q - x.value| = |q - y.value| :=
    le_antisymm (hx.closest y hy.isNumber) (hy.closest x hx.isNumber)
  obtain ⟨z, hz, hyz, hzx⟩ := exists_between (hy.even x hx.isNumber hxy hlt.ne')
    (hx.even y hy.isNumber hxy.symm hlt.ne) hlt
  have hnear : |q - z.value| < |q - x.value| := by
    rw [abs_of_neg (show q - x.value < 0 by linarith), abs_lt]
    constructor <;> linarith
  exact absurd (hx.closest z hz) hnear.not_ge

/-- **There is one nearest number of each sign.** -/
theorem IsNearest.eq {x y : Binary64} {q : ℚ} (hx : x.IsNearest q) (hy : y.IsNearest q)
    (hsign : x.isNegative = y.isNegative) : x = y := by
  have hvalue := le_antisymm (hx.value_le hy le_rfl) (hy.value_le hx le_rfl)
  cases x with
  | nan => exact absurd rfl hx.isNumber
  | signed s r =>
    cases y with
    | nan => exact absurd rfl hy.isNumber
    | signed s' r' =>
      obtain rfl : s = s' := hsign
      have hm : magnitude r = magnitude r' := by
        cases s with
        | false => exact hvalue
        | true => exact neg_injective hvalue
      rw [Fin.ext (magnitude_strictMono.injective hm)]

end Binary64

end Weblog
