import Weblog.Proofs.Number.Nearest
import Weblog.Proofs.Number.Written
/-!
# Integers as numbers

A natural number has a number of its own up to `2 ^ 53`; beyond, several of them share one. Digits
are read as the number of the natural number that they denote, so it does not matter on which way a
natural number became a number.

* `exists_units_eq_shiftLeft`: mantissas of at most 53 bits are values, however far they are
  shifted.
* `exists_units_eq`: **natural numbers up to `2 ^ 53` are values of ranks**.
* `rankOfNat_lt_iff`: up to there, ranks are ordered as the natural numbers are.
* `readNumber_of_isNatural`: **digits are read as the number of a natural number**.
-/

namespace Weblog.Number

/-! ## Exact values -/

theorem exists_units_eq_shiftLeft {m shift : Nat} (hm : m < 2 * fractions) (hshift : 52 ≤ shift) :
    ∃ rank, units rank = m <<< shift := by
  obtain rfl | hpos := Nat.eq_zero_or_pos m
  · exact ⟨0, by rw [Nat.zero_shiftLeft]; decide⟩
  have hfractions : fractions = 2 ^ 52 := rfl
  -- the leading bit goes to the place that numbers give it
  have hlog : m.log2 < 53 := (Nat.log2_lt hpos.ne').mpr (by omega)
  obtain ⟨up, hup⟩ : ∃ up, m.log2 + up = 52 := ⟨52 - m.log2, by omega⟩
  obtain ⟨e, rfl⟩ : ∃ e, shift = up + e := Nat.exists_eq_add_of_le (by omega)
  have hlow : fractions ≤ m * 2 ^ up :=
    calc fractions = 2 ^ m.log2 * 2 ^ up := by rw [hfractions, ← Nat.pow_add, hup]
      _ ≤ m * 2 ^ up := Nat.mul_le_mul_right _ (Nat.log2_self_le hpos.ne')
  have hhigh : m * 2 ^ up < 2 * fractions :=
    calc m * 2 ^ up < 2 ^ (m.log2 + 1) * 2 ^ up :=
          Nat.mul_lt_mul_of_pos_right Nat.lt_log2_self (Nat.two_pow_pos up)
      _ = 2 * fractions := by rw [hfractions, ← Nat.pow_add, Nat.add_right_comm, hup]; rfl
  refine ⟨e * fractions + m * 2 ^ up, ?_⟩
  rw [units_add hlow hhigh, ← Nat.shiftLeft_eq, Nat.shiftLeft_add]

/-- **Natural numbers up to `2 ^ 53` are values of ranks.** -/
theorem exists_units_eq {n : Nat} (h : n ≤ 2 ^ 53) : ∃ rank, units rank = n * unitsOfOne := by
  have hfractions : 2 * fractions = 2 ^ 53 := rfl
  rw [← shiftLeft_eq_mul_units]
  obtain hlt | rfl := h.lt_or_eq
  · exact exists_units_eq_shiftLeft (hfractions ▸ hlt) (by decide)
  · obtain ⟨rank, hrank⟩ : ∃ rank, units rank = 1 <<< (53 + 1074) :=
      exists_units_eq_shiftLeft (by decide) (by decide)
    exact ⟨rank, by rw [hrank, Nat.shiftLeft_add]; rfl⟩

theorem units_nearestRank {n : Nat} (h : n ≤ 2 ^ 53) :
    units (nearestRank n 1) = n * unitsOfOne := by
  obtain ⟨rank, hrank⟩ := exists_units_eq h
  rw [nearestRank_units Nat.one_pos (by rw [hrank, Nat.mul_one]), hrank]

/-! ## The order of natural numbers -/

theorem rankOfNat_eq {n : Nat} (h : n < 2 ^ 64) : rankOfNat n = nearestRank n 1 := by
  have hlt := rankOfNat_lt h
  unfold rankOfNat at hlt ⊢
  omega

theorem rankOfNat_injOn {m n : Nat} (hm : m ≤ 2 ^ 53) (hn : n ≤ 2 ^ 53)
    (h : rankOfNat m = rankOfNat n) : m = n := by
  rw [rankOfNat_eq (by omega), rankOfNat_eq (by omega)] at h
  have hunits := congrArg units h
  rw [units_nearestRank hm, units_nearestRank hn] at hunits
  exact Nat.eq_of_mul_eq_mul_right unitsOfOne_pos hunits

theorem lt_of_rankOfNat_lt {m n : Nat} (h : rankOfNat m < rankOfNat n) : m < n := by
  by_contra hle
  exact absurd (rankOfNat_mono (Nat.not_lt.mp hle)) (Nat.not_le.mpr h)

theorem rankOfNat_lt_iff {m n : Nat} (hm : m ≤ 2 ^ 53) (hn : n ≤ 2 ^ 53) :
    rankOfNat m < rankOfNat n ↔ m < n := by
  refine ⟨lt_of_rankOfNat_lt, fun h => (rankOfNat_mono h.le).lt_of_ne fun heq => ?_⟩
  exact h.ne (rankOfNat_injOn hm hn heq)

theorem rankOfNat_inj_iff {m n : Nat} (hm : m ≤ 2 ^ 53) (hn : n ≤ 2 ^ 53) :
    rankOfNat m = rankOfNat n ↔ m = n :=
  ⟨rankOfNat_injOn hm hn, congrArg rankOfNat⟩

/-! ## Digits -/

/-- **Digits are read as the number of a natural number.** -/
theorem readNumber_of_isNatural {text : String} {n : Nat} (h : IsNatural 10 text.toList n)
    (hn : n < 2 ^ 64) : readNumber text = some (.ofNat n) := by
  obtain ⟨-, hdigits, -⟩ := isNatural_ten_iff.mp h
  have hdecimal : IsDecimal text.toList false ⟨n, 0⟩ := by
    have hdigits : IsNatural 10 (text.toList ++ (none : Option (List Char)).getD []) n := by
      simpa using h
    simpa [pointed] using IsDecimal.mk .absent hdigits .absent
  have hnumber : (⟨n, 0⟩ : Decimal).toBinary64 false = .ofNat n := by
    have hone : tenTo (0 : Int).toNat = 1 := rfl
    rw [Decimal.toBinary64_eq, Decimal.num, Decimal.den, Int.neg_zero, hone, Nat.mul_one]
    rfl
  rw [← String.ofList_toList (s := text),
    readNumber_of_numeral fun c hc => isNumeralChar_of_isDigit (hdigits c hc),
    splitDecimal_eq_some_iff.mpr hdecimal, Option.map_some, hnumber, Option.filter_some,
    if_pos (isFinite_ofNat hn)]

end Weblog.Number
