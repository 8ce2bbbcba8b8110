import Mathlib.Tactic.Positivity
import Mathlib.Tactic.Ring
import Weblog.Proofs.Number.Nearest
import Weblog.Proofs.Number.Numerals
/-!
# Reading numerals

Every numeral denotes a rational, and it is read as the finite number nearest to that rational. A
text that is no numeral, or one that denotes too large a rational, is read as no number.

* `IsNumeral`: the texts that denote a rational, with its sign.
* `readTrimmed_of_isNumeral`: a numeral is read as its nearest number, if that is finite;
  `isNumeral_of_readTrimmed`: nothing else is read.
* **`readNumber_grammar`**: which texts are read, as which numbers, and that reading keeps the
  order of rationals.
-/

namespace Weblog.Number

open Text

/-! ## Denoted rationals -/

/-- The value of a decimal. -/
def Decimal.value (d : Decimal) : ℚ := d.mantissa * 10 ^ d.exponent

/-- A numeral, whether it has a minus sign, and the rational that it denotes without the sign: a
decimal numeral, or a natural number below `2 ^ 64` behind the letter of its base. -/
inductive IsNumeral : List Char → Bool → ℚ → Prop
  | decimal {text : List Char} {negative : Bool} {d : Decimal} :
      IsDecimal text negative d → IsNumeral text negative d.value
  | natural {letter : Char} {base : Nat} {digits : List Char} {n : Nat} :
      (letter, base) ∈ bases → IsNatural base digits n → n < 2 ^ 64 →
      IsNumeral ('0' :: letter :: digits) false n

theorem Decimal.value_eq (d : Decimal) : d.value = d.num / d.den := by
  have hexponent : (10 : ℚ) ^ d.exponent = 10 ^ d.exponent.toNat / 10 ^ (-d.exponent).toNat := by
    rw [← zpow_natCast, ← zpow_natCast, ← zpow_sub₀ (by norm_num)]
    congr 1
    omega
  have htenTo : ∀ k : Nat, ((tenTo k : Nat) : ℚ) = 10 ^ k := fun k => by
    rw [tenTo, Nat.pow_eq, Nat.cast_pow, Nat.cast_ofNat]
  rw [value, hexponent, num, den, Nat.cast_mul, htenTo, htenTo, mul_div_assoc]

theorem base_le {letter : Char} {base : Nat} (h : (letter, base) ∈ bases) : base ≤ 16 := by
  have hbases : ∀ p ∈ bases, p.2 ≤ 16 := by decide
  exact hbases _ h

theorem IsDecimal.splitRadix {text : List Char} {negative : Bool} {d : Decimal}
    (h : IsDecimal text negative d) : splitRadix text = none := by
  by_contra hsome
  obtain ⟨⟨base, digits⟩, hsplit⟩ := Option.ne_none_iff_exists'.mp hsome
  obtain ⟨c, hc, rfl⟩ := splitRadix_eq_some_iff.mp hsplit
  have hletters : ∀ p ∈ bases, p.1.isDigit = false ∧ p.1 ≠ '.' ∧ ¬(p.1 = 'e' ∨ p.1 = 'E') := by
    decide
  obtain ⟨hdigit, hpoint, hexponent⟩ := hletters _ hc
  have hfraction : splitFraction (c :: digits) = ([], c :: digits) := by
    unfold splitFraction
    split <;> simp_all
  rw [← splitDecimal_eq_some_iff] at h
  simp [splitDecimal, splitSign, hdigit, hfraction, splitExponent, hexponent] at h

/-! ## Reading -/

/-- **A numeral is read as its nearest number**, if that is finite. -/
theorem readTrimmed_of_isNumeral {text : List Char} {negative : Bool} {q : ℚ}
    (h : IsNumeral text negative q) : ∃ x : Binary64,
      x.IsNearest (Binary64.withSign negative q) ∧ x.isNegative = negative ∧
        readTrimmed text = (some x).filter Binary64.isFinite := by
  cases h with
  | @decimal _ _ d hdecimal =>
    refine ⟨.ofFraction negative d.num d.den, ?_, rfl, ?_⟩
    · rw [d.value_eq]
      exact Binary64.isNearest_ofFraction negative d.num d.den_pos
    · rw [readTrimmed, hdecimal.splitRadix, splitDecimal_eq_some_iff.mpr hdecimal,
        ← d.toBinary64_eq]
      rfl
  | @natural letter base digits n hbase hdigits hn =>
    refine ⟨.ofNat n, ?_, rfl, ?_⟩
    · have hnearest := Binary64.isNearest_ofFraction false n Nat.one_pos
      rwa [Nat.cast_one, div_one] at hnearest
    · have hread := (readNat_eq_some_iff (base_le hbase)).mpr hdigits
      have hsize : decide (n < UInt64.size) = true := decide_eq_true hn
      simp only [readTrimmed, splitRadix_eq_some_iff.mpr ⟨letter, hbase, rfl⟩, hread,
        Option.filter_some, hsize, isFinite_ofNat hn, if_true, Option.map_some]

/-- **What is read is a numeral.** -/
theorem isNumeral_of_readTrimmed {text : List Char} {x : Binary64}
    (h : readTrimmed text = some x) : ∃ negative q, IsNumeral text negative q := by
  unfold readTrimmed at h
  split at h
  · rename_i base digits hsplit
    obtain ⟨letter, hbase, rfl⟩ := splitRadix_eq_some_iff.mp hsplit
    obtain ⟨n, hn, -⟩ := Option.map_eq_some_iff.mp h
    obtain ⟨hread, hlt⟩ := Option.filter_eq_some_iff.mp hn
    exact ⟨_, _, .natural hbase ((readNat_eq_some_iff (base_le hbase)).mp hread)
      (of_decide_eq_true hlt)⟩
  · obtain ⟨hread, -⟩ := Option.filter_eq_some_iff.mp h
    obtain ⟨⟨negative, d⟩, hsplit, -⟩ := Option.map_eq_some_iff.mp hread
    exact ⟨_, _, .decimal (splitDecimal_eq_some_iff.mp hsplit)⟩

theorem isNearest_of_readTrimmed {text : List Char} {negative : Bool} {q : ℚ} {x : Binary64}
    (h : IsNumeral text negative q) (hx : readTrimmed text = some x) :
    x.IsNearest (Binary64.withSign negative q) ∧ x.isNegative = negative ∧ x.isFinite = true := by
  obtain ⟨y, hnearest, hsign, hread⟩ := readTrimmed_of_isNumeral h
  obtain ⟨hy, hfinite⟩ := Option.filter_eq_some_iff.mp (hread.symm.trans hx)
  cases hy
  exact ⟨hnearest, hsign, hfinite⟩

/-- **Exactly the numerals with a finite nearest number are read, as that number**, with the sign
of the numeral. Of two numerals, the one with the smaller rational is read as the smaller number
or as the same. Blanks around a numeral do not count. -/
theorem readNumber_grammar :
    (∀ (s : String) (x : Binary64), readNumber s = some x ↔
      ∃ negative q, IsNumeral (trim s.toList) negative q ∧
        x.IsNearest (Binary64.withSign negative q) ∧ x.isNegative = negative ∧
        x.isFinite = true) ∧
    ∀ (s s' : String) (x x' : Binary64) (negative negative' : Bool) (q q' : ℚ),
      IsNumeral (trim s.toList) negative q → IsNumeral (trim s'.toList) negative' q' →
      readNumber s = some x → readNumber s' = some x' →
      Binary64.withSign negative q ≤ Binary64.withSign negative' q' →
      ∃ o, x.order x' = some o ∧ o.isLE = true := by
  constructor
  · intro s x
    constructor
    · intro h
      obtain ⟨negative, q, hnumeral⟩ := isNumeral_of_readTrimmed h
      exact ⟨negative, q, hnumeral, isNearest_of_readTrimmed hnumeral h⟩
    · rintro ⟨negative, q, hnumeral, hnearest, hsign, hfinite⟩
      obtain ⟨y, hnearest', hsign', hread⟩ := readTrimmed_of_isNumeral hnumeral
      obtain rfl : x = y := hnearest.eq hnearest' (hsign.trans hsign'.symm)
      rw [readNumber, hread, Option.filter_some, if_pos hfinite]
  · intro s s' x x' negative negative' q q' hnumeral hnumeral' hx hx' hle
    obtain ⟨hnearest, -, -⟩ := isNearest_of_readTrimmed hnumeral hx
    obtain ⟨hnearest', -, -⟩ := isNearest_of_readTrimmed hnumeral' hx'
    obtain ⟨o, ho, hiff⟩ := Binary64.order_eq hnearest.isNumber hnearest'.isNumber
    exact ⟨o, ho, hiff.mpr (hnearest.value_le hnearest' hle)⟩

/-- A natural number halfway between two numbers, which is rounded to the even one, and a text
with a point and an exponent that denotes slightly more and is rounded to the other one. -/
theorem readNumber_grammar_halfway :
    let half : Decimal := ⟨9007199254740993, 0⟩
    let above : Decimal := ⟨90071992547409930001, -4⟩
    IsNumeral (trim "9007199254740993".toList) false half.value ∧
      IsNumeral (trim " +900719925474099.30001e1 ".toList) false above.value ∧
      readNumber "9007199254740993" = some (.ofNat (2 ^ 53)) ∧
      readNumber " +900719925474099.30001e1 " = some (.ofNat (2 ^ 53 + 2)) ∧
      (∃ negative q, IsNumeral (trim "9007199254740993".toList) negative q ∧
        (Binary64.ofNat (2 ^ 53)).IsNearest (Binary64.withSign negative q) ∧
        (Binary64.ofNat (2 ^ 53)).isNegative = negative ∧
        (Binary64.ofNat (2 ^ 53)).isFinite = true) ∧
      Binary64.withSign false half.value ≤ Binary64.withSign false above.value ∧
      ∃ o, (Binary64.ofNat (2 ^ 53)).order (.ofNat (2 ^ 53 + 2)) = some o ∧ o.isLE = true := by
  intro half above
  have hhalf : IsNumeral (trim "9007199254740993".toList) false half.value :=
    .decimal (splitDecimal_eq_some_iff.mp (by decide +kernel))
  have habove : IsNumeral (trim " +900719925474099.30001e1 ".toList) false above.value :=
    .decimal (splitDecimal_eq_some_iff.mp (by decide +kernel))
  have hread : readNumber "9007199254740993" = some (.ofNat (2 ^ 53)) := by decide +kernel
  have hread' : readNumber " +900719925474099.30001e1 " = some (.ofNat (2 ^ 53 + 2)) := by
    decide +kernel
  have hle : Binary64.withSign false half.value ≤ Binary64.withSign false above.value := by
    norm_num [Binary64.withSign, Decimal.value, half, above]
  exact ⟨hhalf, habove, hread, hread', (readNumber_grammar.1 _ _).mp hread, hle,
    readNumber_grammar.2 _ _ _ _ _ _ _ _ hhalf habove hread hread' hle⟩

end Weblog.Number
