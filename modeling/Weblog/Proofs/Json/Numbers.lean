import Mathlib.Tactic.Common
import Weblog.Json.Document
import Weblog.Proofs.Number.Digits
import Weblog.Proofs.Number.Numerals
/-!
# JSON integers read back

* `EndsNumber`: whether a text does not continue a number in front of it.
* `scanNumber_intText`: the parts of an integer.
* **`scanNumeral_intText`**: an integer of 64 bits is read back, and what follows it is left.
* `scanNumber_eq_some`: the parts of any number that is read.
* **`scanNumeral_natural_iff`**: which numbers are read as natural numbers.
-/

namespace Weblog.Json

open Number

/-! ## Scanning -/

/-- Whether a text does not continue a number in front of it. -/
def EndsNumber (rest : List Char) : Prop :=
  ∀ c, rest.head? = some c → c.isDigit = false ∧ c ≠ '.' ∧ c ≠ 'e' ∧ c ≠ 'E'

theorem endsNumber_cons {c : Char} (rest : List Char) (hd : c.isDigit = false) (hp : c ≠ '.')
    (he : c ≠ 'e') (hE : c ≠ 'E') : EndsNumber (c :: rest) := by
  intro d hc
  obtain rfl : c = d := by simpa using hc
  exact ⟨hd, hp, he, hE⟩

theorem someDigits_toDigits (n : Nat) {rest : List Char} (h : EndsNumber rest) :
    someDigits (Nat.toDigits 10 n ++ rest) = some (Nat.toDigits 10 n, rest) := by
  have hstop := fun c hc => (h c hc).1
  rw [someDigits, takeWhile_isDigit isDigit_of_mem_toDigits hstop,
    dropWhile_isDigit isDigit_of_mem_toDigits hstop]
  simp [Nat.toDigits_ne_nil]

theorem scanFraction_none {rest : List Char} (h : EndsNumber rest) :
    scanFraction rest = some (none, rest) := by
  unfold scanFraction
  split
  · exact absurd rfl (h '.' rfl).2.1
  · rfl

theorem scanExponent_none {rest : List Char} (h : EndsNumber rest) :
    scanExponent rest = some (none, rest) := by
  cases rest with
  | nil => rfl
  | cons c cs =>
    obtain ⟨-, -, he, hE⟩ := h c rfl
    rw [scanExponent, if_neg (by simp [he, hE])]

theorem scanUnsigned_toDigits (negative : Bool) (n : Nat) {rest : List Char}
    (h : EndsNumber rest) :
    scanUnsigned negative (Nat.toDigits 10 n ++ rest) =
      some (⟨negative, Nat.toDigits 10 n, none, none⟩, rest) := by
  have hzero : ¬ ((Nat.toDigits 10 n).head? = some '0' ∧ (Nat.toDigits 10 n).length ≠ 1) := by
    rintro ⟨hhead, hlength⟩
    by_cases hn : n = 0
    · rw [hn] at hlength
      exact hlength rfl
    · exact head?_toDigits (Nat.pos_of_ne_zero hn) hhead
  simp only [scanUnsigned, someDigits_toDigits n h, Option.bind_eq_bind, Option.bind_some,
    if_neg hzero, scanFraction_none h, scanExponent_none h]
  rfl

theorem scanNumber_intText (i : Int) {rest : List Char} (h : EndsNumber rest) :
    scanNumber (intText i ++ rest) =
      some (⟨i < 0, Nat.toDigits 10 i.natAbs, none, none⟩, rest) := by
  have hscan := fun negative => scanUnsigned_toDigits negative i.natAbs h
  unfold intText
  split_ifs with hi
  · rw [List.singleton_append, List.cons_append, scanNumber, hscan, decide_eq_true hi]
  · rw [List.nil_append, scanNumber, hscan, decide_eq_false hi]
    -- a digit is no sign
    intro s hs
    obtain ⟨c, cs, hc⟩ := List.exists_cons_of_ne_nil (Nat.toDigits_ne_nil (n := i.natAbs) (b := 10))
    have hdigit := isDigit_of_mem_toDigits c (by rw [hc]; exact List.mem_cons_self)
    rw [hc, List.cons_append, List.cons.injEq] at hs
    rw [hs.1] at hdigit
    exact absurd hdigit (by decide)

/-! ## Values -/

/-- An integer between `-2 ^ 63` and `2 ^ 64`. -/
def IsExact (i : Int) : Prop := -(UInt64.size / 2 : Nat) ≤ i ∧ i < UInt64.size

theorem value_intText {i : Int} (h : IsExact i) :
    (⟨i < 0, Nat.toDigits 10 i.natAbs, none, none⟩ : NumberText).value = some (.int i) := by
  obtain ⟨hlow, hhigh⟩ := h
  unfold UInt64.size at hlow hhigh
  have hint : (⟨i < 0, Nat.toDigits 10 i.natAbs, none, none⟩ : NumberText).int? = some i := by
    simp only [NumberText.int?, decimalValue_toDigits, decide_eq_true_eq, UInt64.size]
    split_ifs with hneg hfits hfits
    · rw [show -(i.natAbs : Int) = i by omega]
    · omega
    · rw [show (i.natAbs : Int) = i by omega]
    · omega
  rw [NumberText.value, hint]

/-- **An integer of 64 bits is read back.** -/
theorem scanNumeral_intText {i : Int} (hi : IsExact i) {rest : List Char} (h : EndsNumber rest) :
    scanNumeral (intText i ++ rest) = (.number (some (.int i)), some rest) := by
  rw [scanNumeral, scanNumber_intText i h]
  simp only [value_intText hi]

/-! ## Natural numbers -/

theorem someDigits_eq_some {s digits rest : List Char} (h : someDigits s = some (digits, rest)) :
    s = digits ++ rest ∧ digits ≠ [] ∧ ∀ c ∈ digits, c.isDigit = true := by
  simp only [someDigits] at h
  split_ifs at h with hnone
  obtain ⟨rfl, rfl⟩ := Prod.mk.inj (Option.some.inj h)
  exact ⟨List.takeWhile_append_dropWhile.symm, by simpa using hnone,
    fun c hc => List.mem_takeWhile_imp hc⟩

theorem scanFraction_eq_some {s rest : List Char} {fraction : Option (List Char)}
    (h : scanFraction s = some (fraction, rest)) :
    ∃ part, s = part ++ rest ∧ (part = [] ↔ fraction = none) ∧
      ∀ c, part.head? = some c → c = '.' := by
  unfold scanFraction at h
  split at h
  · obtain ⟨⟨digits, left⟩, hdigits, heq⟩ := Option.map_eq_some_iff.mp h
    obtain ⟨rfl, rfl⟩ := Prod.mk.inj heq
    obtain ⟨rfl, -, -⟩ := someDigits_eq_some hdigits
    exact ⟨'.' :: digits, rfl, by simp, by simp [eq_comm]⟩
  · obtain ⟨rfl, rfl⟩ := Prod.mk.inj (Option.some.inj h)
    exact ⟨[], rfl, by simp, by simp⟩

theorem scanExponent_eq_some {s rest : List Char} {exponent : Option (Bool × List Char)}
    (h : scanExponent s = some (exponent, rest)) :
    ∃ part, s = part ++ rest ∧ (part = [] ↔ exponent = none) ∧
      ∀ c, part.head? = some c → c = 'e' ∨ c = 'E' := by
  unfold scanExponent at h
  split at h
  · rename_i c text
    obtain ⟨sign, -, htext⟩ := exists_isSign text
    generalize splitSign text = split at *
    split_ifs at h with hc
    · obtain ⟨⟨digits, left⟩, hdigits, heq⟩ := Option.map_eq_some_iff.mp h
      obtain ⟨rfl, rfl⟩ := Prod.mk.inj heq
      obtain ⟨hsplit, -, -⟩ := someDigits_eq_some hdigits
      refine ⟨c :: (sign ++ digits), ?_, by simp, by simpa using hc⟩
      rw [htext, hsplit, List.cons_append, List.append_assoc]
    · obtain ⟨rfl, rfl⟩ := Prod.mk.inj (Option.some.inj h)
      exact ⟨[], rfl, by simp, by simp⟩
  · obtain ⟨rfl, rfl⟩ := Prod.mk.inj (Option.some.inj h)
    exact ⟨[], rfl, by simp, by simp⟩

/-- A number is digits and what does not begin with one: a point and more digits, an exponent, or
both. -/
theorem scanUnsigned_eq_some {negative : Bool} {s rest : List Char} {t : NumberText}
    (h : scanUnsigned negative s = some (t, rest)) :
    t.negative = negative ∧ t.whole ≠ [] ∧ (∀ c ∈ t.whole, c.isDigit = true) ∧
      ∃ tail, s = t.whole ++ (tail ++ rest) ∧ (tail = [] ↔ t.fraction = none ∧ t.exponent = none) ∧
        ∀ c, tail.head? = some c → c.isDigit = false := by
  simp only [scanUnsigned, Option.bind_eq_bind, Option.bind_eq_some_iff] at h
  obtain ⟨⟨whole, afterWhole⟩, hwhole, h⟩ := h
  split_ifs at h
  simp only [Option.bind_eq_some_iff] at h
  obtain ⟨⟨fraction, afterPoint⟩, hfraction, ⟨exponent, left⟩, hexponent, h⟩ := h
  obtain ⟨rfl, rfl⟩ := Prod.mk.inj (Option.some.inj h)
  obtain ⟨rfl, hne, hdigits⟩ := someDigits_eq_some hwhole
  obtain ⟨point, rfl, hnone, hpoint⟩ := scanFraction_eq_some hfraction
  obtain ⟨power, rfl, hnone', hpower⟩ := scanExponent_eq_some hexponent
  refine ⟨rfl, hne, hdigits, point ++ power, by simp, by simp [hnone, hnone'], fun c hc => ?_⟩
  rw [List.head?_append] at hc
  rcases Option.or_eq_some_iff.mp hc with hc | ⟨-, hc⟩
  · rw [hpoint c hc]; rfl
  · obtain rfl | rfl := hpower c hc <;> rfl

theorem scanNumber_eq_some {s rest : List Char} {t : NumberText}
    (h : scanNumber s = some (t, rest)) :
    t.whole ≠ [] ∧ (∀ c ∈ t.whole, c.isDigit = true) ∧
      ∃ tail, s = (if t.negative then ['-'] else []) ++ (t.whole ++ (tail ++ rest)) ∧
        (tail = [] ↔ t.fraction = none ∧ t.exponent = none) ∧
        ∀ c, tail.head? = some c → c.isDigit = false := by
  unfold scanNumber at h
  split at h
  all_goals
    obtain ⟨hsign, hne, hdigits, tail, rfl, htail⟩ := scanUnsigned_eq_some h
    exact ⟨hne, hdigits, tail, by simp [hsign], htail⟩

theorem NumberText.value_eq_natural_iff {t : NumberText} {k : Nat} :
    t.value = some (.int k) ↔ t.negative = false ∧ (t.fraction = none ∧ t.exponent = none) ∧
      k = decimalValue t.whole ∧ k < UInt64.size := by
  have hint : t.value = some (.int k) ↔ t.int? = some (k : Int) := by
    unfold value
    cases t.int? <;> simp
  obtain ⟨negative, whole, fraction, exponent⟩ := t
  rw [hint]
  unfold int?
  cases fraction <;> cases exponent <;> simp only [reduceCtorEq, and_false, false_and, true_and]
  cases negative with
  | false =>
    simp only [Bool.false_eq_true, if_false, true_and]
    split_ifs with hfits
    · rw [Option.some_inj, Nat.cast_inj]
      exact ⟨fun h => ⟨h.symm, h ▸ hfits⟩, fun h => h.1.symm⟩
    · simp only [false_iff, not_and]
      rintro rfl
      exact hfits
  | true =>
    simp only [Bool.true_eq_false, if_true, false_and, iff_false]
    split_ifs with hfits
    · rw [Option.some_inj]
      omega
    · exact nofun

/-- **A number is read as a natural number that fits** if its text is the digits of one. -/
theorem scanNumeral_natural_iff {s rest : List Char} {n : Numeral} {k : Nat}
    (h : scanNumeral s = (.number (some n), some rest)) :
    n = .int k ↔ ∃ digits, s = digits ++ rest ∧ IsNatural 10 digits k ∧ k < UInt64.size := by
  unfold scanNumeral at h
  split at h
  case h_2 => exact nomatch h
  rename_i t left hscan
  obtain ⟨hvalue, hleft⟩ := Prod.mk.inj h
  obtain rfl := Option.some.inj hleft
  have hvalue : t.value = some n := Document.number.inj hvalue
  have hn : n = .int k ↔ t.value = some (.int k) := by rw [hvalue, Option.some_inj]
  obtain ⟨hne, hdigits, tail, rfl, hplain, htail⟩ := scanNumber_eq_some hscan
  rw [hn, NumberText.value_eq_natural_iff, ← hplain]
  constructor
  · rintro ⟨hnegative, rfl, hk, hfits⟩
    exact ⟨t.whole, by simp [hnegative], isNatural_ten_iff.mpr ⟨hne, hdigits, hk⟩, hfits⟩
  · rintro ⟨digits, htext, hnatural, hfits⟩
    obtain ⟨-, hall, rfl⟩ := isNatural_ten_iff.mp hnatural
    rw [← List.append_assoc, ← List.append_assoc, List.append_cancel_right_eq] at htext
    -- All of the text is digits, so there is no minus sign, and nothing behind the digits.
    have hnegative : t.negative = false := by
      by_contra hsign
      rw [Bool.not_eq_false] at hsign
      rw [← htext, hsign] at hall
      exact absurd (hall '-' (by simp)) (by decide)
    have hnone : tail = [] := by
      cases tail with
      | nil => rfl
      | cons c cs =>
        have hc := hall c (by rw [← htext]; simp)
        exact absurd hc (by rw [htail c rfl]; decide)
    rw [hnegative, hnone] at htext
    exact ⟨hnegative, hnone, by rw [← htext]; simp, hfits⟩

end Weblog.Json
