import Mathlib.Data.List.Induction
import Mathlib.Tactic.Common
import Mathlib.Tactic.IntervalCases
import Weblog.Proofs.Number.Digits
/-!
# Numerals

The grammar of numerals, stated without the readers, and the readers that follow it: digits of a
base, signs, exponents, decimals with a point, and the letters that announce a base.

* `IsDigit`, `IsNatural`: digits and what they denote;
  `readNat_eq_some_iff`: **digits are read as the number that they denote**.
* `IsSign`, `IsExponent`, `IsDecimal`: the parts of a decimal numeral and the whole;
  `splitDecimal_eq_some_iff`: **a decimal numeral is split into its parts**.
* `bases`, `splitRadix_eq_some_iff`: the letters of the bases.
-/

namespace Weblog.Number

/-! ## Natural numbers -/

/-- A digit of a base and its value: the letters from `a` on stand for ten and more, in either
case. -/
def IsDigit (base : Nat) (c : Char) (d : Nat) : Prop :=
  d < base ∧ (c = d.digitChar ∨ c = d.digitChar.toUpper)

/-- One or more digits of a base and the number that they denote. -/
inductive IsNatural (base : Nat) : List Char → Nat → Prop
  | digit {c : Char} {d : Nat} : IsDigit base c d → IsNatural base [c] d
  | snoc {digits : List Char} {n : Nat} {c : Char} {d : Nat} : IsNatural base digits n →
      IsDigit base c d → IsNatural base (digits ++ [c]) (n * base + d)

theorem toNat_le_toNat {a c : Char} : a ≤ c ↔ a.toNat ≤ c.toNat := by
  rw [Char.le_def, UInt32.le_iff_toNat_le]
  rfl

theorem ofNat_digitChar : ∀ d < 16, (d < 10 → Char.ofNat (48 + d) = d.digitChar) ∧
    (10 ≤ d → Char.ofNat (87 + d) = d.digitChar ∧ Char.ofNat (55 + d) = d.digitChar.toUpper) := by
  decide

theorem digitValue_eq_some_iff {base : Nat} (hbase : base ≤ 16) {c : Char} {d : Nat} :
    digitValue base c = some d ↔ IsDigit base c d := by
  unfold digitValue IsDigit
  simp only [Option.filter_eq_some_iff, decide_eq_true_eq, toNat_le_toNat]
  constructor
  · rintro ⟨hvalue, hd⟩
    obtain ⟨hdigits, hletters⟩ := ofNat_digitChar d (by omega)
    refine ⟨hd, ?_⟩
    rw [← Char.ofNat_toNat c]
    split_ifs at hvalue with hdigit hlower hupper
    · rw [show c.toNat = 48 + d by simp at hvalue hdigit; omega]
      exact .inl (hdigits (by simp at hvalue hdigit; omega))
    · rw [show c.toNat = 87 + d by simp at hvalue hlower; omega]
      exact .inl (hletters (by simp at hvalue; omega)).1
    · rw [show c.toNat = 55 + d by simp at hvalue hupper; omega]
      exact .inr (hletters (by simp at hvalue; omega)).2
  · rintro ⟨hd, hc⟩
    have hlt : d < 16 := by omega
    refine ⟨?_, hd⟩
    obtain rfl | rfl := hc <;> interval_cases d <;> rfl

theorem ofDigits_append (base : Nat) (values : List Nat) (d : Nat) :
    ofDigits base (values ++ [d]) = ofDigits base values * base + d := by
  simp [ofDigits]

theorem readNat_of_ne_nil (base : Nat) {digits : List Char} (h : digits ≠ []) :
    readNat base digits = (digits.mapM (digitValue base)).map (ofDigits base) := by
  simp [readNat, h]

/-- **Digits are read as the number that they denote.** -/
theorem readNat_eq_some_iff {base : Nat} (hbase : base ≤ 16) {digits : List Char} {n : Nat} :
    readNat base digits = some n ↔ IsNatural base digits n := by
  constructor
  · intro h
    induction digits using List.reverseRecOn generalizing n with
    | nil => cases h
    | append_singleton digits c ih =>
      rw [readNat_of_ne_nil base (by simp)] at h
      simp only [List.mapM_append, List.mapM_cons, List.mapM_nil, Option.map_eq_some_iff,
        Option.bind_eq_bind, Option.bind_eq_some_iff, Option.pure_def, Option.some_inj] at h
      obtain ⟨_, ⟨front, hfront, _, ⟨d, hd, _, rfl, rfl⟩, rfl⟩, rfl⟩ := h
      rw [digitValue_eq_some_iff hbase] at hd
      rw [ofDigits_append]
      by_cases hnil : digits = []
      · subst hnil
        obtain rfl : front = [] := by simpa [eq_comm] using hfront
        simpa [ofDigits] using IsNatural.digit hd
      · exact (ih (by simp [readNat_of_ne_nil base hnil, hfront])).snoc hd
  · intro h
    induction h with
    | digit hd => simp [readNat, (digitValue_eq_some_iff hbase).mpr hd, ofDigits]
    | snoc _ hd ih =>
      unfold readNat at ih
      split_ifs at ih with hne
      obtain ⟨values, hvalues, rfl⟩ := Option.map_eq_some_iff.mp ih
      simp [readNat, hvalues, (digitValue_eq_some_iff hbase).mpr hd, ofDigits_append]

theorem isDigit_iff {c : Char} : c.isDigit = true ↔ 48 ≤ c.toNat ∧ c.toNat ≤ 57 := by
  simp only [Char.isDigit, Bool.and_eq_true, decide_eq_true_eq, ge_iff_le, UInt32.le_iff_toNat_le]
  rfl

theorem isDigit_ten_iff {c : Char} {d : Nat} :
    IsDigit 10 c d ↔ c.isDigit = true ∧ d = c.toNat - '0'.toNat := by
  rw [← digitValue_eq_some_iff (by decide), isDigit_iff]
  unfold digitValue
  simp only [Option.filter_eq_some_iff, decide_eq_true_eq, toNat_le_toNat]
  constructor
  · rintro ⟨hvalue, hd⟩
    split_ifs at hvalue with hdigit <;> simp at hvalue hdigit <;> subst hvalue
    · exact ⟨hdigit, rfl⟩
    all_goals omega
  · rintro ⟨hdigit, rfl⟩
    exact ⟨if_pos hdigit, by simp; omega⟩

theorem isNatural_ten_iff {digits : List Char} {n : Nat} :
    IsNatural 10 digits n ↔
      digits ≠ [] ∧ (∀ c ∈ digits, c.isDigit = true) ∧ n = decimalValue digits := by
  constructor
  · intro h
    induction h with
    | digit hd =>
      obtain ⟨hdigit, rfl⟩ := isDigit_ten_iff.mp hd
      simp [hdigit, decimalValue, ofDigits]
    | snoc _ hd ih =>
      obtain ⟨hdigit, rfl⟩ := isDigit_ten_iff.mp hd
      obtain ⟨-, hall, rfl⟩ := ih
      refine ⟨by simp, ?_, by simp [decimalValue, ofDigits]⟩
      simpa [or_imp, forall_and, hdigit] using hall
  · rintro ⟨hne, hdigits, rfl⟩
    induction digits using List.reverseRecOn with
    | nil => exact absurd rfl hne
    | append_singleton digits c ih =>
      have hc : IsDigit 10 c (c.toNat - '0'.toNat) := isDigit_ten_iff.mpr ⟨hdigits c (by simp), rfl⟩
      by_cases hnil : digits = []
      · subst hnil
        simpa [decimalValue, ofDigits] using IsNatural.digit hc
      · have hfront := ih hnil fun d hd => hdigits d (by simp [hd])
        simpa [decimalValue, ofDigits] using hfront.snoc hc

theorem IsNatural.lt {base : Nat} {digits : List Char} {n : Nat} (h : IsNatural base digits n) :
    n < base ^ digits.length := by
  induction h with
  | digit hd => simpa using hd.1
  | @snoc digits n c d _ hd ih =>
    calc n * base + d < n * base + base := Nat.add_lt_add_left hd.1 _
      _ = (n + 1) * base := (Nat.succ_mul n base).symm
      _ ≤ base ^ digits.length * base := Nat.mul_le_mul_right base ih
      _ = base ^ (digits ++ [c]).length := by
        rw [List.length_append, List.length_singleton, Nat.pow_succ]

/-! ## Decimal numerals -/

/-- A sign that may be missing, and whether it is a minus sign. -/
inductive IsSign : List Char → Bool → Prop
  | absent : IsSign [] false
  | plus : IsSign ['+'] false
  | minus : IsSign ['-'] true

/-- An exponent that may be missing, and its value. -/
inductive IsExponent : List Char → Int → Prop
  | absent : IsExponent [] 0
  | present {letter : Char} {sign digits : List Char} {negative : Bool} {n : Nat} :
      letter = 'e' ∨ letter = 'E' → IsSign sign negative → IsNatural 10 digits n →
      IsExponent (letter :: (sign ++ digits)) (if negative then -n else n)

/-- The text of a point and the digits behind it, if there is a point. -/
def pointed : Option (List Char) → List Char
  | none => []
  | some digits => '.' :: digits

/-- A decimal numeral: a sign, digits with at most one point before, among or behind them, and an
exponent. -/
inductive IsDecimal : List Char → Bool → Decimal → Prop
  | mk {sign whole tail : List Char} {fraction : Option (List Char)} {negative : Bool} {m : Nat}
      {e : Int} : IsSign sign negative → IsNatural 10 (whole ++ fraction.getD []) m →
      IsExponent tail e → IsDecimal (sign ++ (whole ++ (pointed fraction ++ tail))) negative
        ⟨m, e - (fraction.getD []).length⟩

theorem exists_isSign (text : List Char) :
    ∃ sign, IsSign sign (splitSign text).1 ∧ text = sign ++ (splitSign text).2 := by
  unfold splitSign
  split
  · exact ⟨_, .minus, rfl⟩
  · exact ⟨_, .plus, rfl⟩
  · exact ⟨_, .absent, rfl⟩

theorem splitSign_append {sign rest : List Char} {negative : Bool} (h : IsSign sign negative)
    (hrest : ∀ c, rest.head? = some c → c.isDigit = true ∨ c = '.') :
    splitSign (sign ++ rest) = (negative, rest) := by
  cases h with
  | absent =>
    rw [List.nil_append]
    unfold splitSign
    split
    · exact absurd (hrest '-' rfl) (by decide)
    · exact absurd (hrest '+' rfl) (by decide)
    · rfl
  | plus => rfl
  | minus => rfl

theorem splitExponent_eq_some_iff {tail : List Char} {e : Int} :
    splitExponent tail = some e ↔ IsExponent tail e := by
  constructor
  · intro h
    unfold splitExponent at h
    split at h
    · cases h
      exact .absent
    · rename_i c rest
      obtain ⟨sign, hsign, hrest⟩ := exists_isSign rest
      generalize splitSign rest = split at *
      dsimp only at h
      split_ifs at h with hif hnegative
      all_goals
        obtain ⟨hletter, hne, hdigits⟩ := hif
        have hexponent := IsExponent.present hletter hsign
          (isNatural_ten_iff.mpr ⟨hne, List.all_eq_true.mp hdigits, rfl⟩)
        cases h
        rw [hrest]
        simpa [hnegative] using hexponent
  · intro h
    cases h with
    | absent => rfl
    | present hletter hsign hdigits =>
      obtain ⟨hne, hall, rfl⟩ := isNatural_ten_iff.mp hdigits
      have hsplit := splitSign_append hsign fun c hc => .inl (hall c (List.mem_of_mem_head? hc))
      simp only [splitExponent, hsplit]
      rw [if_pos ⟨hletter, hne, List.all_eq_true.mpr hall⟩]

theorem IsExponent.head? {tail : List Char} {e : Int} (h : IsExponent tail e) :
    ∀ c, tail.head? = some c → c.isDigit = false ∧ c ≠ '.' := by
  cases h with
  | absent => simp
  | present hletter _ _ => obtain rfl | rfl := hletter <;> simp

theorem exists_pointed (text : List Char) : ∃ fraction : Option (List Char),
    (∀ c ∈ fraction.getD [], c.isDigit = true) ∧ (splitFraction text).1 = fraction.getD [] ∧
      text = pointed fraction ++ (splitFraction text).2 := by
  unfold splitFraction
  split
  · rename_i rest
    refine ⟨some (rest.takeWhile Char.isDigit), fun c hc => List.mem_takeWhile_imp hc, rfl, ?_⟩
    simp [pointed]
  · exact ⟨none, by simp, rfl, rfl⟩

theorem splitFraction_pointed {fraction : Option (List Char)} {tail : List Char}
    (hfraction : ∀ c ∈ fraction.getD [], c.isDigit = true)
    (htail : ∀ c, tail.head? = some c → c.isDigit = false ∧ c ≠ '.') :
    splitFraction (pointed fraction ++ tail) = (fraction.getD [], tail) := by
  cases fraction with
  | none =>
    unfold splitFraction pointed
    rw [List.nil_append]
    split
    · exact absurd rfl (htail '.' rfl).2
    · rfl
  | some digits =>
    have hdigits : ∀ c ∈ digits, c.isDigit = true := hfraction
    have hstop := fun c hc => (htail c hc).1
    simp only [pointed, List.cons_append, splitFraction, takeWhile_isDigit hdigits hstop,
      dropWhile_isDigit hdigits hstop]
    rfl

/-- **A decimal numeral is split into its parts.** -/
theorem splitDecimal_eq_some_iff {text : List Char} {negative : Bool} {d : Decimal} :
    splitDecimal text = some (negative, d) ↔ IsDecimal text negative d := by
  constructor
  · intro h
    obtain ⟨sign, hsign, htext⟩ := exists_isSign text
    cases hsplit : splitSign text with
    | mk s unsigned =>
      obtain ⟨fraction, hfraction, hdigits, hrest⟩ :=
        exists_pointed (unsigned.dropWhile Char.isDigit)
      cases hparts : splitFraction (unsigned.dropWhile Char.isDigit) with
      | mk digits tail =>
        simp only [hsplit, hparts] at hsign htext hdigits hrest
        simp only [splitDecimal, hsplit, hparts, hdigits] at h
        split_ifs at h with hnone
        obtain ⟨e, hexponent, heq⟩ := Option.map_eq_some_iff.mp h
        cases heq
        have hall : ∀ c ∈ unsigned.takeWhile Char.isDigit ++ fraction.getD [],
            c.isDigit = true := fun c hc =>
          (List.mem_append.mp hc).elim (fun hc => List.mem_takeWhile_imp hc) (hfraction c)
        have hnatural := isNatural_ten_iff.mpr ⟨by simpa using hnone, hall, rfl⟩
        have hunsigned : unsigned =
            unsigned.takeWhile Char.isDigit ++ (pointed fraction ++ tail) := by
          rw [← hrest, List.takeWhile_append_dropWhile]
        have hdecimal := IsDecimal.mk hsign hnatural (splitExponent_eq_some_iff.mp hexponent)
        rwa [← hunsigned, ← htext] at hdecimal
  · intro h
    cases h with
    | @mk sign whole tail fraction _ _ e hsign hdigits hexponent =>
      obtain ⟨hne, hall, rfl⟩ := isNatural_ten_iff.mp hdigits
      have hwhole : ∀ c ∈ whole, c.isDigit = true := fun c hc => hall c (by simp [hc])
      have hfraction : ∀ c ∈ fraction.getD [], c.isDigit = true := fun c hc =>
        hall c (List.mem_append_right _ hc)
      have htail := hexponent.head?
      have hstop : ∀ c, (pointed fraction ++ tail).head? = some c → c.isDigit = false := by
        cases fraction with
        | none => exact fun c hc => (htail c hc).1
        | some digits =>
          rintro c hc
          obtain rfl : '.' = c := by simpa [pointed] using hc
          rfl
      have hsplit : splitSign (sign ++ (whole ++ (pointed fraction ++ tail))) =
          (negative, whole ++ (pointed fraction ++ tail)) := by
        refine splitSign_append hsign fun c hc => ?_
        cases whole with
        | cons d ds => exact .inl (hwhole c (by simp_all))
        | nil =>
          cases fraction with
          | none => exact absurd rfl hne
          | some digits => exact .inr (by simpa [pointed, eq_comm] using hc)
      simp only [splitDecimal, hsplit, takeWhile_isDigit hwhole hstop,
        dropWhile_isDigit hwhole hstop, splitFraction_pointed hfraction htail,
        splitExponent_eq_some_iff.mpr hexponent]
      rw [if_neg (by simpa using hne), Option.map_some]

/-! ## Bases -/

/-- The letters that announce a base behind a zero. -/
def bases : List (Char × Nat) :=
  [('x', 16), ('X', 16), ('o', 8), ('O', 8), ('b', 2), ('B', 2)]

theorem splitRadix_eq_some_iff {text digits : List Char} {base : Nat} :
    splitRadix text = some (base, digits) ↔
      ∃ c, (c, base) ∈ bases ∧ text = '0' :: c :: digits := by
  simp only [bases, List.mem_cons, List.not_mem_nil, or_false, Prod.mk.injEq]
  constructor
  · intro h
    unfold splitRadix at h
    split at h
    · rename_i c rest
      split_ifs at h with hx ho hb <;> cases h
      · exact ⟨c, by obtain rfl | rfl := hx <;> simp, rfl⟩
      · exact ⟨c, by obtain rfl | rfl := ho <;> simp, rfl⟩
      · exact ⟨c, by obtain rfl | rfl := hb <;> simp, rfl⟩
    · cases h
  · rintro ⟨c, hc, rfl⟩
    obtain ⟨rfl, rfl⟩ | ⟨rfl, rfl⟩ | ⟨rfl, rfl⟩ | ⟨rfl, rfl⟩ | ⟨rfl, rfl⟩ | ⟨rfl, rfl⟩ := hc <;> rfl

end Weblog.Number
