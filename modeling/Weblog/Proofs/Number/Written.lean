import Weblog.Proofs.Calendar.Beginnings
import Weblog.Proofs.Number.Digits
import Weblog.Proofs.Number.Exact
import Weblog.Proofs.Number.Numerals
import Weblog.Query.Value
/-!
# Written numbers

The text of a number is a numeral with the value of the decimal that is written, whether it is
written positionally or with an exponent. Since the shortest decimal is read back as the number,
so is its text.

* `isNumeralChar`: the characters of numerals; `readNumber_of_numeral`: a text of them is read as
  a decimal numeral.
* `IsNumeralOf`: whether a text is a numeral with the value of a decimal.
* `Layout.isNumeralOf_text`: **every layout writes numerals of the decimals**.
* **`readNumber_numberText`**: a finite number is read back from its text, minus zero as zero.
-/

namespace Weblog.Number

open Text

/-! ## Numerals -/

/-- The characters of decimal numerals. -/
def isNumeralChar (c : Char) : Bool :=
  c.isDigit || ['.', 'e', '+', '-'].contains c

theorem isNumeralChar_of_isDigit {c : Char} (h : c.isDigit = true) : isNumeralChar c = true := by
  rw [isNumeralChar, h, Bool.true_or]

theorem not_isBlank_of_isNumeralChar {c : Char} (h : isNumeralChar c = true) :
    isBlank c = false := by
  rw [isNumeralChar, Bool.or_eq_true, List.contains_iff_mem] at h
  simp only [List.mem_cons, List.not_mem_nil, or_false] at h
  obtain hdigit | rfl | rfl | rfl | rfl := h
  · exact Calendar.not_isBlank hdigit
  all_goals decide

theorem splitRadix_eq_none {text : List Char} (h : ∀ c ∈ text, isNumeralChar c = true) :
    splitRadix text = none := by
  by_contra hsome
  obtain ⟨⟨base, digits⟩, hsplit⟩ := Option.ne_none_iff_exists'.mp hsome
  obtain ⟨c, hc, rfl⟩ := splitRadix_eq_some_iff.mp hsplit
  have hletters : ∀ p ∈ bases, isNumeralChar p.1 = false := by decide
  have hchar := h c (by simp)
  simp [hletters _ hc] at hchar

theorem readNumber_of_numeral {text : List Char} (h : ∀ c ∈ text, isNumeralChar c = true) :
    readNumber (String.ofList text) =
      ((splitDecimal text).map fun p => p.2.toBinary64 p.1).filter Binary64.isFinite := by
  rw [readNumber, String.toList_ofList,
    trim_eq_self (fun c hc => not_isBlank_of_isNumeralChar (h c (List.mem_of_head? hc)))
      (fun c hc => not_isBlank_of_isNumeralChar (h c (List.mem_of_getLast? hc))),
    readTrimmed, splitRadix_eq_none h]

/-! ## Layouts -/

/-- Whether a text is a numeral with the value of a decimal, and with a minus sign in front of it
one with the negative value. -/
structure IsNumeralOf (text : List Char) (d : Decimal) : Prop where
  chars : ∀ c ∈ text, isNumeralChar c = true
  value : ∀ negative : Bool, ∃ d' : Decimal,
    splitDecimal ((if negative then ['-'] else []) ++ text) = some (negative, d') ∧ d'.SameValue d

theorem IsNumeralOf.of_sameValue {text : List Char} {d d' : Decimal} (h : IsNumeralOf text d)
    (hd : d.SameValue d') : IsNumeralOf text d' :=
  ⟨h.chars, fun negative =>
    have ⟨_, hsplit, hvalue⟩ := h.value negative
    ⟨_, hsplit, hvalue.trans hd⟩⟩

theorem isNumeralOf_parts {whole tail : List Char} {fraction : Option (List Char)} {d : Decimal}
    (hne : whole ≠ []) (hwhole : ∀ c ∈ whole, c.isDigit = true)
    (hfraction : ∀ c ∈ fraction.getD [], c.isDigit = true)
    (hmantissa : decimalValue (whole ++ fraction.getD []) = d.mantissa)
    (htail : splitExponent tail = some (d.exponent + (fraction.getD []).length))
    (htailChars : ∀ c ∈ tail, isNumeralChar c = true) :
    IsNumeralOf (whole ++ (pointed fraction ++ tail)) d := by
  refine ⟨fun c hc => ?_, fun negative => ⟨d, ?_, rfl⟩⟩
  · rw [List.mem_append, List.mem_append] at hc
    obtain hc | hc | hc := hc
    · exact isNumeralChar_of_isDigit (hwhole c hc)
    · cases fraction with
      | none => exact absurd hc List.not_mem_nil
      | some digits =>
        obtain rfl | hc := List.mem_cons.mp hc
        · decide
        · exact isNumeralChar_of_isDigit (hfraction c hc)
    · exact htailChars c hc
  · have hsign : IsSign (if negative then ['-'] else []) negative := by
      cases negative
      · exact .absent
      · exact .minus
    have hdigits : IsNatural 10 (whole ++ fraction.getD []) d.mantissa :=
      isNatural_ten_iff.mpr ⟨by simp [hne], fun c hc =>
        (List.mem_append.mp hc).elim (hwhole c) (hfraction c), hmantissa.symm⟩
    rw [splitDecimal_eq_some_iff.mpr (.mk hsign hdigits (splitExponent_eq_some_iff.mp htail)),
      Int.add_sub_cancel]

section Digits

variable {digits : List Char} {d : Decimal} (hdigits : ∀ c ∈ digits, c.isDigit = true)
  (hmantissa : decimalValue digits = d.mantissa)

include hdigits hmantissa

theorem isNumeralOf_whole {tail : List Char} (hne : digits ≠ [])
    (htail : splitExponent tail = some d.exponent)
    (htailChars : ∀ c ∈ tail, isNumeralChar c = true) : IsNumeralOf (digits ++ tail) d := by
  have hparts : IsNumeralOf (digits ++ (pointed none ++ tail)) d :=
    isNumeralOf_parts hne hdigits (by simp) (by simpa using hmantissa) (by simpa using htail)
      htailChars
  rwa [pointed, List.nil_append] at hparts

theorem isNumeralOf_withPoint {n : Nat} {tail : List Char} (hpos : 0 < n)
    (hn : n ≤ digits.length)
    (htail : splitExponent tail = some (d.exponent + (digits.length - n : Nat)))
    (htailChars : ∀ c ∈ tail, isNumeralChar c = true) :
    IsNumeralOf (withPoint digits n ++ tail) d := by
  have hne : digits.take n ≠ [] := by
    rw [← List.length_pos_iff, List.length_take]
    omega
  have hparts : IsNumeralOf (digits.take n ++ (pointed (some (digits.drop n)) ++ tail)) d :=
    isNumeralOf_parts hne (fun c hc => hdigits c (List.mem_of_mem_take hc))
      (fun c hc => hdigits c (List.mem_of_mem_drop hc)) (by simpa using hmantissa)
      (by simpa using htail) htailChars
  rwa [withPoint, List.append_assoc]

theorem isNumeralOf_zeros {k : Nat} (hexponent : d.exponent + (k + digits.length : Nat) = 0) :
    IsNumeralOf ('0' :: '.' :: List.replicate k '0' ++ digits) d := by
  have hfraction : ∀ c ∈ List.replicate k '0' ++ digits, c.isDigit = true := by
    intro c hc
    obtain hc | hc := List.mem_append.mp hc
    · rw [List.eq_of_mem_replicate hc]
      decide
    · exact hdigits c hc
  have hvalue : decimalValue (['0'] ++ (List.replicate k '0' ++ digits)) = d.mantissa := by
    rw [← List.append_assoc, ← List.replicate_one, List.replicate_append_replicate,
      decimalValue_zeros_append, hmantissa]
  have hparts : IsNumeralOf (['0'] ++ (pointed (some (List.replicate k '0' ++ digits)) ++ [])) d :=
    isNumeralOf_parts (by simp) (List.forall_mem_singleton.mpr rfl) hfraction hvalue
      (by rw [Option.getD_some, List.length_append, List.length_replicate, hexponent]; rfl)
      (by simp)
  rwa [List.append_nil] at hparts

theorem isNumeralOf_integer (keepsPoint : Bool) (hne : digits ≠ []) (hexponent : 0 ≤ d.exponent) :
    IsNumeralOf (digits ++ List.replicate d.exponent.toNat '0' ++
      if keepsPoint then ['.', '0'] else []) d := by
  have hwhole : ∀ c ∈ digits ++ List.replicate d.exponent.toNat '0', c.isDigit = true := by
    intro c hc
    obtain hc | hc := List.mem_append.mp hc
    · exact hdigits c hc
    · rw [List.eq_of_mem_replicate hc]
      decide
  have hvalue : ∀ k : Nat, Decimal.SameValue
      ⟨decimalValue (digits ++ List.replicate k '0'), d.exponent - k⟩ d := by
    intro k
    have hshift := Decimal.sameValue_shift d.mantissa k (d.exponent - k)
    rw [Int.sub_add_cancel] at hshift
    rw [decimalValue_append_zeros, hmantissa]
    exact hshift
  have hall : (d.exponent.toNat : Int) = d.exponent := Int.toNat_of_nonneg hexponent
  cases keepsPoint with
  | false =>
    refine (isNumeralOf_whole hwhole rfl (by simp [hne]) ?_ (by simp)).of_sameValue
      (hvalue d.exponent.toNat)
    rw [hall, Int.sub_self]
    rfl
  | true =>
    have hparts : IsNumeralOf (digits ++ List.replicate d.exponent.toNat '0' ++
        (pointed (some ['0']) ++ [])) ⟨decimalValue (digits ++
          List.replicate (d.exponent.toNat + 1) '0'), d.exponent - (d.exponent.toNat + 1 : Nat)⟩ :=
      isNumeralOf_parts (by simp [hne]) hwhole (List.forall_mem_singleton.mpr rfl)
        (by rw [List.replicate_succ', ← List.append_assoc, Option.getD_some])
        (by rw [Nat.cast_add, hall, Option.getD_some, ← Int.sub_sub, Int.sub_self]; rfl) (by simp)
    exact hparts.of_sameValue (hvalue (d.exponent.toNat + 1))

end Digits

/-- The text of an exponent, with a plus sign if that is asked for. -/
def exponentTail (plus : Bool) (e : Int) : List Char :=
  'e' :: ((if e < 0 then ['-'] else if plus then ['+'] else []) ++ Nat.toDigits 10 e.natAbs)

theorem isNumeralChar_of_mem_exponentTail {plus : Bool} {e : Int} :
    ∀ c ∈ exponentTail plus e, isNumeralChar c = true := by
  intro c hc
  obtain rfl | hc := List.mem_cons.mp hc
  · decide
  obtain hc | hc := List.mem_append.mp hc
  · split_ifs at hc <;> simp at hc <;> subst hc <;> decide
  · exact isNumeralChar_of_isDigit (isDigit_of_mem_toDigits c hc)

theorem splitExponent_exponentTail (plus : Bool) (e : Int) :
    splitExponent (exponentTail plus e) = some e := by
  have hsign : IsSign (if e < 0 then ['-'] else if plus then ['+'] else []) (e < 0) := by
    split_ifs with hneg hplus
    · simpa [hneg] using IsSign.minus
    · simpa [hneg] using IsSign.plus
    · simpa [hneg] using IsSign.absent
  have hdigits : IsNatural 10 (Nat.toDigits 10 e.natAbs) e.natAbs :=
    isNatural_ten_iff.mpr
      ⟨Nat.toDigits_ne_nil, isDigit_of_mem_toDigits, (decimalValue_toDigits _).symm⟩
  rw [exponentTail, splitExponent_eq_some_iff.mpr (.present (.inl rfl) hsign hdigits),
    Option.some_inj]
  simp only [decide_eq_true_eq]
  omega

theorem isNumeralOf_plainText (keepsPoint : Bool) (d : Decimal) :
    IsNumeralOf (plainText keepsPoint d) d := by
  have hdigits := isDigit_of_mem_toDigits (n := d.mantissa)
  have hmantissa := decimalValue_toDigits d.mantissa
  simp only [plainText]
  by_cases hinteger : 0 ≤ d.exponent
  · rw [if_pos hinteger]
    exact isNumeralOf_integer hdigits hmantissa keepsPoint Nat.toDigits_ne_nil hinteger
  rw [if_neg hinteger]
  split_ifs with hlead
  · rw [← List.append_nil (withPoint _ _)]
    refine isNumeralOf_withPoint hdigits hmantissa (by omega) (by omega) ?_ (by simp)
    rw [splitExponent, Option.some_inj]
    omega
  · exact isNumeralOf_zeros hdigits hmantissa (by omega)

theorem isNumeralOf_exponentText (layout : Layout) (d : Decimal) :
    IsNumeralOf
      (exponentText layout d ((Nat.toDigits 10 d.mantissa).length - 1 + d.exponent)) d := by
  have hdigits := isDigit_of_mem_toDigits (n := d.mantissa)
  have hmantissa := decimalValue_toDigits d.mantissa
  have hpos := List.length_pos_iff.mpr (Nat.toDigits_ne_nil (n := d.mantissa) (b := 10))
  have htail := splitExponent_exponentTail layout.plusSign
    ((Nat.toDigits 10 d.mantissa).length - 1 + d.exponent)
  have htext : exponentText layout d ((Nat.toDigits 10 d.mantissa).length - 1 + d.exponent) =
      (if (Nat.toDigits 10 d.mantissa).length ≤ 1 then Nat.toDigits 10 d.mantissa
        else withPoint (Nat.toDigits 10 d.mantissa) 1) ++
        exponentTail layout.plusSign ((Nat.toDigits 10 d.mantissa).length - 1 + d.exponent) := by
    simp only [exponentText, exponentTail, List.append_assoc, List.cons_append]
  rw [htext]
  split_ifs with hone
  · refine isNumeralOf_whole hdigits hmantissa Nat.toDigits_ne_nil ?_
      isNumeralChar_of_mem_exponentTail
    rw [htail]
    congr 1
    omega
  · refine isNumeralOf_withPoint hdigits hmantissa Nat.one_pos hpos ?_
      isNumeralChar_of_mem_exponentTail
    rw [htail]
    congr 1
    omega

/-- **Every layout writes numerals of the decimals.** -/
theorem Layout.isNumeralOf_text (layout : Layout) (d : Decimal) :
    IsNumeralOf (layout.text d) d := by
  simp only [Layout.text]
  by_cases hzero : d.mantissa = 0
  · have hvalue : Decimal.SameValue ⟨0, 0⟩ d := by
      simp [Decimal.SameValue, Decimal.num, hzero]
    have hinteger := isNumeralOf_integer (List.forall_mem_singleton.mpr (by decide))
      (show decimalValue ['0'] = (⟨0, 0⟩ : Decimal).mantissa from rfl) layout.keepsPoint
      (List.cons_ne_nil '0' []) (Int.le_refl 0)
    rw [if_pos hzero]
    exact hinteger.of_sameValue hvalue
  rw [if_neg hzero]
  split_ifs with hplain
  · exact isNumeralOf_plainText layout.keepsPoint d
  · exact isNumeralOf_exponentText layout d

/-! ## Numbers -/

theorem readNumber_signedText (layout : Layout) (negative : Bool) {rank : Fin (infinityRank + 1)}
    (hfinite : rank.val ≠ infinityRank) :
    readNumber (String.ofList (layout.signedText negative rank.val)) =
      some (.signed negative rank) := by
  obtain ⟨hchars, hvalue⟩ := layout.isNumeralOf_text (shortest layout.tie rank)
  obtain ⟨d, hsplit, hd⟩ := hvalue negative
  have hsigned : ∀ c ∈ layout.signedText negative rank.val, isNumeralChar c = true := by
    intro c hc
    obtain hc | hc := List.mem_append.mp hc
    · cases negative with
      | false => exact absurd hc List.not_mem_nil
      | true =>
        obtain rfl := List.mem_singleton.mp hc
        decide
    · exact hchars c hc
  have hnumber : d.toBinary64 negative = .signed negative rank := by
    rw [hd.toBinary64, toBinary64_shortest, Binary64.ofRank]
    congr 1
    exact Fin.ext (Nat.min_eq_left (Nat.le_of_lt_succ rank.isLt))
  have hkept : (Binary64.signed negative rank).isFinite = true := bne_iff_ne.mpr hfinite
  rw [readNumber_of_numeral hsigned, Layout.signedText, hsplit, Option.map_some, hnumber,
    Option.filter_some, if_pos hkept]

/-- A number, minus zero as zero. -/
def plusZero (x : Binary64) : Binary64 := if x.isZero then .zero else x

/-- **A finite number is read back from its text**, minus zero as zero. -/
theorem readNumber_numberText {x : Binary64} (hfinite : x.isFinite = true) :
    readNumber (String.ofList (Value.numberText x)) = some (plusZero x) := by
  cases x with
  | nan => cases hfinite
  | signed negative rank =>
    have hrank : rank.val ≠ infinityRank := bne_iff_ne.mp hfinite
    by_cases hzero : rank.val = 0
    · have hread : readNumber (String.ofList ['0']) = some .zero := by decide +kernel
      rw [Value.numberText, if_pos hzero, hread, plusZero, Binary64.isZero, beq_iff_eq.mpr hzero]
      rfl
    · rw [Value.numberText, if_neg hzero, if_neg hrank, readNumber_signedText _ _ hrank,
        plusZero, Binary64.isZero, beq_eq_false_iff_ne.mpr hzero]
      rfl

end Weblog.Number
