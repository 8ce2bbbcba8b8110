import Mathlib.Tactic.Common
import Weblog.Proofs.Number.Rounding
import Weblog.Proofs.Number.Written
import Weblog.Query.Comparison
/-!
# Comparisons are coherent

A comparison sees a value through its text: numbers are written such that they are read back. So
its operands are two texts, which change places together with the operators, and since no operand
is without an order, the operators complement each other.

* `Operands.of_text`: the operands of a value and of its text differ in zero's sign at most.
* **`compare_through_text`**: a value compares as its text does.
* `Operands.exists_order`: **two operands always have an order**.
* `Operator.flip`, `Operands.swap`: operators and operands that change places;
  `Operands.satisfy_swap`: **they do so together**.
* `IsCoherent`: how the operators fit together; **`compare_coherent`**: they always do.
-/

namespace Weblog

open Number Calendar

/-! ## Zeros -/

namespace Number

theorem order_plusZero (x y : Binary64) : (plusZero x).order y = x.order y := by
  unfold plusZero
  split_ifs with hzero
  · cases x with
    | nan => cases hzero
    | signed negative rank =>
      have hrank : rank.val = 0 := beq_iff_eq.mp hzero
      have hplace : Binary64.signedRank negative rank.val = 0 := by
        rw [hrank]
        cases negative <;> rfl
      cases y with
      | nan => rfl
      | signed negative' rank' =>
        simp only [Binary64.order, hplace]
        rfl
  · rfl

end Number

namespace Query

/-! ## Values and their texts -/

theorem text_string (s : String) : (Value.string s).text = s := String.ofList_toList

namespace Operands

theorem readNumber_text (v : Value) :
    readNumber v.text = numberOf v ∨ readNumber v.text = (numberOf v).map plusZero := by
  cases v with
  | number x =>
    by_cases hfinite : x.isFinite = true
    · right
      rw [numberOf, if_pos hfinite]
      exact readNumber_numberText hfinite
    · left
      rw [numberOf, if_neg hfinite]
  | absent | null | bool b | string s | sequence items => exact .inl rfl

theorem numberOf_string (s : String) : numberOf (.string s) = readNumber s :=
  congrArg readNumber (text_string s)

/-- The operands of two texts with the numbers that are taken for theirs. -/
def ofNumbers (a b : Option Binary64) (s t : String) : Operands :=
  match a, b with
  | some x, some y => numbers x y
  | _, _ =>
    match readInstant s, readInstant t with
    | some i, some j => instants i j
    | _, _ => texts s t

theorem of_eq (v : Value) (literal : String) :
    of v literal = ofNumbers (numberOf v) (readNumber literal) v.text literal := by
  unfold of ofNumbers
  generalize readInstant v.text = i, readInstant literal = j
  cases numberOf v <;> cases readNumber literal <;> cases i <;> cases j <;> rfl

theorem of_string (s literal : String) :
    of (.string s) literal = ofNumbers (readNumber s) (readNumber literal) s literal := by
  rw [of_eq, numberOf_string, text_string]

/-- **The operands of a value and of its text** differ in zero's sign at most. -/
theorem of_text (v : Value) (literal : String) : of (.string v.text) literal = of v literal ∨
    ∃ x y, of v literal = numbers x y ∧ of (.string v.text) literal = numbers (plusZero x) y := by
  rw [of_string, of_eq]
  obtain hsame | hzero := readNumber_text v
  · rw [hsame]
    exact .inl rfl
  · rw [hzero]
    cases numberOf v with
    | none => exact .inl rfl
    | some x =>
      cases readNumber literal with
      | none => exact .inl rfl
      | some y => exact .inr ⟨x, y, rfl, rfl⟩

theorem satisfy_of_text (v : Value) (literal : String) (op : Operator) :
    (of (.string v.text) literal).satisfy op = (of v literal).satisfy op := by
  obtain hsame | ⟨x, y, hvalue, htext⟩ := of_text v literal
  · rw [hsame]
  · rw [hvalue, htext]
    cases op <;> simp only [satisfy, areEqual, order, order_plusZero]

theorem domain_of_text (v : Value) (literal : String) :
    (of (.string v.text) literal).domain = (of v literal).domain := by
  obtain hsame | ⟨x, y, hvalue, htext⟩ := of_text v literal
  · rw [hsame]
  · rw [hvalue, htext]
    rfl

end Operands

theorem compare_string (s literal : String) (op : Operator) :
    compare (.string s) literal op = (Operands.of (.string s) literal).satisfy op :=
  Bool.true_and _

theorem compare_string_text {v : Value} (hv : v.isAbsent = false) (literal : String)
    (op : Operator) : compare v literal op = compare (.string v.text) literal op := by
  rw [compare_string, Operands.satisfy_of_text, compare, hv]
  exact Bool.true_and _

/-- **A value compares as its text does**, and in the same domain; a finite number is read back
from its text. -/
theorem compare_through_text {v : Value} (hv : v.isAbsent = false) (literal : String)
    (op : Operator) :
    compare v literal op = compare (.string v.text) literal op ∧
      domain v literal = domain (.string v.text) literal ∧
      ∀ x : Binary64, x.isFinite = true →
        ∃ y, readNumber (Value.number x).text = some y ∧ y.order x = some .eq := by
  refine ⟨compare_string_text hv literal op, ?_, fun x hfinite => ?_⟩
  · rw [domain, domain, Operands.domain_of_text, hv]
    rfl
  · obtain ⟨place, hplace⟩ := exists_placeOf_of_isFinite hfinite
    refine ⟨plusZero x, readNumber_numberText hfinite, ?_⟩
    rw [order_plusZero, order_of_places hplace hplace, Int.compare_eq_eq.mpr rfl]

/-- Minus zero, which is written as zero is, and a number that is written with an exponent. -/
theorem compare_through_text_zero :
    (Value.number (.neg .zero)).isAbsent = false ∧ (Binary64.ofNat (10 ^ 21)).isFinite = true ∧
      (Value.number (.neg .zero)).text = "0" ∧
      compare (.number (.neg .zero)) "-0" .equal =
        compare (.string (Value.number (.neg .zero)).text) "-0" .equal ∧
      domain (.number (.neg .zero)) "-0" =
        domain (.string (Value.number (.neg .zero)).text) "-0" ∧
      (Value.number (.ofNat (10 ^ 21))).text = "1e+21" ∧
      ∃ y, readNumber (Value.number (.ofNat (10 ^ 21))).text = some y ∧
        y.order (.ofNat (10 ^ 21)) = some .eq := by
  have hzero : (Value.number (.neg .zero)).isAbsent = false := rfl
  have hfinite : (Binary64.ofNat (10 ^ 21)).isFinite = true := by decide +kernel
  obtain ⟨hcompare, hdomain, hread⟩ := compare_through_text hzero "-0" .equal
  exact ⟨hzero, hfinite, by decide +kernel, hcompare, hdomain, by decide +kernel, hread _ hfinite⟩

/-! ## Operands always have an order -/

namespace Operands

theorem isFinite_of_numberOf {v : Value} {x : Binary64} (h : numberOf v = some x) :
    x.isFinite = true := by
  cases v with
  | number y =>
    rw [numberOf] at h
    split_ifs at h with hfinite
    · cases h
      exact hfinite
    · exact isFinite_of_readNumber h
  | absent | null | bool b | string s | sequence items => exact isFinite_of_readNumber h

/-- **Two operands always have an order**, because numbers among them are finite. -/
theorem exists_order (v : Value) (literal : String) : ∃ o, (of v literal).order = some o := by
  rw [of_eq]
  unfold ofNumbers
  split
  case h_1 x y hx hy =>
    obtain ⟨a, ha⟩ := exists_placeOf_of_isFinite (isFinite_of_numberOf hx)
    obtain ⟨b, hb⟩ := exists_placeOf_readNumber hy
    exact ⟨_, order_of_places ha hb⟩
  case h_2 => split <;> exact ⟨_, rfl⟩

end Operands

end Query

/-! ## Operands that change places -/

/-- The operator for operands that have changed places. -/
def Operator.flip : Operator → Operator
  | equal => equal
  | greater => less
  | atLeast => atMost
  | less => greater
  | atMost => atLeast

/-- The one of less, equal and greater that an order satisfies. -/
def Operator.ofOrdering : Ordering → Operator
  | .lt => less
  | .eq => equal
  | .gt => greater

namespace Query

namespace Operands

def swap : Operands → Operands
  | numbers a b => numbers b a
  | instants a b => instants b a
  | texts a b => texts b a

theorem order_swap (operands : Operands) :
    operands.swap.order = operands.order.map Ordering.swap := by
  cases operands with
  | numbers x y =>
    cases x with
    | nan => cases y <;> rfl
    | signed negative rank =>
      cases y with
      | nan => rfl
      | signed negative' rank' => exact congrArg some Std.OrientedCmp.eq_swap
  | instants i j => exact congrArg some Std.OrientedCmp.eq_swap
  | texts s t => exact congrArg some Std.OrientedCmp.eq_swap

theorem areEqual_swap (operands : Operands) : operands.swap.areEqual = operands.areEqual := by
  have horder : (operands.swap.order == some .eq) = (operands.order == some .eq) := by
    rw [order_swap]
    cases operands.order with
    | none => rfl
    | some o => cases o <;> rfl
  cases operands with
  | numbers x y => exact horder
  | instants i j => exact horder
  | texts s t => exact Bool.beq_comm

/-- **Operands and operators change places together.** -/
theorem satisfy_swap (operands : Operands) (op : Operator) :
    operands.swap.satisfy op = operands.satisfy op.flip := by
  cases op with
  | equal => exact areEqual_swap operands
  | greater | atLeast | less | atMost =>
    simp only [satisfy, order_swap, Operator.flip, Option.any_map]
    cases operands.order with
    | none => rfl
    | some o => cases o <;> rfl

theorem of_swap (s t : String) : of (.string t) s = (of (.string s) t).swap := by
  rw [of_string, of_string]
  unfold ofNumbers
  cases readNumber s <;> cases readNumber t <;> cases readInstant s <;> cases readInstant t <;> rfl

theorem order_of_self (s : String) : (of (.string s) s).order = some .eq := by
  obtain ⟨o, ho⟩ := exists_order (.string s) s
  have hswap := order_swap (of (.string s) s)
  rw [← of_swap, ho, Option.map_some] at hswap
  cases o with
  | eq => exact ho
  | lt | gt => cases hswap

/-! ## Equality and order -/

theorem satisfy_equal {operands : Operands} (h : operands.order = some .eq) :
    operands.satisfy .equal = true := by
  cases operands with
  | numbers x y => exact beq_iff_eq.mpr h
  | instants i j => exact beq_iff_eq.mpr h
  | texts s t =>
    obtain rfl : s = t := Std.LawfulEqCmp.compare_eq_iff_eq.mp (Option.some.inj h)
    exact beq_self_eq_true (Text.lower s)

theorem areEqual_eq_order {operands : Operands} (h : operands.domain ≠ .textual) :
    operands.areEqual = (operands.order == some .eq) := by
  cases operands with
  | numbers x y => rfl
  | instants i j => rfl
  | texts s t => exact absurd rfl h

/-- **One of less, equal and greater holds**: the one of the order. -/
theorem satisfy_iff_eq_ofOrdering {operands : Operands} (hd : operands.domain ≠ .textual)
    {o : Ordering} (ho : operands.order = some o) (op : Operator)
    (hop : op ∈ [Operator.less, .equal, .greater]) :
    operands.satisfy op = true ↔ op = .ofOrdering o := by
  have hequal : operands.areEqual = (o == .eq) := by
    rw [areEqual_eq_order hd, ho]
    rfl
  cases op with
  | atLeast | atMost => exact absurd hop (by decide)
  | less | greater =>
    simp only [satisfy, ho, Option.any_some]
    cases o <;> decide
  | equal =>
    rw [satisfy, hequal]
    cases o <;> decide

theorem of_eq_texts {v : Value} {literal : String} (h : (of v literal).domain = .textual) :
    of v literal = texts v.text literal := by
  revert h
  rw [of_eq]
  unfold ofNumbers
  split
  · exact fun h => nomatch h
  · split
    · exact fun h => nomatch h
    · exact fun _ => rfl

end Operands

/-! ## Coherence -/

/-- Whether the operators fit together when a value is compared with a literal. -/
structure IsCoherent (v : Value) (literal : String) : Prop where
  atLeast : compare v literal .atLeast = !compare v literal .less
  atMost : compare v literal .atMost = !compare v literal .greater
  notBoth : ¬(compare v literal .greater = true ∧ compare v literal .less = true)
  equal : compare v literal .atLeast = true → compare v literal .atMost = true →
    compare v literal .equal = true
  exactlyOne : domain v literal = some .numeric ∨ domain v literal = some .temporal →
    ∃! op, op ∈ [Operator.less, .equal, .greater] ∧ compare v literal op = true
  textual : domain v literal = some .textual →
    (compare v literal .atLeast = true ∧ compare v literal .atMost = true ↔ v.text = literal) ∧
      (compare v literal .equal = true ↔ Text.lower v.text = Text.lower literal)

section Coherence

variable {v : Value} (hv : v.isAbsent = false) (literal : String)

include hv

theorem compare_eq_satisfy (op : Operator) :
    compare v literal op = (Operands.of v literal).satisfy op := by
  rw [compare, hv]
  rfl

theorem domain_eq : domain v literal = some (Operands.of v literal).domain := by
  rw [domain, hv]
  rfl

variable {literal}

theorem exactlyOne_of_domain {d : Domain} (hd : domain v literal = some d) (h : d ≠ .textual) :
    ∃! op, op ∈ [Operator.less, .equal, .greater] ∧ compare v literal op = true := by
  obtain ⟨o, ho⟩ := Operands.exists_order v literal
  rw [domain_eq hv, Option.some_inj] at hd
  have hsatisfy := Operands.satisfy_iff_eq_ofOrdering (hd ▸ h) ho
  simp only [compare_eq_satisfy hv]
  refine ⟨.ofOrdering o, ⟨?_, (hsatisfy _ ?_).mpr rfl⟩, fun op hop => (hsatisfy op hop.1).mp hop.2⟩
  all_goals cases o <;> decide

theorem textual_of_domain (hd : domain v literal = some .textual) :
    (compare v literal .atLeast = true ∧ compare v literal .atMost = true ↔ v.text = literal) ∧
      (compare v literal .equal = true ↔ Text.lower v.text = Text.lower literal) := by
  rw [domain_eq hv, Option.some_inj] at hd
  simp only [compare_eq_satisfy hv, Operands.of_eq_texts hd]
  have hsame : Ord.compare v.text literal = .eq ↔ v.text = literal :=
    Std.LawfulEqCmp.compare_eq_iff_eq
  refine ⟨?_, beq_iff_eq⟩
  rw [← hsame]
  simp only [Operands.satisfy, Operands.order, Option.any_some]
  cases Ord.compare v.text literal <;> decide

/-- **The operators fit together** whatever a value is compared with. -/
theorem isCoherent : IsCoherent v literal := by
  obtain ⟨o, ho⟩ := Operands.exists_order v literal
  constructor
  case atLeast | atMost | notBoth =>
    simp only [compare_eq_satisfy hv, Operands.satisfy, ho, Option.any_some]
    cases o <;> decide
  case equal =>
    intro hge hle
    simp only [compare_eq_satisfy hv, Operands.satisfy, ho, Option.any_some] at hge hle
    cases o with
    | lt => cases hge
    | gt => cases hle
    | eq =>
      rw [compare_eq_satisfy hv]
      exact Operands.satisfy_equal ho
  case exactlyOne =>
    rintro (hd | hd)
    · exact exactlyOne_of_domain hv hd nofun
    · exact exactlyOne_of_domain hv hd nofun
  case textual => exact textual_of_domain hv

end Coherence

/-- **The operators fit together**, the operands change places with the operators, and a value
equals its text. -/
theorem compare_coherent {v : Value} (hv : v.isAbsent = false) :
    (∀ literal, IsCoherent v literal) ∧
      (∀ w : Value, w.isAbsent = false → ∀ op,
        compare v w.text op = compare w v.text op.flip) ∧
      compare v v.text .equal = true := by
  refine ⟨fun _ => isCoherent hv, fun w hw op => ?_, ?_⟩
  · calc compare v w.text op = (Operands.of (.string v.text) w.text).satisfy op := by
          rw [compare_string_text hv, compare_string]
      _ = (Operands.of (.string w.text) v.text).swap.satisfy op := by rw [← Operands.of_swap]
      _ = (Operands.of (.string w.text) v.text).satisfy op.flip := Operands.satisfy_swap _ op
      _ = compare w v.text op.flip := by rw [compare_string_text hw, compare_string]
  · rw [compare_string_text hv, compare_string]
    exact Operands.satisfy_equal (Operands.order_of_self v.text)

/-- A number that is written in another way, and texts that differ in letter case. -/
theorem compare_coherent_case :
    (Value.number (.ofNat 1000)).isAbsent = false ∧ (Value.string "Rust").isAbsent = false ∧
      domain (.number (.ofNat 1000)) "1e3" = some .numeric ∧
      IsCoherent (.number (.ofNat 1000)) "1e3" ∧
      domain (.string "Rust") "rust" = some .textual ∧ IsCoherent (.string "Rust") "rust" ∧
      compare (.string "Rust") "rust" .equal = true ∧
      compare (.string "Rust") "rust" .less = true ∧
      compare (.number (.ofNat 1000)) (Value.string "Rust").text .less =
        compare (.string "Rust") (Value.number (.ofNat 1000)).text .greater ∧
      compare (.string "Rust") (Value.string "Rust").text .equal = true := by
  have hnumber : (Value.number (.ofNat 1000)).isAbsent = false := rfl
  have hstring : (Value.string "Rust").isAbsent = false := rfl
  have hn := compare_coherent hnumber
  have hs := compare_coherent hstring
  exact ⟨hnumber, hstring, by decide +kernel, hn.1 "1e3", by decide +kernel, hs.1 "rust",
    by decide +kernel, by decide +kernel, hn.2.1 _ hstring .less, hs.2.2⟩

end Query

end Weblog
