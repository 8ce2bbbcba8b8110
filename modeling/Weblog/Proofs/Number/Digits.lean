import Mathlib.Data.List.TakeWhile
import Mathlib.Tactic.Common
import Weblog.Number.Decimal
import Weblog.Number.Numeral
/-!
# Decimal digits

* `decimalValue_toDigits`: decimal digits denote the number that they are made from.
* `decimalValue_append_zeros`, `decimalValue_zeros_append`: zeros behind digits and in front of
  them.
* `takeWhile_isDigit`, `dropWhile_isDigit`: digits end where something else follows.
-/

namespace Weblog.Number

/-! ## Values -/

theorem ofDigits_eq_ofDigitChars (digits : List Char) : ∀ init : Nat,
    (digits.map fun c => c.toNat - '0'.toNat).foldl (fun n d => n * 10 + d) init =
      Nat.ofDigitChars 10 digits init := by
  induction digits with
  | nil => intro init; rfl
  | cons c cs ih =>
    intro init
    rw [List.map_cons, List.foldl_cons, ih, Nat.ofDigitChars_cons, Nat.mul_comm]

theorem decimalValue_eq (digits : List Char) :
    decimalValue digits = Nat.ofDigitChars 10 digits 0 := by
  rw [decimalValue, ofDigits, ofDigits_eq_ofDigitChars]

theorem decimalValue_toDigits (n : Nat) : decimalValue (Nat.toDigits 10 n) = n := by
  rw [decimalValue_eq, Nat.ofDigitChars_ten_toDigits]

theorem decimalValue_append_zeros (digits : List Char) (k : Nat) :
    decimalValue (digits ++ List.replicate k '0') = decimalValue digits * tenTo k := by
  rw [decimalValue_eq, decimalValue_eq, Nat.ofDigitChars_append, Nat.ofDigitChars_replicate_zero,
    Nat.mul_comm]
  rfl

theorem decimalValue_zeros_append (k : Nat) (digits : List Char) :
    decimalValue (List.replicate k '0' ++ digits) = decimalValue digits := by
  rw [decimalValue_eq, decimalValue_eq, Nat.ofDigitChars_append, Nat.ofDigitChars_replicate_zero,
    Nat.mul_zero]

/-! ## Digits of a number -/

theorem isDigit_of_mem_toDigits {n : Nat} : ∀ c ∈ Nat.toDigits 10 n, c.isDigit = true :=
  fun _ hc => Nat.isDigit_of_mem_toDigits (by decide) (by decide) hc

theorem head?_toDigits {n : Nat} (hn : 0 < n) : (Nat.toDigits 10 n).head? ≠ some '0' := by
  induction n using Nat.strong_induction_on with
  | _ n ih =>
    by_cases hlt : n < 10
    · rw [Nat.toDigits_of_lt_base hlt, List.head?_cons]
      intro h
      have : ∀ m < 10, 0 < m → Nat.digitChar m ≠ '0' := by decide
      exact this n hlt hn (Option.some.inj h)
    · rw [Nat.toDigits_of_base_le (by decide) (by omega), List.head?_append]
      have hprev := ih (n / 10) (by omega) (by omega)
      cases h : (Nat.toDigits 10 (n / 10)).head? with
      | none => exact absurd (List.head?_eq_none_iff.mp h) Nat.toDigits_ne_nil
      | some c => rw [h] at hprev; simpa using hprev

/-! ## Where digits end -/

section Ends

variable {digits rest : List Char} (hdigits : ∀ c ∈ digits, c.isDigit = true)
  (hrest : ∀ c, rest.head? = some c → c.isDigit = false)

include hdigits hrest

theorem takeWhile_isDigit : (digits ++ rest).takeWhile Char.isDigit = digits := by
  have hstop : rest.takeWhile Char.isDigit = [] := by
    cases rest with
    | nil => rfl
    | cons c cs => simp [hrest c rfl]
  rw [List.takeWhile_append_of_pos hdigits, hstop, List.append_nil]

theorem dropWhile_isDigit : (digits ++ rest).dropWhile Char.isDigit = rest := by
  rw [List.dropWhile_append_of_pos hdigits]
  cases rest with
  | nil => rfl
  | cons c cs => simp [hrest c rfl]

end Ends

end Weblog.Number
