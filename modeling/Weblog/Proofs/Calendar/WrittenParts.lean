import Mathlib.Tactic.Common
import Weblog.Proofs.Calendar.Beginnings
/-!
# Reading written parts

What is written in full is read back, whatever follows it: a number at its full width, then a part
of a layout that begins with it, then the date and the minutes that all layouts share.

* `isFixed_padded`, `isShort_padded`: how numbers are written; `IsFixed.number`: **they are read
  back**.
* `read_year` to `read_literal`: the parts of a layout.
* `scan_dateLayout`, `scan_minuteLayout`: the pieces that all layouts share.
-/

namespace Weblog.Calendar

open Text Number

/-! ## Padded numbers -/

theorem isDigit_padded {width n : Nat} : ∀ c ∈ Date.padded width n, c.isDigit = true := by
  intro c hc
  simp only [Date.padded, List.mem_append, List.mem_replicate] at hc
  obtain ⟨-, rfl⟩ | hc := hc
  · rfl
  · exact isDigit_of_mem_toDigits c hc

theorem padded_ne_nil (width n : Nat) : Date.padded width n ≠ [] := by simp [Date.padded]

theorem isFixed_padded {width n : Nat} (hwidth : 0 < width) (h : n < 10 ^ width) :
    IsFixed width (Date.padded width n) n := by
  have hlength := (Nat.length_toDigits_le_iff (by decide) hwidth).mpr h
  constructor
  · simp only [Date.padded, List.length_append, List.length_replicate]
    omega
  · refine isNatural_ten_iff.mpr ⟨padded_ne_nil width n, isDigit_padded, ?_⟩
    rw [Date.padded, decimalValue_zeros_append, decimalValue_toDigits]

theorem isShort_padded {n : Nat} (h : n < 100) {digits : List Char}
    (hdigits : digits = Date.padded 1 n ∨ digits = Date.padded 2 n) : IsShort digits n := by
  have htwo : IsFixed 2 (Date.padded 2 n) n := isFixed_padded Nat.two_pos h
  obtain rfl | rfl := hdigits
  · obtain hn | hn := Nat.lt_or_ge n 10
    · exact .inl (isFixed_padded Nat.one_pos hn)
    · have hlength := (Nat.length_toDigits_le_iff (b := 10) (n := n) (k := 1) (by decide)
        (by decide)).not.mpr (by omega)
      have hzeros : 1 - (Nat.toDigits 10 n).length = 2 - (Nat.toDigits 10 n).length := by omega
      rw [Date.padded, hzeros]
      exact .inr htwo
  · exact .inr htwo

namespace IsFixed

variable {width n : Nat} {digits : List Char}

theorem value (h : IsFixed width digits n) : decimalValue digits = n :=
  (isNatural_ten_iff.mp h.2).2.2.symm

theorem exists_cons (h : IsFixed width digits n) :
    ∃ d ds, digits = d :: ds ∧ d.isDigit = true := by
  obtain ⟨d, ds, rfl⟩ := List.exists_cons_of_ne_nil (isNatural_ten_iff.mp h.2).1
  exact ⟨d, ds, rfl, h.isDigit d List.mem_cons_self⟩

theorem trimStart_append (h : IsFixed width digits n) (rest : List Char) :
    trimStart (digits ++ rest) = digits ++ rest := by
  obtain ⟨d, ds, rfl, hd⟩ := h.exists_cons
  exact trimStart_eq_self (not_isBlank hd)

theorem number (h : IsFixed width digits n) {least : Nat} (hleast : least ≤ width)
    (rest : List Char) : Scan.number least width (digits ++ rest) = some (n, rest) := by
  have htake : ((digits ++ rest).take width).takeWhile Char.isDigit = digits := by
    rw [List.take_left' h.1, List.takeWhile_eq_self_iff.mpr h.isDigit]
  simp only [Scan.number, htake, h.1, h.value, List.drop_left' h.1]
  rw [if_neg (Nat.not_lt.mpr hleast)]

theorem number_self (h : IsFixed width digits n) :
    Scan.number width width digits = some (n, []) := by
  have hnumber := h.number le_rfl []
  rwa [List.append_nil] at hnumber

end IsFixed

/-! ## Parts -/

theorem Scan.bind_eq {α β : Type} (x : Scan α) (f : α → Scan β) (s : List Char) :
    (x >>= f) s = (x s).bind fun p => f p.1 p.2 := rfl

theorem Scan.bind_of_eq {α β : Type} {x : Scan α} {s rest : List Char} {a : α}
    (h : x s = some (a, rest)) (f : α → Scan β) : (x >>= f) s = f a rest := by
  rw [Scan.bind_eq, h, Option.bind_some]

theorem Scan.pure_eq {α : Type} (a : α) (s : List Char) : (pure a : Scan α) s = some (a, s) := rfl

theorem Scan.literal_self (c : Char) (rest : List Char) :
    Scan.literal c (c :: rest) = some ((), rest) := if_pos rfl

theorem Scan.literal_eq (c d : Char) (rest : List Char) :
    Scan.literal c (d :: rest) = if d = c then some ((), rest) else none := rfl

section Parts

variable {digits : List Char} {n : Nat}

theorem shortNumber_eq (h : IsFixed 2 digits n) (rest : List Char) :
    Part.shortNumber (digits ++ rest) = some (n, rest) := by
  simp only [Part.shortNumber, Scan.bind_eq, Scan.blanks, h.trimStart_append, Option.bind_some,
    h.number (by decide : 1 ≤ 2)]

theorem yearNumber_eq (h : IsFixed 4 digits n) (rest : List Char) :
    Part.yearNumber (digits ++ rest) = some ((n : Int), rest) := by
  obtain ⟨d, ds, rfl, hd⟩ := h.exists_cons
  have hsome : (do let n ← Scan.number 1 4; pure (n : Int) : Scan Int) (d :: ds ++ rest) =
      some ((n : Int), rest) := by
    rw [Scan.bind_eq, h.number (by decide : 1 ≤ 4)]
    rfl
  have hget : ∀ (f : List Char → Scan Int) s, (get >>= f) s = f s s := fun _ _ => rfl
  rw [Part.yearNumber, Scan.bind_eq, Scan.blanks, h.trimStart_append, Option.bind_some, hget]
  generalize hs : d :: ds ++ rest = s at hsome
  dsimp only
  -- a digit is neither sign
  split
  · cases (List.cons.inj hs).1
    cases hd
  · cases (List.cons.inj hs).1
    cases hd
  · exact hsome

theorem optionalFraction_eq (h : IsFixed 3 digits n) {rest : List Char}
    (hrest : ∀ c, rest.head? = some c → c.isDigit = false) :
    Scan.optionalFraction ('.' :: (digits ++ rest)) = some (n * 1000000, rest) := by
  have htake : ((digits ++ rest).take 9).takeWhile Char.isDigit = digits := by
    rw [List.take_append, List.take_of_length_le (h.1.trans_le (by decide)), h.1]
    refine takeWhile_isDigit h.isDigit fun c hc => hrest c ?_
    rwa [List.head?_take, if_neg (by decide)] at hc
  have hne : digits.isEmpty = false := by
    obtain ⟨d, ds, rfl, -⟩ := h.exists_cons
    rfl
  simp only [Scan.optionalFraction, Scan.fraction, htake, hne, h.1, h.value,
    dropWhile_isDigit h.isDigit hrest]
  rfl

theorem optionalFraction_of_head? {rest : List Char} (h : rest.head? ≠ some '.') :
    Scan.optionalFraction rest = some (0, rest) := by
  unfold Scan.optionalFraction
  split
  · exact absurd rfl h
  · rfl

variable (t : Timestamp) (rest : List Char)

theorem read_year (h : IsFixed 4 digits n) : Part.read t .year (digits ++ rest) =
    some ({ t with date := { t.date with year := n } }, rest) := by
  rw [Part.read, Scan.bind_eq, yearNumber_eq h]
  rfl

theorem read_month (h : IsFixed 2 digits n) : Part.read t .month (digits ++ rest) =
    some ({ t with date := { t.date with month := n } }, rest) := by
  rw [Part.read, Scan.bind_eq, shortNumber_eq h]
  rfl

theorem read_day (h : IsFixed 2 digits n) : Part.read t .day (digits ++ rest) =
    some ({ t with date := { t.date with day := n } }, rest) := by
  rw [Part.read, Scan.bind_eq, shortNumber_eq h]
  rfl

theorem read_hour (h : IsFixed 2 digits n) : Part.read t .hour (digits ++ rest) =
    some ({ t with hour := n }, rest) := by
  rw [Part.read, Scan.bind_eq, shortNumber_eq h]
  rfl

theorem read_minute (h : IsFixed 2 digits n) : Part.read t .minute (digits ++ rest) =
    some ({ t with minute := n }, rest) := by
  rw [Part.read, Scan.bind_eq, shortNumber_eq h]
  rfl

theorem read_second (h : IsFixed 2 digits n) : Part.read t .second (digits ++ rest) =
    some ({ t with second := n }, rest) := by
  rw [Part.read, Scan.bind_eq, shortNumber_eq h]
  rfl

theorem read_fraction {s : List Char} (h : Scan.optionalFraction s = some (n, rest)) :
    Part.read t .fraction s = some ({ t with nanosecond := n }, rest) := by
  rw [Part.read, Scan.bind_eq, h]
  rfl

theorem read_literal (c d : Char) : Part.read t (.literal c) (d :: rest) =
    if d = c then some (t, rest) else none := by
  rw [Part.read, Scan.bind_eq, Scan.literal_eq]
  split_ifs <;> rfl

end Parts

/-! ## Layouts in pieces -/

namespace Layout

theorem scan_nil (t : Timestamp) (s : List Char) : scan [] t s = some (t, s) := rfl

theorem scan_cons (part : Part) (layout : Layout) (t : Timestamp) (s : List Char) :
    scan (part :: layout) t s = (part.read t s).bind fun p => scan layout p.1 p.2 := by
  rw [scan, List.foldlM_cons]
  rfl

theorem scan_append (layout layout' : Layout) (t : Timestamp) (s : List Char) :
    scan (layout ++ layout') t s = (scan layout t s).bind fun p => scan layout' p.1 p.2 := by
  rw [scan, List.foldlM_append]
  rfl

end Layout

section Pieces

variable {year month day hour minute second : List Char} {y mo d h mi s : Nat} (t : Timestamp)
  (rest : List Char)

theorem scan_dateLayout (hy : IsFixed 4 year y) (hmo : IsFixed 2 month mo)
    (hd : IsFixed 2 day d) :
    dateLayout.scan t (year ++ '-' :: (month ++ '-' :: (day ++ rest))) =
      some ({ t with date := ⟨y, mo, d⟩ }, rest) := by
  simp [dateLayout, Layout.scan_cons, Layout.scan_nil, read_year t _ hy, read_month _ _ hmo,
    read_day _ _ hd, read_literal]

theorem scan_minuteLayout (hh : IsFixed 2 hour h) (hmi : IsFixed 2 minute mi) :
    minuteLayout.scan t (hour ++ ':' :: (minute ++ rest)) =
      some ({ t with hour := h, minute := mi }, rest) := by
  simp [minuteLayout, Layout.scan_cons, Layout.scan_nil, read_hour t _ hh, read_minute _ _ hmi,
    read_literal]

end Pieces

end Weblog.Calendar
