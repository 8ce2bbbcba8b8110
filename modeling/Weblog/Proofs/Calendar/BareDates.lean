import Mathlib.Tactic.Common
import Weblog.Calendar.Instant
import Weblog.Proofs.Number.Numerals
/-!
# Dates alone

The grammar of dates without a time of day, and the reader that follows it.

* `IsFixed`, `IsYear`, `IsShort`, `IsBareDate`: the grammar, from digits to dates.
* `splitYear_eq_some_iff`, `monthAndDay_eq_some_iff`: the parts of a date.
* `readDate_eq_some_iff`: **a date alone is read after its grammar**.
-/

namespace Weblog.Calendar

open Text Number

/-! ## The grammar -/

/-- Digits of a given number that denote a number. -/
def IsFixed (width : Nat) (digits : List Char) (n : Nat) : Prop :=
  digits.length = width ∧ IsNatural 10 digits n

/-- A month or a day: one or two digits. -/
def IsShort (digits : List Char) (n : Nat) : Prop :=
  IsFixed 1 digits n ∨ IsFixed 2 digits n

/-- A year: four digits, or a sign and six digits. -/
inductive IsYear : List Char → Int → Prop
  | plain {digits : List Char} {n : Nat} : IsFixed 4 digits n → IsYear digits n
  | ahead {digits : List Char} {n : Nat} : IsFixed 6 digits n → IsYear ('+' :: digits) n
  | before {digits : List Char} {n : Nat} : IsFixed 6 digits n → IsYear ('-' :: digits) (-n)

/-- A month and a day behind a separator, or a month, which stands for its first day. -/
inductive IsMonthAndDay (c : Char) : List Char → Nat → Nat → Prop
  | day {month day : List Char} {m d : Nat} : IsShort month m → IsShort day d →
      IsMonthAndDay c (month ++ c :: day) m d
  | month {month : List Char} {m : Nat} : IsShort month m → IsMonthAndDay c month m 1

/-- A date alone, with one separator throughout. -/
inductive IsBareDate : List Char → Date → Prop
  | mk {c : Char} {year rest : List Char} {y : Int} {m d : Nat} : c = '-' ∨ c = '/' →
      IsYear year y → IsMonthAndDay c rest m d → IsBareDate (year ++ c :: rest) ⟨y, m, d⟩

theorem fixedNumber_eq_some_iff {width n : Nat} {digits : List Char} (hwidth : 0 < width) :
    fixedNumber width digits = some n ↔ IsFixed width digits n := by
  unfold fixedNumber IsFixed
  rw [isNatural_ten_iff]
  constructor
  · intro h
    split_ifs at h with hdigits
    cases h
    refine ⟨hdigits.1, ?_, List.all_eq_true.mp hdigits.2, rfl⟩
    rintro rfl
    exact absurd hdigits.1 hwidth.ne
  · rintro ⟨hlength, -, hall, rfl⟩
    rw [if_pos ⟨hlength, List.all_eq_true.mpr hall⟩]

theorem shortNumber_eq_some_iff {digits : List Char} {n : Nat} :
    shortNumber digits = some n ↔ IsShort digits n := by
  unfold shortNumber IsShort
  rw [← fixedNumber_eq_some_iff Nat.one_pos, ← fixedNumber_eq_some_iff Nat.two_pos]
  cases h : fixedNumber 1 digits with
  | none => simp
  | some k =>
    have hone := ((fixedNumber_eq_some_iff Nat.one_pos).mp h).1
    simp [fixedNumber, hone]

theorem IsFixed.isDigit {width n : Nat} {digits : List Char} (h : IsFixed width digits n) :
    ∀ c ∈ digits, c.isDigit = true := (isNatural_ten_iff.mp h.2).2.1

theorem IsShort.isDigit {n : Nat} {digits : List Char} (h : IsShort digits n) :
    ∀ c ∈ digits, c.isDigit = true := h.elim IsFixed.isDigit IsFixed.isDigit

/-! ## Separators -/

theorem notMem_of_isDigit {digits : List Char} (h : ∀ c ∈ digits, c.isDigit = true) {c : Char}
    (hc : c.isDigit = false) : c ∉ digits := by
  intro hmem
  rw [h c hmem] at hc
  cases hc

theorem splitOnce_append {c : Char} {front : List Char} (h : c ∉ front) (rest : List Char) :
    splitOnce c (front ++ c :: rest) = some (front, rest) := by
  have hfront : ∀ d ∈ front, (d != c) = true := by
    rintro d hd
    rw [bne_iff_ne]
    rintro rfl
    exact h hd
  unfold splitOnce
  rw [List.dropWhile_append_of_pos hfront, List.takeWhile_append_of_pos hfront]
  simp

theorem splitOnce_eq_some {c : Char} {text front rest : List Char}
    (h : splitOnce c text = some (front, rest)) : text = front ++ c :: rest := by
  unfold splitOnce at h
  split at h
  · cases h
  · rename_i d behind hdrop
    obtain ⟨rfl, rfl⟩ := Prod.mk.inj (Option.some.inj h)
    have hhead := List.head?_dropWhile_not (· != c) text
    have hall : text.takeWhile (· != c) ++ text.dropWhile (· != c) = text :=
      List.takeWhile_append_dropWhile
    rw [hdrop] at hhead hall
    simp only [List.head?_cons, bne_eq_false_iff_eq] at hhead
    exact hall.symm.trans (by rw [hhead])

theorem splitOnce_eq_some_iff {c : Char} {text front rest : List Char} :
    splitOnce c text = some (front, rest) ↔ c ∉ front ∧ text = front ++ c :: rest := by
  constructor
  · intro h
    refine ⟨?_, splitOnce_eq_some h⟩
    unfold splitOnce at h
    split at h
    · cases h
    · cases h
      intro hmem
      simpa using List.mem_takeWhile_imp hmem
  · rintro ⟨hfront, rfl⟩
    exact splitOnce_append hfront rest

theorem splitFixed_eq_some_iff {c : Char} (hc : c.isDigit = false) {width : Nat}
    (hwidth : 0 < width) (f : Nat → Int) {text rest : List Char} {y : Int} :
    (do let (digits, rest) ← splitOnce c text; return (f (← fixedNumber width digits), rest)) =
        some (y, rest) ↔
      ∃ digits n, IsFixed width digits n ∧ f n = y ∧ text = digits ++ c :: rest := by
  simp only [Option.bind_eq_bind, Option.bind_eq_some_iff, Prod.exists, splitOnce_eq_some_iff,
    fixedNumber_eq_some_iff hwidth, Option.pure_def, Option.some_inj, Prod.mk.injEq]
  constructor
  · rintro ⟨digits, rest', ⟨-, htext⟩, n, hn, hy, rfl⟩
    exact ⟨digits, n, hn, hy, htext⟩
  · rintro ⟨digits, n, hn, hy, htext⟩
    exact ⟨digits, rest, ⟨notMem_of_isDigit hn.isDigit hc, htext⟩, n, hn, hy, rfl⟩

theorem splitYear_eq_some_iff {c : Char} (hc : c.isDigit = false) {text rest : List Char}
    {y : Int} : splitYear c text = some (y, rest) ↔
      ∃ year, IsYear year y ∧ text = year ++ c :: rest := by
  constructor
  · intro h
    unfold splitYear at h
    split at h
    · obtain ⟨digits, n, hn, rfl, rfl⟩ := (splitFixed_eq_some_iff hc (by decide) _).mp h
      exact ⟨_, .ahead hn, rfl⟩
    · obtain ⟨digits, n, hn, rfl, rfl⟩ :=
        (splitFixed_eq_some_iff hc (by decide) (fun n => -n)).mp h
      exact ⟨_, .before hn, rfl⟩
    · obtain ⟨digits, n, hn, rfl, rfl⟩ := (splitFixed_eq_some_iff hc (by decide) _).mp h
      exact ⟨_, .plain hn, rfl⟩
  · rintro ⟨year, hyear, rfl⟩
    cases hyear with
    | ahead hn => exact (splitFixed_eq_some_iff hc (by decide) _).mpr ⟨_, _, hn, rfl, rfl⟩
    | before hn =>
      exact (splitFixed_eq_some_iff hc (by decide) (fun n => -n)).mpr ⟨_, _, hn, rfl, rfl⟩
    | plain hn =>
      have hsome := (splitFixed_eq_some_iff hc (by decide) Nat.cast).mpr
        ⟨year, _, hn, rfl, (rfl : year ++ c :: rest = _)⟩
      obtain ⟨d, digits, rfl⟩ := List.exists_cons_of_length_pos
        (show 0 < year.length by rw [hn.1]; decide)
      have hd := hn.isDigit d List.mem_cons_self
      unfold splitYear
      split
      · rename_i heq
        obtain rfl := (List.cons.inj heq).1
        cases hd
      · rename_i heq
        obtain rfl := (List.cons.inj heq).1
        cases hd
      · exact hsome

theorem monthAndDay_eq_some_iff {c : Char} (hc : c.isDigit = false) {text : List Char}
    {m d : Nat} : monthAndDay c text = some (m, d) ↔ IsMonthAndDay c text m d := by
  constructor
  · intro h
    have htext : [c].intercalate (text.splitOn c) = text := List.intercalate_splitOn c
    unfold monthAndDay at h
    split at h
    · rename_i month hsplit
      obtain rfl : month = text := by simpa [hsplit] using htext
      obtain ⟨m, hm, heq⟩ := Option.bind_eq_some_iff.mp h
      cases heq
      exact .month (shortNumber_eq_some_iff.mp hm)
    · rename_i month day hsplit
      obtain rfl : month ++ c :: day = text := by simpa [hsplit] using htext
      obtain ⟨m, hm, hmore⟩ := Option.bind_eq_some_iff.mp h
      obtain ⟨d, hd, heq⟩ := Option.bind_eq_some_iff.mp hmore
      cases heq
      exact .day (shortNumber_eq_some_iff.mp hm) (shortNumber_eq_some_iff.mp hd)
    · cases h
  · intro h
    cases h with
    | month hm =>
      have hsplit : ([c].intercalate [text]).splitOn c = [text] := List.splitOn_intercalate c
        (by simpa using notMem_of_isDigit hm.isDigit hc) (by simp)
      rw [List.intercalate_singleton] at hsplit
      simp [monthAndDay, hsplit, shortNumber_eq_some_iff.mpr hm]
    | @day month day _ _ hm hd =>
      have hsplit : ([c].intercalate [month, day]).splitOn c = [month, day] :=
        List.splitOn_intercalate c
          (by simp [notMem_of_isDigit hm.isDigit hc, notMem_of_isDigit hd.isDigit hc]) (by simp)
      rw [show [c].intercalate [month, day] = month ++ c :: day by simp] at hsplit
      simp [monthAndDay, hsplit, shortNumber_eq_some_iff.mpr hm, shortNumber_eq_some_iff.mpr hd]

/-! ## Reading dates -/

theorem IsYear.isDigit_or_sign {year : List Char} {y : Int} (h : IsYear year y) :
    ∀ c ∈ year, c.isDigit = true ∨ c = '+' ∨ c = '-' := by
  cases h with
  | plain hn => exact fun c hc => .inl (hn.isDigit c hc)
  | ahead hn | before hn =>
    intro c hc
    obtain rfl | hc := List.mem_cons.mp hc
    · simp
    · exact .inl (hn.isDigit c hc)

theorem IsMonthAndDay.isDigit_or_separator {c : Char} {text : List Char} {m d : Nat}
    (h : IsMonthAndDay c text m d) : ∀ a ∈ text, a.isDigit = true ∨ a = c := by
  intro a ha
  cases h with
  | month hm => exact .inl (hm.isDigit a ha)
  | day hm hd =>
    simp only [List.mem_append, List.mem_cons] at ha
    obtain ha | rfl | ha := ha
    · exact .inl (hm.isDigit a ha)
    · exact .inr rfl
    · exact .inl (hd.isDigit a ha)

theorem char_of_date {c : Char} {year rest : List Char} {y : Int} {m d : Nat}
    (hy : IsYear year y) (hrest : IsMonthAndDay c rest m d) :
    ∀ a ∈ year ++ c :: rest, a.isDigit = true ∨ a = '+' ∨ a = '-' ∨ a = c := by
  intro a ha
  simp only [List.mem_append, List.mem_cons] at ha
  obtain ha | rfl | ha := ha
  · have := hy.isDigit_or_sign a ha
    tauto
  · tauto
  · have := hrest.isDigit_or_separator a ha
    tauto

theorem IsBareDate.colon_notMem {text : List Char} {date : Date} (h : IsBareDate text date) :
    ':' ∉ text := by
  intro hmem
  cases h with
  | mk hsep hy hrest =>
    have hchar := char_of_date hy hrest ':' hmem
    obtain rfl | rfl := hsep <;> simp at hchar

/-- **A date alone is read after its grammar.** -/
theorem readDate_eq_some_iff {text : List Char} {date : Date} :
    readDate text = some date ↔ IsBareDate text date ∧ date.isValid = true := by
  have hdigit : (if text.contains '/' then '/' else '-').isDigit = false := by split <;> rfl
  unfold readDate
  simp only [Option.bind_eq_bind, Option.bind_eq_some_iff, Prod.exists,
    splitYear_eq_some_iff hdigit, monthAndDay_eq_some_iff hdigit]
  constructor
  · rintro ⟨y, rest, ⟨year, hy, htext⟩, m, d, hrest, hdate⟩
    split_ifs at hdate with hvalid
    cases hdate
    refine ⟨?_, hvalid⟩
    rw [htext]
    refine .mk ?_ hy hrest
    split <;> simp
  · rintro ⟨hbare, hvalid⟩
    cases hbare with
    | @mk c year rest y m d hsep hy hrest =>
      -- a slash is found if and only if it is the separator
      have hc : (if (year ++ c :: rest).contains '/' then '/' else '-') = c := by
        obtain rfl | rfl := hsep
        · have hslash : '/' ∉ year ++ '-' :: rest := fun hmem => by
            simpa using char_of_date hy hrest '/' hmem
          simp [hslash]
        · simp
      simp only [hc]
      exact ⟨y, rest, ⟨year, hy, rfl⟩, m, d, hrest, if_pos hvalid⟩

end Weblog.Calendar
