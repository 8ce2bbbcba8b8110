import Mathlib.Data.List.DropRight
import Mathlib.Data.List.TakeWhile
import Mathlib.Tactic.Common
import Mathlib.Tactic.IntervalCases
import Weblog.Proofs.Calendar.BareDates
/-!
# How instants begin

A text that denotes an instant begins with a year and a separator, with a day and a blank, or with
the name of a day. The digits at the beginning of a numeral are followed by a point, an exponent,
the letter of a base or nothing. Therefore no text denotes both.

* `afterDigits`, `BeginsDate`: what follows a sign and digits, and the texts in which it can belong
  to a date.
* `readTrimmed_eq_none`: what begins like a date is no numeral.
* `beginsDate_of_readInstantTrimmed`: **what denotes an instant begins like a date**.
* **`readNumber_eq_none_of_readInstant`**: what denotes an instant denotes no number.
* `head?_ne_of_readInstant`, `head?_ne_of_readNumber`: neither begins with an equals sign, which
  would become part of an operator in front of it.
-/

namespace Weblog.Text

/-! ## Trimmed texts -/

theorem trim_prefix (s : List Char) : trim s <+: trimStart s :=
  List.rdropWhile_prefix isBlank (trimStart s)

theorem trimStart_eq_self {c : Char} {s : List Char} (hc : isBlank c = false) :
    trimStart (c :: s) = c :: s := List.dropWhile_cons_of_neg (by simp [hc])

theorem trimStart_trim (s : List Char) : trimStart (trim s) = trim s := by
  cases htrim : trim s with
  | nil => rfl
  | cons c t =>
    obtain ⟨behind, hstart⟩ := htrim ▸ trim_prefix s
    have hhead := List.head?_dropWhile_not isBlank s
    rw [show s.dropWhile isBlank = c :: t ++ behind from hstart.symm] at hhead
    exact trimStart_eq_self (by simpa using hhead)

theorem exists_trim_eq_cons {c : Char} {s : List Char} (hc : isBlank c = false)
    (h : s.head? = some c) : ∃ t, trim s = c :: t := by
  obtain ⟨t, rfl⟩ := List.head?_eq_some_iff.mp h
  have hprefix := trim_prefix (c :: t)
  rw [trimStart_eq_self hc] at hprefix
  cases htrim : trim (c :: t) with
  | nil =>
    have hblank := List.rdropWhile_eq_nil_iff.mp
      (show (trimStart (c :: t)).rdropWhile isBlank = [] from htrim)
    rw [trimStart_eq_self hc] at hblank
    simp [hblank c List.mem_cons_self] at hc
  | cons d t' =>
    rw [htrim] at hprefix
    rw [(List.cons_prefix_cons.mp hprefix).1]
    exact ⟨t', rfl⟩

theorem trimStart_blanks {before : List Char} (h : ∀ c ∈ before, isBlank c = true)
    (s : List Char) : trimStart (before ++ s) = trimStart s := List.dropWhile_append_of_pos h

theorem trimEnd_blanks {after : List Char} (h : ∀ c ∈ after, isBlank c = true) (s : List Char) :
    trimEnd (s ++ after) = trimEnd s := by
  rw [trimEnd, List.reverse_append, List.dropWhile_append_of_pos (by simpa using h), trimEnd]

theorem trim_blanks {before after : List Char} (hbefore : ∀ c ∈ before, isBlank c = true)
    (hafter : ∀ c ∈ after, isBlank c = true) (s : List Char) :
    trim (before ++ s ++ after) = trim s := by
  rw [List.append_assoc, trim, trimStart_blanks hbefore, trim]
  have hstart : trimStart (s ++ after) =
      if (trimStart s).isEmpty then trimStart after else trimStart s ++ after :=
    List.dropWhile_append
  rw [hstart]
  split_ifs with hempty
  · rw [List.isEmpty_iff.mp hempty]
    have hnil := trimStart_blanks hafter []
    rw [List.append_nil] at hnil
    rw [hnil]
    rfl
  · exact trimEnd_blanks hafter _

theorem trim_eq_self {s : List Char} (hfirst : ∀ c, s.head? = some c → isBlank c = false)
    (hlast : ∀ c, s.getLast? = some c → isBlank c = false) : trim s = s := by
  have hstart : trimStart s = s := by
    cases s with
    | nil => rfl
    | cons c s => exact trimStart_eq_self (hfirst c rfl)
  rw [trim, hstart]
  refine List.rdropWhile_eq_self_iff.mpr fun hl => ?_
  simp [hlast _ (List.getLast?_eq_some_getLast hl)]

end Weblog.Text

namespace Weblog.Calendar

open Text Number

/-! ## Behind the digits -/

/-- What follows the sign and the digits at the beginning of a text. -/
def afterDigits (text : List Char) : List Char :=
  (splitSign text).2.dropWhile Char.isDigit

/-- The initials of the names of the days. -/
def dayInitials : List Char := ['m', 't', 'w', 'f', 's']

/-- The characters that may follow the digits at the beginning of a date: separators, blanks, and
the initials of the days where there are no digits. -/
def endsDigits (c : Char) : Bool :=
  c == '-' || c == '/' || isBlank c || dayInitials.contains c.toLower

def BeginsDate (text : List Char) : Prop :=
  ∃ c rest, afterDigits text = c :: rest ∧ endsDigits c = true

theorem not_isDigit {c : Char} (h : endsDigits c = true) : c.isDigit = false := by
  by_contra hdigit
  simp only [Char.isDigit, Bool.not_eq_false, Bool.and_eq_true, decide_eq_true_eq, ge_iff_le,
    UInt32.le_iff_toNat_le] at hdigit
  have hlow : 48 ≤ c.toNat := hdigit.1
  have hhigh : c.toNat ≤ 57 := hdigit.2
  rw [← Char.ofNat_toNat c] at h
  interval_cases c.toNat <;> revert h <;> decide

theorem not_isBlank {c : Char} (h : c.isDigit = true) : isBlank c = false := by
  by_contra hblank
  have hends : endsDigits c = true := by simp [endsDigits, Bool.eq_true_of_not_eq_false hblank]
  simp [not_isDigit hends] at h

theorem afterDigits_of_unsigned {s : List Char} (hminus : s.head? ≠ some '-')
    (hplus : s.head? ≠ some '+') : afterDigits s = s.dropWhile Char.isDigit := by
  unfold afterDigits splitSign
  split <;> simp_all

theorem dropWhile_digits {digits rest : List Char} (hdigits : ∀ d ∈ digits, d.isDigit = true)
    {c : Char} (hc : c.isDigit = false) :
    (digits ++ c :: rest).dropWhile Char.isDigit = c :: rest :=
  dropWhile_isDigit hdigits (by simpa using hc)

theorem afterDigits_eq {digits rest : List Char} (hdigits : ∀ d ∈ digits, d.isDigit = true)
    (hlength : 0 < digits.length) {c : Char} (hc : c.isDigit = false) :
    afterDigits (digits ++ c :: rest) = c :: rest := by
  have hfirst : ∀ d, (digits ++ c :: rest).head? = some d → d.isDigit = true := by
    obtain ⟨d, digits, rfl⟩ := List.exists_cons_of_length_pos hlength
    simpa using hdigits d List.mem_cons_self
  rw [afterDigits_of_unsigned (fun hd => absurd (hfirst _ hd) (by decide))
    (fun hd => absurd (hfirst _ hd) (by decide)), dropWhile_digits hdigits hc]

theorem not_endsDigits_of_base {c : Char} {base : Nat} (h : (c, base) ∈ bases) :
    c.isDigit = false ∧ endsDigits c = false := by
  have hletters : ∀ p ∈ bases, p.1.isDigit = false ∧ endsDigits p.1 = false := by decide
  exact hletters _ h

/-- **What begins like a date is no numeral.** -/
theorem readTrimmed_eq_none {text : List Char} (h : BeginsDate text) : readTrimmed text = none := by
  obtain ⟨c, rest, hafter, hc⟩ := h
  have hradix : splitRadix text = none := by
    by_contra hsome
    obtain ⟨⟨base, digits⟩, hbase⟩ := Option.ne_none_iff_exists'.mp hsome
    obtain ⟨d, hd, rfl⟩ := splitRadix_eq_some_iff.mp hbase
    obtain ⟨hdigit, hends⟩ := not_endsDigits_of_base hd
    have hdigits : afterDigits ('0' :: d :: digits) = d :: digits := by
      rw [afterDigits_of_unsigned (by simp) (by simp)]
      simp [hdigit]
    obtain ⟨rfl, -⟩ := List.cons.inj (hdigits.symm.trans hafter)
    exact absurd hc (by simp [hends])
  have hdecimal : splitDecimal text = none := by
    have hpoint : c ≠ '.' := by rintro rfl; revert hc; decide
    have hexponent : ¬(c = 'e' ∨ c = 'E') := by rintro (rfl | rfl) <;> revert hc <;> decide
    have hfraction : splitFraction (c :: rest) = ([], c :: rest) := by
      unfold splitFraction
      split <;> simp_all
    unfold afterDigits at hafter
    simp [splitDecimal, hafter, hfraction, splitExponent, hexponent]
  simp [readTrimmed, hradix, hdecimal]

/-! ## Scanning -/

namespace Scan

variable {α β : Type} {s rest : List Char}

theorem bind_eq_some {x : Scan α} {f : α → Scan β} {r : β × List Char} :
    (x >>= f) s = some r ↔ ∃ a rest, x s = some (a, rest) ∧ f a rest = some r := by
  change (x s).bind (fun p => f p.1 p.2) = some r ↔ _
  rw [Option.bind_eq_some_iff]
  exact ⟨fun ⟨⟨a, rest⟩, h⟩ => ⟨a, rest, h⟩, fun ⟨a, rest, h⟩ => ⟨(a, rest), h⟩⟩

theorem whole_eq_some {x : Scan α} {a : α} : whole x s = some a ↔ x s = some (a, []) := by
  unfold whole
  split <;> simp_all [StateT.run]

theorem literal_eq_some {c : Char} {u : Unit} : literal c s = some (u, rest) ↔ s = c :: rest := by
  unfold literal
  split
  · simp
  · split_ifs with hd <;> simp [hd]

theorem someBlanks_eq_some {u : Unit} (h : someBlanks s = some (u, rest)) :
    ∃ c behind, s = c :: behind ∧ isBlank c = true := by
  unfold someBlanks at h
  split at h
  · cases h
  · rename_i c behind
    split_ifs at h with hc
    exact ⟨c, behind, rfl, hc⟩

theorem number_eq_some {least most n : Nat} (h : number least most s = some (n, rest)) :
    ∃ digits, s = digits ++ rest ∧ (∀ d ∈ digits, d.isDigit = true) ∧ least ≤ digits.length := by
  have hprefix : (s.take most).takeWhile Char.isDigit <+: s :=
    (List.takeWhile_prefix _).trans (List.take_prefix most s)
  unfold number at h
  dsimp only at h
  split_ifs at h with hlength
  obtain ⟨-, rfl⟩ := Prod.mk.inj (Option.some.inj h)
  exact ⟨_, (List.prefix_iff_eq_append.mp hprefix).symm, fun d hd => List.mem_takeWhile_imp hd,
    Nat.not_lt.mp hlength⟩

theorem afterDigits_of_number {least most n : Nat} {c : Char} (hleast : 0 < least)
    (h : number least most s = some (n, c :: rest)) (hc : c.isDigit = false) :
    afterDigits s = c :: rest := by
  obtain ⟨digits, rfl, hdigits, hlength⟩ := number_eq_some h
  exact afterDigits_eq hdigits (hleast.trans_le hlength) hc

theorem name_eq_some {names : List String} {place : Nat} (h : name names s = some (place, rest)) :
    ∃ word ∈ names, (s.take 3).map Char.toLower = word.toList := by
  obtain ⟨place, hplace, -⟩ := Option.map_eq_some_iff.mp h
  obtain ⟨hlt, hword, -⟩ := List.findIdx?_eq_some_iff_getElem.mp hplace
  exact ⟨_, List.getElem_mem hlt, (beq_iff_eq.mp hword).symm⟩

end Scan

/-! ## Readings -/

theorem beginsDate_of_readTimestamp {text : List Char} {t : Timestamp}
    (h : readTimestamp text = some t) : BeginsDate text := by
  obtain ⟨t, hscan, -⟩ := Option.bind_eq_some_iff.mp h
  obtain ⟨year, behind, hyear, hmore⟩ := Scan.bind_eq_some.mp (Scan.whole_eq_some.mp hscan)
  obtain ⟨_, behind', hhyphen, -⟩ := Scan.bind_eq_some.mp hmore
  obtain rfl := Scan.literal_eq_some.mp hhyphen
  exact ⟨'-', behind', Scan.afterDigits_of_number (by decide) hyear rfl, rfl⟩

theorem dropWhile_of_signedYear {s digits behind : List Char} {year : Int} (f : Nat → Int)
    (h : (do set digits; let (n, _) ← Scan.longNumber 1; pure (f n) : Scan Int) s =
      some (year, behind)) : digits.dropWhile Char.isDigit = behind := by
  obtain ⟨_, _, hset, hmore⟩ := Scan.bind_eq_some.mp h
  obtain ⟨-, rfl⟩ := Prod.mk.inj (Option.some.inj hset)
  obtain ⟨p, _, hlong, hpure⟩ := Scan.bind_eq_some.mp hmore
  obtain ⟨-, rfl⟩ := Prod.mk.inj (Option.some.inj hpure)
  unfold Scan.longNumber at hlong
  dsimp only at hlong
  split_ifs at hlong
  exact (Prod.mk.inj (Option.some.inj hlong)).2

theorem beginsDate_of_yearNumber {text behind : List Char} (ht : trimStart text = text) {year : Int}
    (h : Part.yearNumber text = some (year, '-' :: behind)) : BeginsDate text := by
  obtain ⟨_, s, hblanks, hsign⟩ := Scan.bind_eq_some.mp h
  obtain ⟨-, rfl⟩ := Prod.mk.inj (Option.some.inj hblanks)
  rw [ht] at hsign
  obtain ⟨_, _, hget, hsign⟩ := Scan.bind_eq_some.mp hsign
  obtain ⟨rfl, rfl⟩ := Prod.mk.inj (Option.some.inj hget)
  refine ⟨'-', behind, ?_, rfl⟩
  split at hsign
  · exact dropWhile_of_signedYear (fun n => -n) hsign
  · exact dropWhile_of_signedYear (fun n => n) hsign
  · obtain ⟨n, _, hnumber, hpure⟩ := Scan.bind_eq_some.mp hsign
    obtain ⟨-, rfl⟩ := Prod.mk.inj (Option.some.inj hpure)
    exact Scan.afterDigits_of_number (by decide) hnumber rfl

theorem exists_eq_year_cons {layout : Layout} (h : layout ∈ offsetLayouts ++ utcLayouts) :
    ∃ more, layout = .year :: .literal '-' :: more := by
  simp only [offsetLayouts, utcLayouts, List.cons_append, List.nil_append, List.mem_cons,
    List.not_mem_nil, or_false, dateLayout, List.append_assoc] at h
  rcases h with rfl | rfl | rfl | rfl | rfl | rfl | rfl | rfl | rfl | rfl | rfl <;>
    exact ⟨_, rfl⟩

theorem beginsDate_of_layout {layout : Layout} (hlayout : layout ∈ offsetLayouts ++ utcLayouts)
    {text : List Char} (ht : trimStart text = text) {t : Timestamp}
    (h : layout.read text = some t) : BeginsDate text := by
  obtain ⟨more, rfl⟩ := exists_eq_year_cons hlayout
  obtain ⟨t, hscan, -⟩ := Option.bind_eq_some_iff.mp h
  have hparts := Scan.whole_eq_some.mp hscan
  rw [Layout.scan, List.foldlM_cons] at hparts
  obtain ⟨_, _, hpart, hmore⟩ := Scan.bind_eq_some.mp hparts
  obtain ⟨year, _, hyear, hpure⟩ := Scan.bind_eq_some.mp hpart
  obtain ⟨-, rfl⟩ := Prod.mk.inj (Option.some.inj hpure)
  rw [List.foldlM_cons] at hmore
  obtain ⟨_, _, hpart', -⟩ := Scan.bind_eq_some.mp hmore
  obtain ⟨_, _, hhyphen, -⟩ := Scan.bind_eq_some.mp hpart'
  obtain rfl := Scan.literal_eq_some.mp hhyphen
  exact beginsDate_of_yearNumber ht hyear

theorem initial_of_dayName :
    ∀ word ∈ dayNames, ∃ c letters, word.toList = c :: letters ∧ c ∈ dayInitials := by
  simp [dayNames, dayInitials]

theorem exists_initial_of_name {s rest : List Char} {place : Nat}
    (h : Scan.name dayNames s = some (place, rest)) :
    ∃ c behind, s = c :: behind ∧ c.toLower ∈ dayInitials := by
  obtain ⟨word, hword, hletters⟩ := Scan.name_eq_some h
  obtain ⟨initial, letters, hinitial, hmem⟩ := initial_of_dayName word hword
  rw [hinitial] at hletters
  cases s with
  | nil => cases hletters
  | cons c behind => exact ⟨c, behind, rfl, (List.cons.inj hletters).1 ▸ hmem⟩

theorem beginsDate_of_dayInitial {c : Char} (hc : c.toLower ∈ dayInitials) (rest : List Char) :
    BeginsDate (c :: rest) := by
  have hends : endsDigits c = true := by simp [endsDigits, hc]
  have hsign : c ≠ '-' ∧ c ≠ '+' := by
    constructor <;> rintro rfl <;> revert hc <;> decide
  refine ⟨c, rest, ?_, hends⟩
  rw [afterDigits_of_unsigned (by simpa using hsign.1) (by simpa using hsign.2)]
  exact List.dropWhile_cons_of_neg (by simp [not_isDigit hends])

theorem beginsDate_of_readMailDate {text : List Char} (ht : trimStart text = text) {t : Timestamp}
    (h : readMailDate text = some t) : BeginsDate text := by
  obtain ⟨⟨day, t⟩, hscan, -⟩ := Option.bind_eq_some_iff.mp h
  obtain ⟨_, _, hblanks, hmore⟩ := Scan.bind_eq_some.mp (Scan.whole_eq_some.mp hscan)
  obtain ⟨-, rfl⟩ := Prod.mk.inj (Option.some.inj hblanks)
  obtain ⟨weekday, s, hweekday, hmore⟩ := Scan.bind_eq_some.mp hmore
  rw [ht] at hweekday
  unfold optionalWeekday at hweekday
  split at hweekday
  · -- the name of a day
    rename_i place rest hname
    obtain ⟨c, behind, rfl, hc⟩ := exists_initial_of_name hname
    exact beginsDate_of_dayInitial hc behind
  · cases hweekday
  · -- a number and a blank
    obtain ⟨-, rfl⟩ := Prod.mk.inj (Option.some.inj hweekday)
    obtain ⟨_, _, hblanks, hmore⟩ := Scan.bind_eq_some.mp hmore
    obtain ⟨-, rfl⟩ := Prod.mk.inj (Option.some.inj hblanks)
    obtain ⟨day, s, hday, hmore⟩ := Scan.bind_eq_some.mp hmore
    obtain ⟨_, _, hblanks, -⟩ := Scan.bind_eq_some.mp hmore
    obtain ⟨c, behind, rfl, hc⟩ := Scan.someBlanks_eq_some hblanks
    have hends : endsDigits c = true := by simp [endsDigits, hc]
    rw [ht] at hday
    exact ⟨c, behind, Scan.afterDigits_of_number (by decide) hday (not_isDigit hends), hends⟩

/-! ## Dates alone -/

theorem beginsDate_of_readDate {text : List Char} {date : Date} (h : readDate text = some date) :
    BeginsDate text := by
  obtain ⟨hbare, -⟩ := readDate_eq_some_iff.mp h
  cases hbare with
  | @mk c year rest y m d hc hy hrest =>
    have hends : endsDigits c = true := by
      obtain rfl | rfl := hc <;> rfl
    refine ⟨c, rest, ?_, hends⟩
    cases hy with
    | plain hn =>
      exact afterDigits_eq hn.isDigit (hn.1.symm ▸ by decide) (not_isDigit hends)
    | ahead hn => exact dropWhile_digits hn.isDigit (not_isDigit hends)
    | before hn => exact dropWhile_digits hn.isDigit (not_isDigit hends)

/-! ## Instants -/

/-- **What denotes an instant begins like a date.** -/
theorem beginsDate_of_readInstantTrimmed {text : List Char} (ht : trimStart text = text) {i : Int}
    (h : readInstantTrimmed text = some i) : BeginsDate text := by
  obtain ⟨t, ht', -⟩ := Option.map_eq_some_iff.mp h
  obtain ⟨read, hread, hsome⟩ := List.exists_of_findSome?_eq_some ht'
  simp only [readings, List.mem_append, List.mem_cons, List.not_mem_nil, or_false,
    List.mem_map] at hread
  rcases hread with ((rfl | rfl) | ⟨layout, hlayout, rfl⟩) | rfl
  · exact beginsDate_of_readTimestamp hsome
  · exact beginsDate_of_readMailDate ht hsome
  · exact beginsDate_of_layout (List.mem_append.mpr hlayout) ht hsome
  · obtain ⟨date, hdate, -⟩ := Option.map_eq_some_iff.mp hsome
    exact beginsDate_of_readDate hdate

/-- **What denotes an instant denotes no number.** -/
theorem readNumber_eq_none_of_readInstant {text : String} {i : Int}
    (h : readInstant text = some i) : readNumber text = none :=
  readTrimmed_eq_none (beginsDate_of_readInstantTrimmed (trimStart_trim _) h)

/-! ## Literals behind operators -/

theorem head?_ne_of_readInstant {text : String} {i : Int} (h : readInstant text = some i) :
    text.toList.head? ≠ some '=' := by
  intro heq
  obtain ⟨rest, htrim⟩ := exists_trim_eq_cons (by decide) heq
  obtain ⟨c, behind, hafter, hc⟩ := beginsDate_of_readInstantTrimmed (trimStart_trim _) h
  rw [htrim, afterDigits_of_unsigned (by simp) (by simp)] at hafter
  obtain ⟨rfl, -⟩ := List.cons.inj hafter
  exact absurd hc (by decide)

theorem head?_ne_of_readNumber {text : String} {x : Binary64} (h : readNumber text = some x) :
    text.toList.head? ≠ some '=' := by
  intro heq
  obtain ⟨rest, htrim⟩ := exists_trim_eq_cons (by decide) heq
  rw [readNumber, htrim] at h
  cases h

end Weblog.Calendar
