import Mathlib.Tactic.Common
import Weblog.Proofs.Calendar.Readings
/-!
# Dates in UTC

A timestamp is shown as its date in UTC, and sorted by its instant. The two agree: the date is the
one of the day in which the instant lies, whatever the offset is, also before 1970.

* `Date.dayNumber_shift`, `Date.exists_shift`: a date one day earlier or later.
* **`Timestamp.dayNumber_utcDate`**: the day of the date in UTC is that of the instant, rounded
  down.
* `Scan.Yields`, `Scan.EndsPlain`: what a reading yields, and how texts end that it uses up.
* **`readInstant_of_readTimestamp`**: the instant of a timestamp is the one that is sorted by.
* **`exists_utcDate`**: the date that is shown of a timestamp is that of the day of its instant.
-/

namespace Weblog.Calendar

open Text Number

/-! ## Days in UTC -/

namespace Date

variable {d : Date}

theorem dayNumber_shift (h : d.Exists) {days : Int} (hlow : -1 ≤ days) (hhigh : days ≤ 1) :
    (d.shift days).dayNumber = d.dayNumber + days := by
  unfold shift
  split_ifs
  · rw [dayNumber_previous h]
    omega
  · rw [dayNumber_next h]
    omega
  · omega

theorem exists_shift (h : d.Exists) (days : Int) : (d.shift days).Exists := by
  unfold shift
  split_ifs
  · exact exists_previous h
  · exact exists_next h
  · exact h

end Date

namespace Timestamp

theorem bounds_of_isValid {t : Timestamp} (h : t.isValid = true) :
    t.date.Exists ∧ t.hour < 24 ∧ t.minute < 60 ∧ -86400 < t.offset ∧ t.offset < 86400 := by
  simp only [isValid, Bool.and_eq_true, decide_eq_true_eq] at h
  obtain ⟨⟨⟨⟨⟨⟨hdate, hhour⟩, hminute⟩, -⟩, hlow⟩, hhigh⟩, -⟩ := h
  exact ⟨(Date.isValid_iff.mp hdate).2, hhour, hminute, hlow, hhigh⟩

theorem millis_eq {t : Timestamp} (h : t.second < 60) : t.millis =
    86400000 * t.date.dayNumber + 1000 * t.utcSeconds + (t.nanosecond / 1000000 : Nat) := by
  have hsecond : min t.second 59 = t.second := min_eq_left (Nat.le_of_lt_succ h)
  rw [millis, utcSeconds, hsecond]
  omega

/-- **The day of the date in UTC is that of the instant, rounded down**, unless the second is a leap
second. -/
theorem dayNumber_utcDate {t : Timestamp} (h : t.isValid = true) (hsecond : t.second < 60)
    (hnano : t.nanosecond < 10 ^ 9) : t.utcDate.dayNumber = t.millis / 86400000 := by
  obtain ⟨hdate, hhour, hminute, hlow, hhigh⟩ := bounds_of_isValid h
  have hseconds : -86400 < t.utcSeconds ∧ t.utcSeconds < 2 * 86400 := by
    unfold utcSeconds
    omega
  have hfraction : t.nanosecond / 1000000 < 1000 := by omega
  rw [utcDate, Date.dayNumber_shift hdate (by omega) (by omega), millis_eq hsecond]
  omega

end Timestamp

/-! ## What readings yield -/

namespace Scan

variable {α β : Type}

/-- Whether whatever a reading yields has a property. -/
def Yields (x : Scan α) (P : α → Prop) : Prop := ∀ s a rest, x s = some (a, rest) → P a

/-- Whether a text that a reading uses up ends with a character that is no blank. -/
def EndsPlain (x : Scan α) : Prop :=
  ∀ s a, x s = some (a, []) → ∃ front c, s = front ++ [c] ∧ isBlank c = false

theorem yields_pure {a : α} {P : α → Prop} (h : P a) : Yields (pure a) P := by
  rintro s b rest hb
  cases hb
  exact h

theorem Yields.bind {x : Scan α} {f : α → Scan β} {P : α → Prop} {Q : β → Prop}
    (hx : Yields x P) (hf : ∀ a, P a → Yields (f a) Q) : Yields (x >>= f) Q := by
  intro s b rest h
  obtain ⟨a, s', hs', hrest⟩ := bind_eq_some.mp h
  exact hf a (hx s a s' hs') s' b rest hrest

theorem Yields.after {x : Scan α} {f : α → Scan β} {Q : β → Prop} (hf : ∀ a, Yields (f a) Q) :
    Yields (x >>= f) Q :=
  Yields.bind (P := fun _ => True) (fun _ _ _ _ => trivial) fun a _ => hf a

theorem EndsPlain.after {x : Scan α} {f : α → Scan β} (hx : LeavesEnd x)
    (hf : ∀ a, EndsPlain (f a)) : EndsPlain (x >>= f) := by
  intro s b h
  obtain ⟨a, s', hs', hrest⟩ := bind_eq_some.mp h
  obtain ⟨front, c, rfl, hc⟩ := hf a s' b hrest
  obtain ⟨before, rfl⟩ := hx s a _ hs'
  exact ⟨before ++ front, c, (List.append_assoc before front [c]).symm, hc⟩

theorem EndsPlain.bind {x : Scan α} {f : α → Scan β} (hx : EndsPlain x)
    (hf : ∀ a s p, f a s = some p → p.2 = s) : EndsPlain (x >>= f) := by
  intro s b h
  obtain ⟨a, s', hs', hrest⟩ := bind_eq_some.mp h
  obtain rfl : [] = s' := hf a s' _ hrest
  exact hx s a hs'

theorem endsPlain_number {least most : Nat} (h : 0 < least) : EndsPlain (number least most) := by
  intro s n hs
  obtain ⟨digits, rfl, hdigits, hlength⟩ := number_eq_some hs
  rcases List.eq_nil_or_concat digits with rfl | ⟨front, c, rfl⟩
  · exact absurd h (Nat.not_lt.mpr hlength)
  · rw [List.concat_eq_append] at hdigits ⊢
    exact ⟨front, c, List.append_nil _, not_isBlank (hdigits c (by simp))⟩

theorem endsPlain_offset (minus : Bool) {between : Scan Unit} (h : LeavesEnd between) :
    EndsPlain (offset minus between) := by
  refine .after (leavesEnd_sign minus) fun sign => .after (leavesEnd_number 2 2) fun hours =>
    .after h fun _ => .bind (endsPlain_number Nat.two_pos) fun minutes s p hp => ?_
  split_ifs at hp
  · cases hp
    rfl
  · cases hp

theorem yields_optionalFraction : Yields optionalFraction (· < 10 ^ 9) := by
  intro s n rest h
  unfold optionalFraction at h
  split at h
  · rename_i behind
    unfold fraction at h
    dsimp only at h
    split_ifs at h with hempty
    obtain ⟨rfl, -⟩ := Prod.mk.inj (Option.some.inj h)
    generalize hdigits : (behind.take 9).takeWhile Char.isDigit = digits at hempty
    have hlength : digits.length ≤ 9 := by
      rw [← hdigits]
      exact (List.takeWhile_prefix _).length_le.trans (List.length_take_le 9 behind)
    have hnatural : IsNatural 10 digits (decimalValue digits) := by
      refine isNatural_ten_iff.mpr ⟨by simpa using hempty, fun c hc => ?_, rfl⟩
      rw [← hdigits] at hc
      exact List.mem_takeWhile_imp hc
    calc decimalValue digits * tenTo (9 - digits.length)
        < 10 ^ digits.length * 10 ^ (9 - digits.length) :=
          Nat.mul_lt_mul_of_pos_right hnatural.lt (Nat.pow_pos (by decide))
      _ = 10 ^ 9 := by rw [← Nat.pow_add, Nat.add_sub_of_le hlength]
  · cases h
    decide

end Scan

open Scan

/-! ## Timestamps -/

theorem endsPlain_offsetOrZ : EndsPlain offsetOrZ := by
  intro s offset h
  unfold offsetOrZ at h
  split at h
  · cases h
    exact ⟨[], 'Z', rfl, rfl⟩
  · cases h
    exact ⟨[], 'z', rfl, rfl⟩
  · exact endsPlain_offset true (leavesEnd_literal ':') s offset h

theorem endsPlain_timestamp : EndsPlain timestamp := by
  refine .after (leavesEnd_number 4 4) fun _ => .after (leavesEnd_literal '-') fun _ =>
    .after (leavesEnd_number 2 2) fun _ => .after (leavesEnd_literal '-') fun _ =>
    .after (leavesEnd_number 2 2) fun _ => .after leavesEnd_separator fun _ =>
    .after (leavesEnd_number 2 2) fun _ => .after (leavesEnd_literal ':') fun _ =>
    .after (leavesEnd_number 2 2) fun _ => .after (leavesEnd_literal ':') fun _ =>
    .after (leavesEnd_number 2 2) fun _ => .after leavesEnd_optionalFraction fun _ =>
    .bind endsPlain_offsetOrZ fun _ _ _ hp => ?_
  cases hp
  rfl

theorem yields_timestamp : Yields timestamp (·.nanosecond < 10 ^ 9) :=
  .after fun _ => .after fun _ => .after fun _ => .after fun _ => .after fun _ => .after fun _ =>
    .after fun _ => .after fun _ => .after fun _ => .after fun _ => .after fun _ =>
    .bind yields_optionalFraction fun _ hnano => .after fun _ => yields_pure hnano

variable {text : List Char} {t : Timestamp}

theorem readTimestamp_eq_some (h : readTimestamp text = some t) :
    timestamp text = some (t, []) ∧ t.isValid = true := by
  obtain ⟨t', hscan, hchecked⟩ := Option.bind_eq_some_iff.mp h
  unfold Timestamp.checked at hchecked
  split_ifs at hchecked with hvalid
  cases hchecked
  exact ⟨whole_eq_some.mp hscan, hvalid⟩

/-- A timestamp begins and ends without blanks. -/
theorem trim_of_readTimestamp (h : readTimestamp text = some t) : trim text = text := by
  obtain ⟨hscan, -⟩ := readTimestamp_eq_some h
  obtain ⟨front, c, hend, hc⟩ := endsPlain_timestamp text t hscan
  obtain ⟨year, behind, hyear, -⟩ := bind_eq_some.mp hscan
  obtain ⟨digits, hbegin, hdigits, hlength⟩ := number_eq_some hyear
  apply trim_eq_self
  · intro d hd
    obtain ⟨d', ds, rfl⟩ := List.exists_cons_of_length_pos (Nat.zero_lt_of_lt hlength)
    rw [hbegin] at hd
    obtain rfl : d' = d := Option.some.inj hd
    exact not_isBlank (hdigits d' List.mem_cons_self)
  · intro d hd
    rw [hend, List.getLast?_concat] at hd
    exact Option.some.inj hd ▸ hc

/-- **A timestamp is sorted by its own instant**: the reading as a timestamp is the first one. -/
theorem readInstant_of_readTimestamp {s : String} (h : readTimestamp s.toList = some t) :
    readInstant s = some t.millis := by
  have hfirst : readings.findSome? (fun read => read s.toList) = some t := by
    rw [readings, List.cons_append, List.cons_append,
      List.findSome?_cons_of_isSome (by rw [h]; rfl)]
    exact h
  rw [readInstant, trim_of_readTimestamp h, readInstantTrimmed, hfirst, Option.map_some]

/-- **The date that is shown of a timestamp is that of the day of its instant.** -/
theorem exists_utcDate {s : String} (h : readTimestamp s.toList = some t)
    (hsecond : t.second < 60) :
    ∃ date instant, readInstant s = some instant ∧ IsDay date (instant / 86400000) ∧
      displayDate s = date.text := by
  obtain ⟨hscan, hvalid⟩ := readTimestamp_eq_some h
  have hnumber := Timestamp.dayNumber_utcDate hvalid hsecond (yields_timestamp _ _ _ hscan)
  have hexists := Date.exists_shift (Timestamp.bounds_of_isValid hvalid).1 (t.utcSeconds / 86400)
  refine ⟨t.utcDate, t.millis, readInstant_of_readTimestamp h, ?_, ?_⟩
  · rw [← hnumber]
    exact isDay_dayNumber hexists
  · rw [displayDate, h]

end Weblog.Calendar
