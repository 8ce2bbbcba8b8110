import Mathlib.Tactic.Common
import Weblog.Proofs.Calendar.Forms
import Weblog.Proofs.Calendar.Readings
/-!
# Moments and their instants

A moment can be written in many ways: with a letter or a blank in front of the time, with or without
seconds, with an offset, with the letter of UTC or with nothing, and as a date alone if it is a
midnight. All of them denote the same instant, because every reading that accepts one of the texts
finds the moment itself, and one of the readings does.

* `Moment.Writes`: the ways to write a moment; `Moment.millis`: its distance from 1970.
* `timestamp_eq_some`, `readMailDate_eq_none`, `readDate_eq_none`: what the readings other than
  the layouts make of a time of day.
* `eq_timestamp_of_reads`, `exists_reads`: **the readings agree**, and one of them succeeds.
* **`readInstant_of_writes`**: whichever way a moment is written, its instant is read.
-/

namespace Weblog.Calendar

open Text Number

/-! ## Writing moments -/

namespace Moment

def midnight (date : Date) : Moment :=
  ⟨date, 0, 0, 0, 0, 0⟩

/-- The milliseconds from 1970-01-01, midnight UTC, if the date is that many days later. -/
def millis (m : Moment) (day : Int) : Int :=
  86400000 * day + 3600000 * m.hour + 60000 * m.minute + 1000 * m.second + m.milli -
    60000 * m.offset

/-- The ways to write a moment. In a date alone, the month and the day may omit a zero. -/
inductive Writes : Moment → List Char → Prop
  | time {m : Moment} {form : Form} {text : List Char} : form.Writes m text → Writes m text
  | date {date : Date} {c : Char} {month day : List Char} : c = '-' ∨ c = '/' →
      month = Date.padded 1 date.month ∨ month = Date.padded 2 date.month →
      day = Date.padded 1 date.day ∨ day = Date.padded 2 date.day →
      Writes (midnight date) (Date.padded 4 date.year.natAbs ++ c :: (month ++ c :: day))

end Moment

/-! ## Timestamps of moments -/

namespace Date

theorem year_next (d : Date) : d.next.year = d.year ∨ d.next.year = d.year + 1 := by
  unfold next
  split_ifs <;> simp

theorem year_previous (d : Date) : d.previous.year = d.year ∨ d.previous.year = d.year - 1 := by
  unfold previous
  split_ifs <;> simp

theorem isValid_shift {d : Date} (h : d.Exists) (hfirst : 0 ≤ d.year) (hlast : d.year ≤ 9999)
    (days : Int) : (d.shift days).isValid = true := by
  rw [isValid_iff, firstYear, lastYear]
  unfold shift
  split_ifs
  · have hyear := year_previous d
    exact ⟨by omega, exists_previous h⟩
  · have hyear := year_next d
    exact ⟨by omega, exists_next h⟩
  · exact ⟨by omega, h⟩

end Date

theorem Moment.Exists.isValid_date {m : Moment} (h : m.Exists) : m.date.isValid = true :=
  Date.isValid_shift h.date_exists h.year_nonneg h.year_le 0

theorem Moment.Exists.isValid {m : Moment} (h : m.Exists) : m.timestamp.isValid = true := by
  have hutc : m.timestamp.utcDate.isValid = true :=
    Date.isValid_shift h.date_exists h.year_nonneg h.year_le _
  have hoffset := h.offset_lt
  simp only [Timestamp.isValid, Bool.and_eq_true, decide_eq_true_eq]
  refine ⟨⟨⟨⟨⟨⟨h.isValid_date, h.hour_lt⟩, h.minute_lt⟩, h.second_lt.le⟩, ?_⟩, ?_⟩, hutc⟩ <;>
    simp only [Moment.timestamp] <;> omega

theorem Moment.millis_timestamp (m : Moment) : m.timestamp.millis = m.millis m.date.dayNumber := by
  simp only [timestamp, Timestamp.millis, millis]
  omega

/-! ## Timestamps of RFC 3339 -/

theorem timestamp_minuteText {m : Moment} (h : m.Exists) (separator' : Separator)
    (rest : List Char) : timestamp (m.minuteText separator' rest) =
      (do
        Scan.literal ':'
        let second ← Scan.number 2 2
        let nanosecond ← Scan.optionalFraction
        let offset ← offsetOrZ
        pure ⟨m.date, m.hour, m.minute, second, nanosecond, offset⟩ : Scan Timestamp) rest := by
  obtain ⟨hyear, hmonth, hday, hhour, hminute⟩ := h.isFixed
  have hseparator : ∀ s, separator (separator'.char :: s) = some ((), s) := by
    intro s
    cases separator' <;> rfl
  rw [timestamp, Moment.minuteText, Scan.bind_of_eq (hyear.number le_rfl _),
    Scan.bind_of_eq (Scan.literal_self _ _), Scan.bind_of_eq (hmonth.number le_rfl _),
    Scan.bind_of_eq (Scan.literal_self _ _), Scan.bind_of_eq (hday.number le_rfl _),
    Scan.bind_of_eq (hseparator _), Scan.bind_of_eq (hhour.number le_rfl _),
    Scan.bind_of_eq (Scan.literal_self _ _), Scan.bind_of_eq (hminute.number le_rfl _), h.date_eq]

theorem Zone.Writes.offsetOrZ_eq_some {zone : Zone} {offset seconds : Int} {text : List Char}
    (h : zone.Writes offset text) (hlt : offset.natAbs < 1440)
    (hsome : offsetOrZ text = some (seconds, [])) : seconds = 60 * offset := by
  cases h with
  | offset n hsign hbetween =>
    obtain ⟨hh, hmi, hseconds⟩ := isFixed_offset (hsign.imp And.right And.right) hlt
    rw [offsetOrZ_offset hsign hh hmi (Nat.mod_lt n (by decide)) hbetween] at hsome
    split_ifs at hsome
    cases hsome
    exact hseconds
  | letter =>
    cases hsome
    rfl
  | bare => cases hsome

theorem Precision.Writes.eq_nil {second milli : Nat} {text : List Char}
    (h : Precision.minute.Writes second milli text) : text = [] := by
  cases h
  rfl

theorem scan_seconds {α : Type} {second milli : Nat} {seconds : List Char}
    (h : Precision.second.Writes second milli seconds) (hsecond : second < 60)
    (hmilli : milli < 1000) {rest : List Char}
    (hrest : (∀ c, rest.head? = some c → c.isDigit = false) ∧ rest.head? ≠ some '.')
    (f : Nat → Nat → Scan α) :
    (do
      Scan.literal ':'
      let second ← Scan.number 2 2
      let nanosecond ← Scan.optionalFraction
      f second nanosecond) (seconds ++ rest) = f second (milli * 1000000) rest := by
  have hs := isFixed_padded Nat.two_pos (show second < 10 ^ 2 by omega)
  cases h with
  | second =>
    rw [List.cons_append, Scan.bind_of_eq (Scan.literal_self _ _),
      Scan.bind_of_eq (hs.number le_rfl _),
      Scan.bind_of_eq (optionalFraction_of_head? hrest.2), Nat.zero_mul]
  | fraction =>
    have hms := isFixed_padded (by decide : 0 < 3) (show milli < 10 ^ 3 by omega)
    rw [List.cons_append, Scan.bind_of_eq (Scan.literal_self _ _), List.append_assoc,
      Scan.bind_of_eq (hs.number le_rfl _), List.cons_append,
      Scan.bind_of_eq (optionalFraction_eq hms hrest.1)]

theorem timestamp_eq_some {form : Form} {m : Moment} (h : m.Exists) {text : List Char}
    (hw : form.Writes m text) {t : Timestamp} (ht : timestamp text = some (t, [])) :
    t = m.timestamp := by
  cases hw with
  | @mk seconds zone hp hz =>
    rw [timestamp_minuteText h] at ht
    cases hform : form.precision with
    | minute =>
      rw [hform] at hp
      rw [hp.eq_nil, List.nil_append] at ht
      obtain ⟨_, rest, hcolon, -⟩ := Scan.bind_eq_some.mp ht
      obtain rfl := Scan.literal_eq_some.mp hcolon
      simpa using hz.head? ':' rfl
    | second =>
      rw [hform] at hp
      rw [scan_seconds hp h.second_lt h.milli_lt hz.ends] at ht
      obtain ⟨offset, rest, hoffset, hpure⟩ := Scan.bind_eq_some.mp ht
      cases hpure
      rw [hz.offsetOrZ_eq_some h.offset_lt hoffset]
      rfl

theorem readTimestamp_of_letters {m : Moment} (h : m.Exists) {text : List Char}
    (hw : Form.Writes ⟨.letter, .second, .letter⟩ m text) :
    readTimestamp text = some m.timestamp := by
  have hscan : timestamp text = some (m.timestamp, []) := by
    cases hw with
    | @mk seconds zone hp hz =>
      rw [timestamp_minuteText h, scan_seconds hp h.second_lt h.milli_lt hz.ends]
      dsimp only at hz
      obtain ⟨date, hour, minute, second, milli, offset⟩ := m
      cases hz
      rfl
  rw [readTimestamp, Scan.whole_eq_some.mpr hscan, Option.bind_some, Timestamp.checked,
    if_pos h.isValid]

/-! ## Other readings -/

theorem readMailDate_eq_none {a b c : Char} (ha : a.isDigit = true) (hb : b.isDigit = true)
    (hc : c.isDigit = true) (rest : List Char) : readMailDate (a :: b :: c :: rest) = none := by
  have hstart : trimStart (a :: b :: c :: rest) = a :: b :: c :: rest :=
    trimStart_eq_self (not_isBlank ha)
  have hname : Scan.name dayNames (a :: b :: c :: rest) = none := by
    by_contra hsome
    obtain ⟨⟨place, behind⟩, hplace⟩ := Option.ne_none_iff_exists'.mp hsome
    obtain ⟨_, _, heq, hinitial⟩ := exists_initial_of_name hplace
    cases heq
    have hends : endsDigits a = true := by simp [endsDigits, hinitial]
    simp [not_isDigit hends] at ha
  have hweekday : optionalWeekday (a :: b :: c :: rest) = some (none, a :: b :: c :: rest) := by
    rw [optionalWeekday, hname]
  have hfixed : IsFixed 2 [a, b] (decimalValue [a, b]) :=
    ⟨rfl, isNatural_ten_iff.mpr ⟨by simp, by simp [ha, hb], rfl⟩⟩
  have hnumber : Scan.number 1 2 (a :: b :: c :: rest) =
      some (decimalValue [a, b], c :: rest) := hfixed.number (by decide : 1 ≤ 2) (c :: rest)
  have hblanks : Scan.someBlanks (c :: rest) = none := by simp [Scan.someBlanks, not_isBlank hc]
  have hscan : mailDate (a :: b :: c :: rest) = none := by
    have hstart' : Scan.blanks (a :: b :: c :: rest) = some ((), a :: b :: c :: rest) := by
      rw [Scan.blanks, hstart]
    rw [mailDate, Scan.bind_of_eq hstart', Scan.bind_of_eq hweekday, Scan.bind_of_eq hstart',
      Scan.bind_of_eq hnumber, Scan.bind_eq, hblanks, Option.bind_none]
  simp [readMailDate, Scan.whole, StateT.run, hscan]

theorem readDate_eq_none {text : List Char} (h : ':' ∈ text) : readDate text = none := by
  by_contra hsome
  obtain ⟨date, hdate⟩ := Option.ne_none_iff_exists'.mp hsome
  exact (readDate_eq_some_iff.mp hdate).1.colon_notMem h

/-! ## Instants of moments -/

/-- If all readings that succeed agree, it does not matter which one is first. -/
theorem findSome?_eq_some {α β : Type} {readings : List (α → Option β)} {a : α} {b : β}
    (hsome : ∃ read ∈ readings, read a = some b)
    (hall : ∀ read ∈ readings, ∀ b', read a = some b' → b' = b) :
    readings.findSome? (fun read => read a) = some b := by
  obtain ⟨read, hread, hb⟩ := hsome
  have hfound : (readings.findSome? fun read => read a).isSome = true :=
    List.findSome?_isSome_iff.mpr ⟨read, hread, Option.isSome_of_eq_some hb⟩
  obtain ⟨b', hb'⟩ := Option.isSome_iff_exists.mp hfound
  obtain ⟨read', hread', hsome'⟩ := List.exists_of_findSome?_eq_some hb'
  rw [hb', hall read' hread' b' hsome']

section Times

variable {form : Form} {m : Moment} (h : m.Exists) {text : List Char} (hw : form.Writes m text)

include h hw

theorem read_layout {form' : Form} {t : Timestamp} :
    form'.layout.read text = some t ↔ form' = form ∧ t = m.timestamp := by
  rw [Layout.read, Option.bind_eq_some_iff]
  simp only [Scan.whole_eq_some, hw.scan_eq_some_iff h, Timestamp.checked]
  constructor
  · rintro ⟨t', ⟨rfl, rfl⟩, ht⟩
    rw [if_pos h.isValid] at ht
    cases ht
    exact ⟨rfl, rfl⟩
  · rintro ⟨rfl, rfl⟩
    exact ⟨_, ⟨rfl, rfl⟩, if_pos h.isValid⟩

omit h in
theorem colon_mem : ':' ∈ text := by
  cases hw
  simp [Moment.minuteText]

theorem readMailDate_of_moment : readMailDate text = none := by
  cases hw with
  | mk hp hz =>
    obtain ⟨hyear, -⟩ := h.isFixed
    have hdigit := hyear.isDigit
    match hdigits : Date.padded 4 m.date.year.natAbs, hyear.1 with
    | [a, b, c, d], _ =>
      rw [hdigits] at hdigit
      rw [Moment.minuteText, hdigits]
      exact readMailDate_eq_none (hdigit a (by simp)) (hdigit b (by simp)) (hdigit c (by simp)) _

/-- **Every reading that accepts a moment finds the moment.** -/
theorem eq_timestamp_of_reads {read : List Char → Option Timestamp} (hread : read ∈ readings)
    {t : Timestamp} (ht : read text = some t) : t = m.timestamp := by
  simp only [readings, ← map_layout_timeForms, List.mem_append, List.mem_cons, List.not_mem_nil,
    or_false, List.mem_map] at hread
  obtain ((rfl | rfl) | ⟨layout, ⟨form', -, rfl⟩, rfl⟩) | rfl := hread
  · obtain ⟨t', hscan, hchecked⟩ := Option.bind_eq_some_iff.mp ht
    unfold Timestamp.checked at hchecked
    split_ifs at hchecked
    cases hchecked
    exact timestamp_eq_some h hw (Scan.whole_eq_some.mp hscan)
  · rw [readMailDate_of_moment h hw] at ht
    cases ht
  · exact ((read_layout h hw).mp ht).2
  · obtain ⟨date, hdate, -⟩ := Option.map_eq_some_iff.mp ht
    rw [readDate_eq_none (colon_mem hw)] at hdate
    cases hdate

theorem exists_reads : ∃ read ∈ readings, read text = some m.timestamp := by
  by_cases hform : form = ⟨.letter, .second, .letter⟩
  · subst hform
    exact ⟨readTimestamp, by simp [readings], readTimestamp_of_letters h hw⟩
  · have hmem := List.mem_map_of_mem (f := Form.layout) (mem_timeForms hform)
    rw [map_layout_timeForms] at hmem
    refine ⟨form.layout.read, ?_, (read_layout h hw).mpr ⟨rfl, rfl⟩⟩
    rw [readings, List.mem_append, List.mem_append]
    exact .inl (.inr (List.mem_map_of_mem hmem))

theorem readInstantTrimmed_of_time :
    readInstantTrimmed text = some (m.millis m.date.dayNumber) := by
  have hall : ∀ read ∈ readings, ∀ t, read text = some t → t = m.timestamp :=
    fun read hread t ht => eq_timestamp_of_reads h hw hread ht
  rw [readInstantTrimmed, findSome?_eq_some (exists_reads h hw) hall, Option.map_some,
    m.millis_timestamp]

end Times

/-! ## Dates alone -/

theorem readInstantTrimmed_of_date {date : Date} (h : (Moment.midnight date).Exists) {c : Char}
    (hc : c = '-' ∨ c = '/') {month day : List Char} (hmonth : IsShort month date.month)
    (hday : IsShort day date.day) :
    readInstantTrimmed (Date.padded 4 date.year.natAbs ++ c :: (month ++ c :: day)) =
      some ((Moment.midnight date).millis date.dayNumber) := by
  have hyear : IsYear (Date.padded 4 date.year.natAbs) date.year.natAbs := .plain h.isFixed.1
  have hbare := IsBareDate.mk hc hyear (.day hmonth hday)
  have hdate : (⟨date.year.natAbs, date.month, date.day⟩ : Date) = date := h.date_eq
  rw [hdate] at hbare
  have hread := readDate_eq_some_iff.mpr ⟨hbare, h.isValid_date⟩
  rw [readInstantTrimmed_of_colon_notMem hbare.colon_notMem, hread, Option.map_some]
  simp [Moment.midnight, Moment.millis]

/-! ## Blanks around -/

theorem trim_of_back {front back : List Char} {width n : Nat} (hne : back ≠ [])
    (hback : ∀ c ∈ back, isBlank c = false) :
    trim (Date.padded width n ++ front ++ back) = Date.padded width n ++ front ++ back := by
  apply trim_eq_self
  · intro c hc
    rw [List.append_assoc, List.head?_append_of_ne_nil _ (padded_ne_nil width n)] at hc
    exact not_isBlank (isDigit_padded c (List.mem_of_head? hc))
  · intro c hc
    rw [List.getLast?_append_of_ne_nil _ hne] at hc
    exact hback c (List.mem_of_getLast? hc)

theorem Precision.Writes.not_isBlank {precision : Precision} {second milli : Nat}
    {text : List Char} (h : precision.Writes second milli text) :
    ∀ c ∈ text, isBlank c = false := by
  intro c hc
  cases h with
  | minute => cases hc
  | second =>
    obtain rfl | hc := List.mem_cons.mp hc
    · rfl
    · exact Calendar.not_isBlank (isDigit_padded c hc)
  | fraction =>
    simp only [List.mem_cons, List.mem_append] at hc
    obtain rfl | hc | rfl | hc := hc
    · rfl
    · exact Calendar.not_isBlank (isDigit_padded c hc)
    · rfl
    · exact Calendar.not_isBlank (isDigit_padded c hc)

theorem Zone.Writes.not_isBlank {zone : Zone} {offset : Int} {text : List Char}
    (h : zone.Writes offset text) : ∀ c ∈ text, isBlank c = false := by
  intro c hc
  cases h with
  | offset n hsign hbetween =>
    simp only [List.mem_cons, List.mem_append] at hc
    obtain rfl | hc | hc | hc := hc
    · obtain ⟨rfl, -⟩ | ⟨rfl, -⟩ := hsign <;> rfl
    · exact Calendar.not_isBlank (isDigit_padded c hc)
    · obtain rfl | rfl := hbetween
      · cases hc
      · obtain rfl := List.mem_singleton.mp hc
        rfl
    · exact Calendar.not_isBlank (isDigit_padded c hc)
  | letter =>
    obtain rfl := List.mem_singleton.mp hc
    rfl
  | bare => cases hc

theorem trim_of_writes {m : Moment} {text : List Char} (h : m.Writes text) : trim text = text := by
  cases h with
  | @time m form text hw =>
    cases hw with
    | @mk seconds zone hp hz =>
      have hsplit : m.minuteText form.separator (seconds ++ zone) =
          Date.padded 4 m.date.year.natAbs ++ '-' :: (Date.padded 2 m.date.month ++
            '-' :: (Date.padded 2 m.date.day ++ form.separator.char :: (Date.padded 2 m.hour ++
              [':']))) ++ (Date.padded 2 m.minute ++ (seconds ++ zone)) := by
        simp [Moment.minuteText]
      rw [hsplit]
      refine trim_of_back (by simp [padded_ne_nil]) fun c hc => ?_
      simp only [List.mem_append] at hc
      obtain hc | hc | hc := hc
      · exact not_isBlank (isDigit_padded c hc)
      · exact hp.not_isBlank c hc
      · exact hz.not_isBlank c hc
  | @date date c month day hc hmonth hday =>
    have hsplit : Date.padded 4 date.year.natAbs ++ c :: (month ++ c :: day) =
        Date.padded 4 date.year.natAbs ++ c :: (month ++ [c]) ++ day := by
      simp
    rw [hsplit]
    obtain rfl | rfl := hday <;>
      exact trim_of_back (padded_ne_nil _ _) fun c hc => not_isBlank (isDigit_padded c hc)

/-- **Whichever way a moment is written, its instant is read**, with or without blanks around. -/
theorem readInstant_of_writes {m : Moment} (h : m.Exists) {before text after : List Char}
    (hw : m.Writes text) (hbefore : ∀ c ∈ before, isBlank c = true)
    (hafter : ∀ c ∈ after, isBlank c = true) :
    ∃ day, IsDay m.date day ∧
      readInstant (String.ofList (before ++ text ++ after)) = some (m.millis day) := by
  refine ⟨m.date.dayNumber, isDay_dayNumber h.date_exists, ?_⟩
  rw [readInstant, String.toList_ofList, trim_blanks hbefore hafter, trim_of_writes hw]
  cases hw with
  | time hw => exact readInstantTrimmed_of_time h hw
  | date hc hmonth hday =>
    obtain ⟨hm, hm', -, hd⟩ := h.date_exists
    have hdays := hd.trans (Date.daysInMonth_bounds _ hm hm').2
    exact readInstantTrimmed_of_date h hc
      (isShort_padded (hm'.trans_lt (by decide)) hmonth)
      (isShort_padded (hdays.trans_lt (by decide)) hday)

/-- The first day of year zero, which is still a day of the year before in UTC. -/
theorem readInstant_of_writes_before_year_zero :
    let m : Moment := ⟨⟨0, 1, 1⟩, 0, 0, 0, 250, 1439⟩
    m.Exists ∧ m.Writes "0000-01-01 00:00:00.250+2359".toList ∧
      (∀ c ∈ [' ', '\t'], isBlank c = true) ∧
      readInstant " \t0000-01-01 00:00:00.250+2359\t " = some (-62167305539750) := by
  have hm : Moment.Exists ⟨⟨0, 1, 1⟩, 0, 0, 0, 250, 1439⟩ :=
    ⟨⟨by decide, by decide, by decide, by decide⟩, by decide, by decide, by decide, by decide,
      by decide, by decide, by decide⟩
  have hp : Precision.second.Writes 0 250 ":00.250".toList := .fraction 0 250
  have hz : Zone.offset.Writes 1439 "+2359".toList := .offset 1439 (.inl ⟨rfl, rfl⟩) (.inl rfl)
  have hw : Moment.Writes ⟨⟨0, 1, 1⟩, 0, 0, 0, 250, 1439⟩ "0000-01-01 00:00:00.250+2359".toList :=
    .time (@Form.Writes.mk ⟨.blank, .second, .offset⟩ ⟨⟨0, 1, 1⟩, 0, 0, 0, 250, 1439⟩ _ _ hp hz)
  have hblanks : ∀ c ∈ [' ', '\t'], isBlank c = true :=
    List.forall_mem_cons.mpr ⟨rfl, List.forall_mem_singleton.mpr rfl⟩
  have hblanks' : ∀ c ∈ ['\t', ' '], isBlank c = true :=
    List.forall_mem_cons.mpr ⟨rfl, List.forall_mem_singleton.mpr rfl⟩
  obtain ⟨day, hday, hread⟩ := readInstant_of_writes hm hw hblanks hblanks'
  obtain rfl := (isDay_iff hm.date_exists).mp hday
  exact ⟨hm, hw, hblanks, hread⟩

end Weblog.Calendar
