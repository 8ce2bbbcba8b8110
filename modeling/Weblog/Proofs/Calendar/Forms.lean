import Mathlib.Tactic.Common
import Weblog.Proofs.Calendar.Days
import Weblog.Proofs.Calendar.WrittenParts
/-!
# Forms of dates with a time

A date with a time is written in a form: with a letter or a blank in front of the time, with or
without seconds, and with an offset, the letter of UTC or nothing behind it. Every layout reads the
texts of one form and no others, so the layouts can be tried in any order.

* `Moment`, `Moment.Exists`: a date, a time of day and an offset.
* `Form`, `Form.layout`, `map_layout_timeForms`: the layouts, one for each form but one.
* `Precision.Writes`, `Zone.Writes`: how seconds and offsets are written.
* `Form.Writes`, `Form.Writes.scan_eq_some_iff`: **a layout reads the texts of its own form only**.
-/

namespace Weblog.Calendar

open Text Number

/-! ## Moments and forms -/

/-- A date and a time of day, `offset` minutes ahead of UTC. -/
structure Moment where
  date : Date
  hour : Nat
  minute : Nat
  second : Nat
  milli : Nat
  offset : Int

namespace Moment

/-- Whether a moment exists. Its year has at most four digits. -/
structure Exists (m : Moment) : Prop where
  date_exists : m.date.Exists
  year_nonneg : 0 ≤ m.date.year
  year_le : m.date.year ≤ 9999
  hour_lt : m.hour < 24
  minute_lt : m.minute < 60
  second_lt : m.second < 60
  milli_lt : m.milli < 1000
  offset_lt : m.offset.natAbs < 24 * 60

def timestamp (m : Moment) : Timestamp :=
  ⟨m.date, m.hour, m.minute, m.second, m.milli * 1000000, 60 * m.offset⟩

end Moment

/-- What stands between a date and a time. -/
inductive Separator
  | letter
  | blank
  deriving DecidableEq

inductive Precision
  | minute
  | second
  deriving DecidableEq

/-- What stands behind a time. -/
inductive Zone
  | offset
  | letter
  | bare
  deriving DecidableEq

structure Form where
  separator : Separator
  precision : Precision
  zone : Zone
  deriving DecidableEq

namespace Separator

def char : Separator → Char
  | letter => 'T'
  | blank => ' '

def layout : Separator → Layout
  | letter => letterT
  | blank => [.blanks]

end Separator

/-- Seconds and milliseconds as they are written behind the minutes. A fraction may be left out if
it is zero, and the seconds as well if they are zero too. -/
inductive Precision.Writes : Precision → Nat → Nat → List Char → Prop
  | minute : Writes .minute 0 0 []
  | second (second : Nat) : Writes .second second 0 (':' :: Date.padded 2 second)
  | fraction (second milli : Nat) : Writes .second second milli
      (':' :: (Date.padded 2 second ++ '.' :: Date.padded 3 milli))

def Precision.layout : Precision → Layout
  | minute => []
  | second => [.literal ':', .second, .fraction]

/-- An offset in minutes as it is written behind the time: as a sign, hours and minutes, with or
without a colon. -/
inductive Zone.Writes : Zone → Int → List Char → Prop
  | offset {sign : Char} {unit : Int} {between : List Char} (n : Nat) :
      sign = '+' ∧ unit = 1 ∨ sign = '-' ∧ unit = -1 → between = [] ∨ between = [':'] →
      Writes .offset (unit * n)
        (sign :: (Date.padded 2 (n / 60) ++ (between ++ Date.padded 2 (n % 60))))
  | letter : Writes .letter 0 ['Z']
  | bare : Writes .bare 0 []

def Zone.layout : Zone → Layout
  | offset => [.offset]
  | letter => letterZ
  | bare => []

def Form.layout (form : Form) : Layout :=
  dateLayout ++ form.separator.layout ++ (minuteLayout ++ form.precision.layout) ++ form.zone.layout

/-- A moment with its time, up to the minutes. -/
def Moment.minuteText (m : Moment) (separator : Separator) (rest : List Char) : List Char :=
  Date.padded 4 m.date.year.natAbs ++ '-' :: (Date.padded 2 m.date.month ++
    '-' :: (Date.padded 2 m.date.day ++ separator.char :: (Date.padded 2 m.hour ++
      ':' :: (Date.padded 2 m.minute ++ rest))))

/-- A moment as it is written in a form. -/
inductive Form.Writes (form : Form) (m : Moment) : List Char → Prop
  | mk {seconds zone : List Char} : form.precision.Writes m.second m.milli seconds →
      form.zone.Writes m.offset zone →
      Writes form m (m.minuteText form.separator (seconds ++ zone))

/-- The forms that have a layout, in the order of the layouts. -/
def timeForms : List Form := [
  ⟨.blank, .second, .offset⟩, ⟨.letter, .second, .offset⟩, ⟨.letter, .minute, .offset⟩,
  ⟨.blank, .minute, .offset⟩, ⟨.letter, .second, .bare⟩, ⟨.letter, .minute, .bare⟩,
  ⟨.letter, .minute, .letter⟩, ⟨.blank, .second, .bare⟩, ⟨.blank, .second, .letter⟩,
  ⟨.blank, .minute, .bare⟩, ⟨.blank, .minute, .letter⟩]

theorem map_layout_timeForms : timeForms.map Form.layout = offsetLayouts ++ utcLayouts := rfl

/-- The form without a layout is a timestamp of RFC 3339. -/
theorem mem_timeForms {form : Form} (h : form ≠ ⟨.letter, .second, .letter⟩) :
    form ∈ timeForms := by
  obtain ⟨separator, precision, zone⟩ := form
  cases separator <;> cases precision <;> cases zone <;> revert h <;> decide

/-! ## Offsets -/

section Offsets

variable {sign : Char} {unit : Int} {hours minutes : List Char} {h mi : Nat}

theorem offset_eq {minus : Bool} {between : Scan Unit}
    (hsign : sign = '+' ∧ unit = 1 ∨ sign = '-' ∧ unit = -1) (hh : IsFixed 2 hours h)
    (rest : List Char) : Scan.offset minus between (sign :: (hours ++ rest)) =
      (between rest).bind fun p => (Scan.number 2 2 p.2).bind fun q =>
        if q.1 < 60 then some (unit * (3600 * h + 60 * q.1), q.2) else none := by
  have hstart : Scan.sign minus (sign :: (hours ++ rest)) = some (unit, hours ++ rest) := by
    obtain ⟨rfl, rfl⟩ | ⟨rfl, rfl⟩ := hsign <;> rfl
  simp only [Scan.offset, Scan.bind_eq, hstart, Option.bind_some, hh.number le_rfl]
  congr 1
  funext p
  congr 1
  funext q
  split_ifs <;> rfl

variable (hsign : sign = '+' ∧ unit = 1 ∨ sign = '-' ∧ unit = -1) (hh : IsFixed 2 hours h)
  (hmi : IsFixed 2 minutes mi) (hlt : mi < 60)

include hsign hh hmi hlt

theorem read_offset {between : List Char} (hbetween : between = [] ∨ between = [':'])
    (t : Timestamp) : Part.read t .offset (sign :: (hours ++ (between ++ minutes))) =
      some ({ t with offset := unit * (3600 * h + 60 * mi) }, []) := by
  have hstart : trimStart (sign :: (hours ++ (between ++ minutes))) =
      sign :: (hours ++ (between ++ minutes)) := by
    apply trimStart_eq_self
    obtain ⟨rfl, -⟩ | ⟨rfl, -⟩ := hsign <;> rfl
  have hcolons : Scan.colonsAndBlanks (between ++ minutes) = some ((), minutes) := by
    have hdigits : minutes.dropWhile (fun c => c == ':' || isBlank c) = minutes := by
      obtain ⟨d, ds, rfl, hd⟩ := hmi.exists_cons
      have hcolon : d ≠ ':' := by
        rintro rfl
        cases hd
      exact List.dropWhile_cons_of_neg (by simp [hcolon, not_isBlank hd])
    obtain rfl | rfl := hbetween <;> simp [Scan.colonsAndBlanks, hdigits]
  simp only [Part.read, Scan.bind_eq, Scan.blanks, Option.bind_some, hstart, offset_eq hsign hh,
    hcolons, hmi.number_self, if_pos hlt, Scan.pure_eq]

theorem offsetOrZ_offset {between : List Char} (hbetween : between = [] ∨ between = [':']) :
    offsetOrZ (sign :: (hours ++ (between ++ minutes))) =
      if between = [] then none else some (unit * (3600 * h + 60 * mi), []) := by
  have hoffset : offsetOrZ (sign :: (hours ++ (between ++ minutes))) =
      Scan.offset true (Scan.literal ':') (sign :: (hours ++ (between ++ minutes))) := by
    obtain ⟨rfl, -⟩ | ⟨rfl, -⟩ := hsign <;> rfl
  rw [hoffset, offset_eq hsign hh]
  obtain rfl | rfl := hbetween
  · -- the minutes begin with a digit
    obtain ⟨d, ds, rfl, hd⟩ := hmi.exists_cons
    have hcolon : d ≠ ':' := by
      rintro rfl
      cases hd
    simp [Scan.literal_eq, hcolon]
  · simp [Scan.literal_eq, hmi.number_self, hlt]

end Offsets

/-! ## What stands behind the time -/

theorem Zone.Writes.head? {zone : Zone} {offset : Int} {text : List Char}
    (h : zone.Writes offset text) : ∀ c, text.head? = some c → c = 'Z' ∨ c = '+' ∨ c = '-' := by
  intro c hc
  cases h with
  | offset n hsign hbetween =>
    cases hc
    obtain ⟨rfl, -⟩ | ⟨rfl, -⟩ := hsign <;> simp
  | letter =>
    cases hc
    simp
  | bare => cases hc

theorem Zone.Writes.ends {zone : Zone} {offset : Int} {text : List Char}
    (h : zone.Writes offset text) :
    (∀ c, text.head? = some c → c.isDigit = false) ∧ text.head? ≠ some '.' := by
  constructor
  · intro c hc
    obtain rfl | rfl | rfl := h.head? c hc <;> rfl
  · intro hc
    simpa using h.head? '.' hc

theorem isFixed_offset {unit : Int} {n : Nat} (hunit : unit = 1 ∨ unit = -1)
    (hlt : (unit * n).natAbs < 1440) :
    IsFixed 2 (Date.padded 2 (n / 60)) (n / 60) ∧ IsFixed 2 (Date.padded 2 (n % 60)) (n % 60) ∧
      unit * (3600 * (n / 60 : Nat) + 60 * (n % 60 : Nat)) = 60 * (unit * n) := by
  have hn : n < 1440 := by
    obtain rfl | rfl := hunit <;> omega
  refine ⟨isFixed_padded Nat.two_pos (by omega), isFixed_padded Nat.two_pos (by omega), ?_⟩
  obtain rfl | rfl := hunit <;> omega

theorem Zone.Writes.scan_eq_some_iff {zone zone' : Zone} {offset : Int} {text : List Char}
    (h : zone.Writes offset text) (hlt : offset.natAbs < 1440) {t u : Timestamp}
    (ht : t.offset = 0) : zone'.layout.scan t text = some (u, []) ↔
      zone' = zone ∧ u = { t with offset := 60 * offset } := by
  have hsame : { t with offset := 0 } = t := by rw [← ht]
  cases h with
  | offset n hsign hbetween =>
    obtain ⟨hh, hmi, hseconds⟩ := isFixed_offset (hsign.imp And.right And.right) hlt
    have hread := read_offset hsign hh hmi (Nat.mod_lt n (by decide)) hbetween t
    rw [hseconds] at hread
    cases zone' with
    | offset =>
      simp [Zone.layout, Layout.scan_cons, Layout.scan_nil, hread, eq_comm]
    | letter =>
      obtain ⟨rfl, -⟩ | ⟨rfl, -⟩ := hsign <;>
        simp [Zone.layout, letterZ, Layout.scan_cons, read_literal]
    | bare => simp [Zone.layout, Layout.scan_nil]
  | letter =>
    have hnone : Part.read t .offset ['Z'] = none := rfl
    cases zone' <;> simp [Zone.layout, letterZ, Layout.scan_cons, Layout.scan_nil, read_literal,
      hnone, hsame, eq_comm]
  | bare =>
    have hnone : Part.read t .offset [] = none := rfl
    have hnone' : Part.read t (.literal 'Z') [] = none := rfl
    cases zone' <;> simp [Zone.layout, letterZ, Layout.scan_cons, Layout.scan_nil, hnone, hnone',
      hsame, eq_comm]

/-! ## Seconds -/

/-- What stands behind the time does not begin with a colon, so seconds are not passed over. -/
theorem Zone.scan_colon (zone : Zone) (t u : Timestamp) (rest : List Char) :
    zone.layout.scan t (':' :: rest) ≠ some (u, []) := by
  cases zone with
  | offset => exact nofun
  | letter => exact nofun
  | bare => exact nofun

theorem Precision.Writes.scan {precision : Precision} {second milli : Nat} {text : List Char}
    (h : precision.Writes second milli text) (hsecond : second < 60) (hmilli : milli < 1000)
    {rest : List Char}
    (hrest : (∀ c, rest.head? = some c → c.isDigit = false) ∧ rest.head? ≠ some '.')
    {t : Timestamp} (ht : t.second = 0 ∧ t.nanosecond = 0) :
    precision.layout.scan t (text ++ rest) =
      some ({ t with second := second, nanosecond := milli * 1000000 }, rest) := by
  obtain ⟨date, hour, minute, _, _, offset⟩ := t
  obtain ⟨rfl, rfl⟩ := ht
  have hs := isFixed_padded Nat.two_pos (show second < 10 ^ 2 by omega)
  cases h with
  | minute => rfl
  | second => simp [layout, Layout.scan_cons, Layout.scan_nil, read_literal, read_second _ _ hs,
      read_fraction _ _ (optionalFraction_of_head? hrest.2)]
  | fraction =>
    have hms := isFixed_padded (by decide : 0 < 3) (show milli < 10 ^ 3 by omega)
    simp [layout, Layout.scan_cons, Layout.scan_nil, read_literal, read_second _ _ hs,
      read_fraction _ _ (optionalFraction_eq hms hrest.1)]

/-! ## Layouts -/

theorem Moment.Exists.isFixed {m : Moment} (h : m.Exists) :
    IsFixed 4 (Date.padded 4 m.date.year.natAbs) m.date.year.natAbs ∧
      IsFixed 2 (Date.padded 2 m.date.month) m.date.month ∧
      IsFixed 2 (Date.padded 2 m.date.day) m.date.day ∧
      IsFixed 2 (Date.padded 2 m.hour) m.hour ∧ IsFixed 2 (Date.padded 2 m.minute) m.minute := by
  obtain ⟨⟨hm, hm', hd, hd'⟩, hy, hy', hhour, hminute, -⟩ := h
  have hdays := Date.daysInMonth_bounds m.date.year hm hm'
  exact ⟨isFixed_padded (by decide) (by omega), isFixed_padded (by decide) (by omega),
    isFixed_padded (by decide) (by omega), isFixed_padded (by decide) (by omega),
    isFixed_padded (by decide) (by omega)⟩

theorem scan_tail_eq_some_iff {precision precision' : Precision} {zone zone' : Zone}
    {second milli : Nat} {offset : Int} {seconds text : List Char}
    (hp : precision.Writes second milli seconds) (hsecond : second < 60) (hmilli : milli < 1000)
    (hz : zone.Writes offset text) (hoffset : offset.natAbs < 1440) {t u : Timestamp}
    (ht : t.second = 0 ∧ t.nanosecond = 0) (ht' : t.offset = 0) :
    Layout.scan (precision'.layout ++ zone'.layout) t (seconds ++ text) = some (u, []) ↔
      (precision' = precision ∧ zone' = zone) ∧ u = { t with
        second := second, nanosecond := milli * 1000000, offset := 60 * offset } := by
  by_cases hsame : precision' = precision
  · subst hsame
    rw [Layout.scan_append, hp.scan hsecond hmilli hz.ends ht, Option.bind_some]
    dsimp only
    rw [Zone.Writes.scan_eq_some_iff hz hoffset (by exact ht')]
    simp
  · simp only [hsame, false_and, iff_false]
    cases hp with
    | minute =>
      cases precision' with
      | minute => exact absurd rfl hsame
      | second =>
        cases text with
        | nil => exact nofun
        | cons c text =>
          have hcolon : c ≠ ':' := by
            obtain rfl | rfl | rfl := hz.head? c rfl <;> decide
          simp [Precision.layout, Layout.scan_cons, read_literal, hcolon]
    | second | fraction =>
      cases precision' with
      | minute => exact zone'.scan_colon t u _
      | second => exact absurd rfl hsame

theorem Moment.Exists.date_eq {m : Moment} (h : m.Exists) :
    (⟨m.date.year.natAbs, m.date.month, m.date.day⟩ : Date) = m.date := by
  rw [Int.natAbs_of_nonneg h.year_nonneg]

theorem scan_separator {separator separator' : Separator} {hour minute : List Char} {h mi : Nat}
    (hh : IsFixed 2 hour h) (hmi : IsFixed 2 minute mi) (t : Timestamp) (rest : List Char) :
    Layout.scan (separator'.layout ++ minuteLayout) t
        (separator.char :: (hour ++ ':' :: (minute ++ rest))) =
      if separator' = separator then some ({ t with hour := h, minute := mi }, rest) else none := by
  have hblanks : ∀ s, Layout.scan [.blanks] t s = some (t, trimStart s) := fun _ => rfl
  rw [Layout.scan_append]
  cases separator' with
  | letter =>
    cases separator with
    | letter =>
      simp [Separator.layout, Separator.char, letterT, Layout.scan_cons, Layout.scan_nil,
        read_literal, scan_minuteLayout t rest hh hmi]
    | blank => rfl
  | blank =>
    rw [Separator.layout, hblanks, Option.bind_some]
    cases separator with
    | letter => rfl
    | blank =>
      have htrim : trimStart (' ' :: (hour ++ ':' :: (minute ++ rest))) =
          hour ++ ':' :: (minute ++ rest) := hh.trimStart_append _
      rw [Separator.char, htrim, scan_minuteLayout t rest hh hmi]
      rfl

/-- **A layout reads the texts of its own form only.** -/
theorem Form.Writes.scan_eq_some_iff {form form' : Form} {m : Moment} (h : m.Exists)
    {text : List Char} (hw : form.Writes m text) {u : Timestamp} :
    form'.layout.scan (.midnight ⟨0, 1, 1⟩) text = some (u, []) ↔
      form' = form ∧ u = m.timestamp := by
  obtain ⟨separator', precision', zone'⟩ := form'
  cases hw with
  | @mk seconds zone hp hz =>
    have hpieces : Form.layout ⟨separator', precision', zone'⟩ =
        dateLayout ++ ((separator'.layout ++ minuteLayout) ++
          (precision'.layout ++ zone'.layout)) := by
      simp [Form.layout]
    obtain ⟨hyear, hmonth, hday, hhour, hminute⟩ := h.isFixed
    rw [hpieces, Layout.scan_append, Moment.minuteText, scan_dateLayout _ _ hyear hmonth hday,
      Option.bind_some, h.date_eq, Layout.scan_append, scan_separator hhour hminute]
    by_cases hsame : separator' = form.separator
    · rw [if_pos hsame, Option.bind_some]
      dsimp only
      rw [scan_tail_eq_some_iff hp h.second_lt h.milli_lt hz h.offset_lt ⟨rfl, rfl⟩ rfl]
      obtain ⟨separator, precision, zone⟩ := form
      simp [hsame, Moment.timestamp]
    · rw [if_neg hsame, Option.bind_none]
      constructor
      · exact nofun
      · rintro ⟨rfl, -⟩
        exact absurd rfl hsame

end Weblog.Calendar
