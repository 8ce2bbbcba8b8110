import Mathlib.Tactic.Common
import Weblog.Proofs.Calendar.Beginnings
import Weblog.Proofs.Calendar.Days
/-!
# What readings leave and need

A reading leaves the end of the text that it is given. So a character that it reads literally,
behind whatever else, stands in the text. All dates with a time of day need a colon, and a text
without a colon denotes an instant only if it is a date alone.

* `Scan.LeavesEnd`, `Scan.Needs`: what a reading leaves and which character it needs;
  `Scan.LeavesEnd.bind`, `Scan.Needs.after`: **readings in a row**.
* `needs_of_mem_layout`: a layout needs the characters that it lists.
* `colon_mem_of_reads`: **what is read with a time of day has a colon**.
* **`readInstant_without_colon`**: which texts without a colon denote an instant, and which.
-/

namespace Weblog.Calendar

open Text Number

/-! ## What readings need -/

namespace Scan

variable {α β : Type}

/-- Whether a reading leaves the end of the text. -/
def LeavesEnd (x : Scan α) : Prop := ∀ s a rest, x s = some (a, rest) → rest <:+ s

/-- Whether a reading succeeds only on texts with a given character. -/
def Needs (c : Char) (x : Scan α) : Prop := ∀ s p, x s = some p → c ∈ s

theorem leavesEnd_pure (a : α) : LeavesEnd (pure a) := by
  rintro s b rest h
  cases h
  exact List.suffix_rfl

theorem LeavesEnd.bind {x : Scan α} {f : α → Scan β} (hx : LeavesEnd x)
    (hf : ∀ a, LeavesEnd (f a)) : LeavesEnd (x >>= f) := by
  intro s b rest h
  obtain ⟨a, s', hs', hrest⟩ := bind_eq_some.mp h
  exact (hf a s' b rest hrest).trans (hx s a s' hs')

theorem Needs.bind {c : Char} {x : Scan α} (hx : Needs c x) (f : α → Scan β) :
    Needs c (x >>= f) := by
  intro s p h
  obtain ⟨a, s', hs', -⟩ := bind_eq_some.mp h
  exact hx s _ hs'

theorem Needs.after {c : Char} {x : Scan α} {f : α → Scan β} (hx : LeavesEnd x)
    (hf : ∀ a, Needs c (f a)) : Needs c (x >>= f) := by
  intro s p h
  obtain ⟨a, s', hs', hp⟩ := bind_eq_some.mp h
  exact (hx s a s' hs').subset (hf a s' p hp)

theorem Needs.whole {c : Char} {x : Scan α} (hx : Needs c x) {text : List Char} {a : α}
    (h : Scan.whole x text = some a) : c ∈ text := hx text _ (whole_eq_some.mp h)

theorem needs_literal (c : Char) : Needs c (literal c) := by
  rintro s ⟨u, rest⟩ h
  rw [literal_eq_some.mp h]
  exact List.mem_cons_self

/-! ## What readings leave -/

theorem leavesEnd_literal (c : Char) : LeavesEnd (literal c) := by
  intro s u rest h
  rw [literal_eq_some.mp h]
  exact List.suffix_cons c rest

theorem leavesEnd_blanks : LeavesEnd blanks := by
  rintro s u rest h
  cases h
  exact List.dropWhile_suffix _

theorem leavesEnd_someBlanks : LeavesEnd someBlanks := by
  intro s u rest h
  unfold someBlanks at h
  split at h
  · cases h
  · split_ifs at h
    cases h
    exact List.dropWhile_suffix _

theorem leavesEnd_number (least most : Nat) : LeavesEnd (number least most) := by
  intro s n rest h
  obtain ⟨digits, rfl, -⟩ := number_eq_some h
  exact List.suffix_append digits rest

theorem leavesEnd_longNumber (least : Nat) : LeavesEnd (longNumber least) := by
  intro s n rest h
  unfold longNumber at h
  dsimp only at h
  split_ifs at h
  cases h
  exact List.dropWhile_suffix _

theorem leavesEnd_optionalFraction : LeavesEnd optionalFraction := by
  intro s n rest h
  unfold optionalFraction at h
  split at h
  · unfold fraction at h
    dsimp only at h
    split_ifs at h
    cases h
    exact (List.dropWhile_suffix _).trans (List.suffix_cons _ _)
  · cases h
    exact List.suffix_rfl

theorem leavesEnd_sign (minus : Bool) : LeavesEnd (sign minus) := by
  intro s n rest h
  unfold sign at h
  split at h
  · cases h
  · split_ifs at h <;> cases h <;> exact List.suffix_cons _ _

theorem leavesEnd_offset (minus : Bool) {between : Scan Unit} (h : LeavesEnd between) :
    LeavesEnd (offset minus between) := by
  refine (leavesEnd_sign minus).bind fun sign => (leavesEnd_number 2 2).bind fun hours =>
    h.bind fun _ => (leavesEnd_number 2 2).bind fun minutes => ?_
  split_ifs
  · exact leavesEnd_pure _
  · exact nofun

theorem leavesEnd_colonsAndBlanks : LeavesEnd colonsAndBlanks := by
  rintro s u rest h
  cases h
  exact List.dropWhile_suffix _

theorem leavesEnd_name (names : List String) : LeavesEnd (name names) := by
  intro s n rest h
  obtain ⟨place, -, hrest⟩ := Option.map_eq_some_iff.mp h
  cases hrest
  exact List.drop_suffix 3 s

end Scan

open Scan

theorem leavesEnd_separator : LeavesEnd separator := by
  intro s u rest h
  unfold separator at h
  split at h
  · split_ifs at h
    cases h
    exact List.suffix_cons _ _
  · cases h

theorem leavesEnd_optionalWeekday : LeavesEnd optionalWeekday := by
  intro s day rest h
  unfold optionalWeekday at h
  split at h
  · rename_i place behind hname
    cases h
    exact (List.suffix_cons _ _).trans (leavesEnd_name _ s _ _ hname)
  · cases h
  · cases h
    exact List.suffix_rfl

theorem leavesEnd_mailYear : LeavesEnd mailYear := by
  refine (leavesEnd_longNumber 2).bind fun p => ?_
  obtain ⟨n, digits⟩ := p
  dsimp only
  split_ifs <;> exact leavesEnd_pure _

theorem leavesEnd_yearNumber : LeavesEnd Part.yearNumber := by
  refine leavesEnd_blanks.bind fun _ => ?_
  intro s year rest h
  obtain ⟨_, _, hget, hsign⟩ := bind_eq_some.mp h
  cases hget
  split at hsign
  · rw [← dropWhile_of_signedYear (fun n => -n) hsign]
    exact (List.dropWhile_suffix _).trans (List.suffix_cons _ _)
  · rw [← dropWhile_of_signedYear (fun n => n) hsign]
    exact (List.dropWhile_suffix _).trans (List.suffix_cons _ _)
  · exact (leavesEnd_number 1 4).bind (fun _ => leavesEnd_pure _) _ _ _ hsign

theorem leavesEnd_shortNumber : LeavesEnd Part.shortNumber :=
  leavesEnd_blanks.bind fun _ => leavesEnd_number 1 2

theorem leavesEnd_part (t : Timestamp) (part : Part) : LeavesEnd (part.read t) := by
  cases part with
  | year => exact leavesEnd_yearNumber.bind fun _ => leavesEnd_pure _
  | month | day | hour | minute | second =>
    exact leavesEnd_shortNumber.bind fun _ => leavesEnd_pure _
  | fraction => exact leavesEnd_optionalFraction.bind fun _ => leavesEnd_pure _
  | offset =>
    exact leavesEnd_blanks.bind fun _ =>
      (leavesEnd_offset true leavesEnd_colonsAndBlanks).bind fun _ => leavesEnd_pure _
  | blanks => exact leavesEnd_blanks.bind fun _ => leavesEnd_pure _
  | literal c => exact (leavesEnd_literal c).bind fun _ => leavesEnd_pure _

theorem needs_of_mem_layout {c : Char} {layout : Layout} (h : Part.literal c ∈ layout)
    (t : Timestamp) : Needs c (layout.scan t) := by
  induction layout generalizing t with
  | nil => cases h
  | cons part layout ih =>
    rw [Layout.scan, List.foldlM_cons]
    obtain rfl | hmem := List.mem_cons.mp h
    · exact ((needs_literal c).bind _).bind _
    · exact .after (leavesEnd_part t part) fun t' => ih hmem t'

theorem needs_timestamp : Needs ':' timestamp := by
  refine .after (leavesEnd_number 4 4) fun _ => .after (leavesEnd_literal '-') fun _ =>
    .after (leavesEnd_number 2 2) fun _ => .after (leavesEnd_literal '-') fun _ =>
    .after (leavesEnd_number 2 2) fun _ => .after leavesEnd_separator fun _ =>
    .after (leavesEnd_number 2 2) fun _ => (needs_literal ':').bind _

theorem needs_mailDate : Needs ':' mailDate := by
  refine .after leavesEnd_blanks fun _ => .after leavesEnd_optionalWeekday fun _ =>
    .after leavesEnd_blanks fun _ => .after (leavesEnd_number 1 2) fun _ =>
    .after leavesEnd_someBlanks fun _ => .after (leavesEnd_name monthNames) fun _ =>
    .after leavesEnd_someBlanks fun _ => .after leavesEnd_mailYear fun _ =>
    .after leavesEnd_someBlanks fun _ => .after (leavesEnd_number 2 2) fun _ =>
    .after leavesEnd_blanks fun _ => (needs_literal ':').bind _

theorem colon_mem_layout {layout : Layout} (h : layout ∈ offsetLayouts ++ utcLayouts) :
    Part.literal ':' ∈ layout := by
  revert layout
  decide

/-- **What is read with a time of day has a colon.** -/
theorem colon_mem_of_reads {read : List Char → Option Timestamp}
    (hread : read ∈ [readTimestamp, readMailDate] ++ (offsetLayouts ++ utcLayouts).map Layout.read)
    {text : List Char} {t : Timestamp} (h : read text = some t) : ':' ∈ text := by
  simp only [List.mem_append, List.mem_cons, List.not_mem_nil, or_false, List.mem_map] at hread
  obtain (rfl | rfl) | ⟨layout, hlayout, rfl⟩ := hread
  · obtain ⟨t, hscan, -⟩ := Option.bind_eq_some_iff.mp h
    exact needs_timestamp.whole hscan
  · obtain ⟨p, hscan, -⟩ := Option.bind_eq_some_iff.mp h
    exact needs_mailDate.whole hscan
  · obtain ⟨t, hscan, -⟩ := Option.bind_eq_some_iff.mp h
    exact (needs_of_mem_layout (colon_mem_layout (List.mem_append.mpr hlayout)) _).whole hscan

/-! ## Texts without a colon -/

theorem readInstantTrimmed_of_colon_notMem {text : List Char} (h : ':' ∉ text) :
    readInstantTrimmed text = (readDate text).map fun date => 86400000 * date.dayNumber := by
  have htimes : List.findSome? (fun read => read text)
      ([readTimestamp, readMailDate] ++ (offsetLayouts ++ utcLayouts).map Layout.read) = none := by
    rw [List.findSome?_eq_none_iff]
    intro read hread
    by_contra hsome
    obtain ⟨t, ht⟩ := Option.ne_none_iff_exists'.mp hsome
    exact h (colon_mem_of_reads hread ht)
  rw [readInstantTrimmed, readings, List.findSome?_append, htimes, Option.none_or,
    List.findSome?_singleton, Option.map_map]
  congr 1
  funext date
  simp [Timestamp.midnight, Timestamp.millis]

/-- **Which texts without a colon denote an instant**: those that hold a date alone between blanks,
and the instant is the beginning of its day. -/
theorem readInstant_without_colon (s : String) (h : ':' ∉ s.toList) (i : Int) :
    readInstant s = some i ↔ ∃ date day, IsBareDate (trim s.toList) date ∧
      date.isValid = true ∧ IsDay date day ∧ i = 86400000 * day := by
  have hfront := trim_prefix s.toList
  have htrim : ':' ∉ trim s.toList := fun hmem =>
    h ((List.dropWhile_suffix _).subset (hfront.subset hmem))
  rw [readInstant, readInstantTrimmed_of_colon_notMem htrim]
  simp only [Option.map_eq_some_iff, readDate_eq_some_iff]
  constructor
  · rintro ⟨date, ⟨hbare, hvalid⟩, rfl⟩
    exact ⟨date, _, hbare, hvalid, isDay_dayNumber (Date.isValid_iff.mp hvalid).2, rfl⟩
  · rintro ⟨date, day, hbare, hvalid, hday, rfl⟩
    exact ⟨date, ⟨hbare, hvalid⟩, by rw [(dayNumber_of_isDay hday).2]⟩

/-- A leap day before year zero, with a sign in front of the year and slashes, between blanks. -/
theorem readInstant_without_colon_leap_day :
    ':' ∉ " -000004/2/29 ".toList ∧ readInstant " -000004/2/29 " = some (-62288352000000) ∧
      ∃ date day, IsBareDate (trim " -000004/2/29 ".toList) date ∧ date.isValid = true ∧
        IsDay date day ∧ -62288352000000 = 86400000 * day := by
  have hcolon : ':' ∉ " -000004/2/29 ".toList := by decide
  have hread : readInstant " -000004/2/29 " = some (-62288352000000) := by decide +kernel
  exact ⟨hcolon, hread, (readInstant_without_colon _ hcolon _).mp hread⟩

end Weblog.Calendar
