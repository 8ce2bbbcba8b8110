import Mathlib.Tactic.Common
import Weblog.Proofs.Calendar.WrittenParts
import Weblog.Proofs.Text.Columns
import Weblog.Proofs.Text.Lines
import Weblog.Report.Comments
/-!
# Cells of a report

* `IsControl`: the characters of a cell that can only come from the texts that it shows.
* `not_mem_dateCell`, `not_mem_idCell`, `not_mem_nameCell`, `not_mem_tagsText`: a control character
  that is not in a text is not in its cell either; `count_row`: how often it is in a row.
* **`truncated_texts_fit`**: what is left of a text, and of the tags of a post, in a narrow column;
  `not_fit_narrow`: a column that is too narrow for the ellipsis.
-/

namespace Weblog.Report

open Text Calendar

/-! ## Control characters -/

/-- Whether a character is a control character. A report adds only digits, signs, blanks and full
stops to the texts that it shows in a cell. -/
def IsControl (c : Char) : Prop := c.toNat < 0x20

instance (c : Char) : Decidable (IsControl c) := inferInstanceAs (Decidable (_ < _))

section Characters

variable {c : Char} (hc : IsControl c)

include hc

theorem ne_of_isControl {d : Char} (hd : ¬ IsControl d) : c ≠ d :=
  fun h => hd (h ▸ hc)

theorem not_isDigit_of_isControl : c.isDigit ≠ true := by
  intro hdigit
  simp only [Char.isDigit, Bool.and_eq_true, decide_eq_true_eq] at hdigit
  have hlow : 48 ≤ c.toNat := hdigit.1
  have hhigh : c.toNat < 32 := hc
  omega

theorem not_mem_repr (n : Nat) : c ∉ n.repr.toList := by
  rw [Nat.toList_repr]
  exact fun h => not_isDigit_of_isControl hc (Number.isDigit_of_mem_toDigits c h)

theorem not_mem_padded (width n : Nat) : c ∉ Date.padded width n :=
  fun h => not_isDigit_of_isControl hc (isDigit_padded c h)

theorem not_mem_dateText (d : Date) : c ∉ d.text.toList := by
  have hminus : c ≠ '-' := ne_of_isControl hc (by decide)
  have hplus : c ≠ '+' := ne_of_isControl hc (by decide)
  have hyear : c ∉ Date.yearText d.year := by
    unfold Date.yearText
    split_ifs <;> simp [hminus, hplus, not_mem_padded hc]
  simp [Date.text, hyear, hminus, not_mem_padded hc]

variable {s : String} (hs : c ∉ s.toList)

include hs

theorem not_mem_displayDate : c ∉ (displayDate s).toList := by
  unfold displayDate
  split
  · exact not_mem_dateText hc _
  · exact hs

theorem not_mem_padRight (width : Nat) : c ∉ (padRight width s).toList := by
  rwa [← List.count_eq_zero, count_padRight (ne_of_isControl hc (by decide)), List.count_eq_zero]

theorem not_mem_padLeft (width : Nat) : c ∉ (padLeft width s).toList := by
  rwa [← List.count_eq_zero, count_padLeft (ne_of_isControl hc (by decide)), List.count_eq_zero]

theorem not_mem_idCell : c ∉ (idCell s).toList :=
  not_mem_padRight hc (not_mem_clip hs) 8

theorem not_mem_dateCell : c ∉ (dateCell s).toList :=
  not_mem_padRight hc (not_mem_displayDate hc hs) 10

theorem not_mem_nameCell (width : Nat) : c ∉ (nameCell width s).toList :=
  not_mem_padRight hc (not_mem_truncate (ne_of_isControl hc (by decide)) hs) width

end Characters

theorem mem_of_mem_firstLine {c : Char} {body : String} (hc : c ∈ (firstLine body).toList) :
    c ∈ body.toList ∧ c ≠ '\n' := by
  unfold firstLine at hc
  cases hlines : lines body.toList with
  | nil =>
    rw [hlines] at hc
    exact absurd hc List.not_mem_nil
  | cons first later =>
    rw [hlines, List.headD_cons, String.toList_ofList] at hc
    exact mem_of_mem_lines (hlines ▸ List.mem_cons_self) hc

theorem count_row {c : Char} (hc : c ≠ ' ') (cells : List String) :
    (row cells).toList.count c = (cells.map fun cell => cell.toList.count c).sum := by
  induction cells with
  | nil => simp [row]
  | cons cell cells ih =>
    cases cells with
    | nil => simp [row]
    | cons next cells =>
      have hblank : " ".toList.count c = 0 := List.count_eq_zero.mpr (by simpa using hc)
      have hrow : row (cell :: next :: cells) = cell ++ " " ++ row (next :: cells) :=
        String.intercalate_cons_cons
      rw [hrow, String.toList_append, String.toList_append, List.count_append, List.count_append,
        hblank, ih, Nat.add_zero]
      rfl

theorem not_mem_row {c : Char} (hc : c ≠ ' ') {cells : List String}
    (h : ∀ cell ∈ cells, c ∉ cell.toList) : c ∉ (row cells).toList := by
  rw [← List.count_eq_zero, count_row hc, List.sum_eq_zero_iff_forall_eq_nat]
  intro n hn
  obtain ⟨cell, hcell, rfl⟩ := List.mem_map.mp hn
  exact List.count_eq_zero.mpr (h cell hcell)

section Tags

variable {c : Char} (hc : IsControl c) {tags : List String} (h : ∀ t ∈ tags, c ∉ t.toList)

include hc h

theorem not_mem_tagList : c ∉ (tagList tags).toList := by
  refine not_mem_row (ne_of_isControl hc (by decide)) fun tag htag => ?_
  obtain ⟨t, ht, rfl⟩ := List.mem_map.mp htag
  simpa using ⟨ne_of_isControl hc (by decide), h t ht⟩

theorem not_mem_tagsText (width : Nat) : c ∉ (tagsText width tags).toList :=
  not_mem_truncate (ne_of_isControl hc (by decide)) (not_mem_tagList hc h)

end Tags

/-! ## Widths -/

/-- **What is left of a text in a column**: the text itself if it fits, and otherwise a beginning of
it with the ellipsis behind. It is no wider than the column if and only if the text fits or the
column has room for the ellipsis. The same is true of the tags of a post. -/
theorem truncated_texts_fit (width : Nat) (s : String) (tags : List String) :
    ((s.length ≤ width → truncate width s = s) ∧
      (width < s.length → ∃ kept : String, kept.toList <+: s.toList ∧ kept.length = width - 3 ∧
        truncate width s = kept ++ "...") ∧
      ((truncate width s).length ≤ width ↔ s.length ≤ width ∨ 3 ≤ width)) ∧
    ((tagList tags).length ≤ width → tagsText width tags = tagList tags) ∧
      ((tagsText width tags).length ≤ width ↔ (tagList tags).length ≤ width ∨ 3 ≤ width) := by
  refine ⟨⟨truncate_of_le, fun h => ?_, length_truncate_le_iff⟩, truncate_of_le,
    length_truncate_le_iff⟩
  refine ⟨clip (width - 3) s, clip_isPrefix _ s, ?_, truncate_of_lt h⟩
  rw [length_clip]
  omega

/-- Texts that fit, a text that is cut between letters with accents, and tags that are cut. -/
theorem truncated_texts_fit_accented :
    ("corto".length ≤ 11 ∧ truncate 11 "corto" = "corto") ∧
    ((tagList ["rust", "blog"]).length ≤ 11 ∧ tagsText 11 ["rust", "blog"] = "#rust #blog") ∧
    (4 < "ñññññ".length ∧ ∃ kept : String, kept.toList <+: "ñññññ".toList ∧ kept.length = 1 ∧
      truncate 4 "ñññññ" = kept ++ "...") ∧
    (4 < (tagList ["rust", "blog"]).length ∧ (tagsText 4 ["rust", "blog"]).length ≤ 4) := by
  have hfits : "corto".length ≤ 11 := by decide
  have hlist : (tagList ["rust", "blog"]).length ≤ 11 := by decide
  have hcut : 4 < "ñññññ".length := by decide
  obtain ⟨⟨hwhole, -⟩, htags, -⟩ := truncated_texts_fit 11 "corto" ["rust", "blog"]
  obtain ⟨⟨-, hkept, -⟩, -, hshort⟩ := truncated_texts_fit 4 "ñññññ" ["rust", "blog"]
  exact ⟨⟨hfits, hwhole hfits⟩, ⟨hlist, htags hlist⟩, ⟨hcut, hkept hcut⟩,
    ⟨by decide, hshort.mpr (.inr (by decide))⟩⟩

/-- **Columns that are too narrow for the ellipsis** get it all the same. -/
theorem not_fit_narrow :
    (truncate 0 "abc" = "..." ∧ ¬ (truncate 0 "abc").length ≤ 0) ∧
    (truncate 2 "abc" = "..." ∧ ¬ (truncate 2 "abc").length ≤ 2) ∧
    (tagsText 0 ["rust"] = "..." ∧ ¬ (tagsText 0 ["rust"]).length ≤ 0) := by
  decide

end Weblog.Report
