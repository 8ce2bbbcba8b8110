import Mathlib.Data.List.Basic
import Mathlib.Tactic.Common
import Weblog.Text.Column
/-!
# Widths of cut texts

* `clip_isPrefix`: a clipped text is the beginning of the text.
* `truncate_of_le`, `truncate_of_lt`: a text that fits stays as it is; of any other one a beginning
  is kept, with the ellipsis behind it.
* **`length_truncate_le_iff`**: whether a truncated text fits.
* `not_mem_truncate`, `count_padRight`, `count_padLeft`: the characters that stand in columns are
  those of the texts, but for full stops and blanks.
-/

namespace Weblog.Text

variable {c : Char} {width : Nat} {s : String}

/-! ## Widths -/

theorem toList_clip (width : Nat) (s : String) : (clip width s).toList = s.toList.take width :=
  String.toList_ofList

theorem clip_isPrefix (width : Nat) (s : String) : (clip width s).toList <+: s.toList := by
  rw [toList_clip]
  exact List.take_prefix _ _

theorem length_clip (width : Nat) (s : String) : (clip width s).length = min width s.length := by
  rw [← String.length_toList, toList_clip, List.length_take, String.length_toList]

theorem truncate_of_le (h : s.length ≤ width) : truncate width s = s :=
  if_pos h

theorem truncate_of_lt (h : width < s.length) :
    truncate width s = clip (width - 3) s ++ ellipsis :=
  if_neg (Nat.not_le.mpr h)

/-- The ellipsis takes its room even where the width has none for it. -/
theorem length_truncate_of_lt (h : width < s.length) : (truncate width s).length = max width 3 := by
  have hellipsis : ellipsis.length = 3 := rfl
  rw [truncate_of_lt h, String.length_append, length_clip, hellipsis]
  omega

/-- **Whether a truncated text fits**: only widths without room for the ellipsis are too small. -/
theorem length_truncate_le_iff :
    (truncate width s).length ≤ width ↔ s.length ≤ width ∨ 3 ≤ width := by
  rcases Nat.lt_or_ge width s.length with h | h
  · rw [length_truncate_of_lt h]
    omega
  · rw [truncate_of_le h]
    omega

/-! ## Characters -/

theorem not_mem_clip (h : c ∉ s.toList) : c ∉ (clip width s).toList :=
  fun hc => h ((clip_isPrefix width s).subset hc)

theorem not_mem_truncate (hc : c ≠ '.') (h : c ∉ s.toList) : c ∉ (truncate width s).toList := by
  rcases Nat.lt_or_ge width s.length with hlt | hle
  · have hellipsis : c ∉ ellipsis.toList := by simp [ellipsis, hc]
    rw [truncate_of_lt hlt, String.toList_append, List.mem_append, not_or]
    exact ⟨not_mem_clip h, hellipsis⟩
  · rwa [truncate_of_le hle]

theorem count_padRight (hc : c ≠ ' ') :
    (padRight width s).toList.count c = s.toList.count c := by
  rw [padRight, String.toList_append, String.toList_ofList, List.count_append,
    List.count_replicate, if_neg (by simpa using hc.symm), Nat.add_zero]

theorem count_padLeft (hc : c ≠ ' ') : (padLeft width s).toList.count c = s.toList.count c := by
  rw [padLeft, String.toList_append, String.toList_ofList, List.count_append,
    List.count_replicate, if_neg (by simpa using hc.symm), Nat.zero_add]

end Weblog.Text
