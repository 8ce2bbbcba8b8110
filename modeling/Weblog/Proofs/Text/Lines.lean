import Mathlib.Data.List.Basic
import Mathlib.Tactic.Common
import Weblog.Text.Search
/-!
# Pieces of texts

* `mem_of_mem_splitOn`: the pieces between separators have characters of the text, and none of them
  is the separator.
* `mem_of_mem_lines`: the same of lines and line feeds.
-/

namespace Weblog.Text

variable {c d : Char} {s piece : List Char}

theorem mem_of_mem_splitOn (h : piece ∈ s.splitOn d) (hc : c ∈ piece) : c ∈ s ∧ c ≠ d := by
  induction s generalizing piece with
  | nil =>
    obtain rfl : piece = [] := by simpa using h
    exact absurd hc List.not_mem_nil
  | cons e s ih =>
    rw [List.splitOn_cons_eq_if_modifyHead] at h
    have hlater {piece} (h : piece ∈ s.splitOn d) (hc : c ∈ piece) : c ∈ e :: s ∧ c ≠ d :=
      (ih h hc).imp_left (List.mem_cons_of_mem e)
    split_ifs at h with he
    · obtain rfl | h := List.mem_cons.mp h
      · exact absurd hc List.not_mem_nil
      · exact hlater h hc
    · obtain ⟨first, later, hsplit⟩ := List.exists_cons_of_ne_nil (List.splitOn_ne_nil d s)
      rw [hsplit, List.modifyHead_cons] at h
      obtain rfl | h := List.mem_cons.mp h
      · obtain rfl | hc := List.mem_cons.mp hc
        · exact ⟨List.mem_cons_self, by simpa using he⟩
        · exact hlater (hsplit ▸ List.mem_cons_self) hc
      · exact hlater (hsplit ▸ List.mem_cons_of_mem first h) hc

theorem dropReturn_subset (l : List Char) : dropReturn l ⊆ l := by
  unfold dropReturn
  split_ifs
  · exact List.dropLast_subset l
  · exact List.Subset.refl l

/-- A line is a piece between line feeds, or what is left of one without the carriage return at its
end. -/
theorem exists_piece_of_mem_lines {l : List Char} (h : l ∈ lines s) :
    ∃ piece ∈ s.splitOn '\n', l ⊆ piece := by
  have hcomplete : l ∈ (s.splitOn '\n').dropLast.map dropReturn →
      ∃ piece ∈ s.splitOn '\n', l ⊆ piece := by
    intro hl
    obtain ⟨piece, hpiece, rfl⟩ := List.mem_map.mp hl
    exact ⟨piece, List.dropLast_subset _ hpiece, dropReturn_subset piece⟩
  unfold lines at h
  dsimp only at h
  split at h
  · exact hcomplete h
  · exact hcomplete h
  · rename_i rest _ hlast
    obtain hl | hl := List.mem_append.mp h
    · exact hcomplete hl
    · rw [List.mem_singleton.mp hl]
      exact ⟨rest, List.mem_of_getLast? hlast, List.Subset.refl rest⟩

theorem mem_of_mem_lines {l : List Char} (h : l ∈ lines s) (hc : c ∈ l) : c ∈ s ∧ c ≠ '\n' := by
  obtain ⟨piece, hpiece, hsubset⟩ := exists_piece_of_mem_lines h
  exact mem_of_mem_splitOn hpiece (hsubset hc)

end Weblog.Text
