import Mathlib.Tactic.Common
import Weblog.Proofs.Files.Targets
import Weblog.Proofs.Text.Lines
/-!
# Cutting a path at a slash

* `slash_not_mem`: the pieces of a path have no slash.
* `splitOn_cut`: a text that is cut between two of its pieces.
* `pieces_of_endsInSlash`: behind a slash at the end there is an empty piece.
* **`steps_cut`**: a path is cut behind any of its steps that a slash follows.
-/

namespace Weblog.Files

open FileTree

/-! ## Pieces -/

theorem slash_not_mem {s piece : List Char} (h : piece ∈ s.splitOn '/') : '/' ∉ piece :=
  fun hslash => (Text.mem_of_mem_splitOn h hslash).2 rfl

theorem intercalate_append {before after : List (List Char)} (hbefore : before ≠ [])
    (hafter : after ≠ []) : ['/'].intercalate (before ++ after) =
      ['/'].intercalate before ++ '/' :: ['/'].intercalate after := by
  induction before with
  | nil => exact absurd rfl hbefore
  | cons piece before ih =>
    cases before with
    | nil =>
      rw [List.singleton_append, List.intercalate_cons_of_ne_nil hafter,
        List.intercalate_singleton, List.append_assoc, List.singleton_append]
    | cons next before =>
      rw [List.cons_append, List.intercalate_cons_of_ne_nil (by simp), ih (by simp),
        List.intercalate_cons_cons, List.append_assoc (piece ++ ['/'])]

theorem splitOn_cut {s : List Char} {before after : List (List Char)}
    (h : s.splitOn '/' = before ++ after) (hbefore : before ≠ []) (hafter : after ≠ []) :
    ∃ up rest, s = up ++ '/' :: rest ∧ up.splitOn '/' = before := by
  refine ⟨['/'].intercalate before, ['/'].intercalate after, ?_, ?_⟩
  · rw [← intercalate_append hbefore hafter, ← h, List.intercalate_splitOn]
  · refine List.splitOn_intercalate '/' (fun piece hpiece => ?_) hbefore
    exact slash_not_mem (h ▸ List.mem_append_left after hpiece)

theorem pieces_of_endsInSlash {path : String} (h : endsInSlash path = true) :
    ∃ before, pieces path = before ++ [[]] := by
  obtain ⟨s, hs⟩ := List.getLast?_eq_some_iff.mp (by simpa [endsInSlash] using h)
  exact ⟨s.splitOn '/', by rw [pieces, hs, List.splitOn_append_cons_self, List.splitOn_nil]⟩

/-! ## Steps -/

theorem steps_eq_map (path : String) :
    steps path = ((pieces path).filter fun piece => piece ≠ []).map String.ofList := by
  rw [steps, List.filter_map]
  refine congrArg _ (List.filter_congr fun piece _ => ?_)
  rw [Bool.eq_iff_iff, Function.comp_apply, bne_iff_ne, decide_eq_true_iff]
  exact not_congr String.ofList_eq_empty_iff

/-- **A path is cut behind one of its steps** that a slash follows. -/
theorem steps_cut {path : String} {before after : List String} {name : String}
    (hsteps : steps path = before ++ name :: after)
    (hslash : after ≠ [] ∨ endsInSlash path = true) :
    ∃ up rest, path = up ++ "/" ++ rest ∧ steps up = before ++ [name] ∧
      endsInSlash up = false := by
  rw [steps_eq_map, List.map_eq_append_iff] at hsteps
  obtain ⟨_, _, hfilter, rfl, hlater⟩ := hsteps
  obtain ⟨rawBefore, _, hpieces, rfl, rfl⟩ := List.filter_eq_append_iff.mp hfilter
  obtain ⟨piece, _, hfilter, rfl, rfl⟩ := List.map_eq_cons_iff.mp hlater
  obtain ⟨idle, rawAfter, rfl, hidle, hpiece, rfl⟩ := List.filter_eq_cons_iff.mp hfilter
  have hne : piece ≠ [] := by simpa using hpiece
  rw [← List.append_assoc, List.append_cons] at hpieces
  have hafter : rawAfter ≠ [] := by
    rintro rfl
    rcases hslash with hslash | hslash
    · exact hslash rfl
    · obtain ⟨before, hlast⟩ := pieces_of_endsInSlash hslash
      rw [hlast, List.append_nil] at hpieces
      exact hne (List.append_inj_right' hpieces rfl |> List.singleton_inj.mp).symm
  obtain ⟨up, rest, htext, hup⟩ := splitOn_cut hpieces (by simp) hafter
  have hup' : pieces (String.ofList up) = rawBefore ++ idle ++ [piece] := by
    rw [pieces, String.toList_ofList, hup]
  refine ⟨String.ofList up, String.ofList rest, ?_, ?_, ?_⟩
  · rw [← String.toList_inj, htext]
    simp
  · have hkept : [piece].filter (fun piece => piece ≠ []) = [piece] :=
      List.filter_cons_of_pos hpiece
    rw [steps_eq_map, hup', List.filter_append, List.filter_append,
      List.filter_eq_nil_iff.mpr hidle, List.append_nil, List.map_append, hkept,
      List.map_singleton]
  · rw [Bool.eq_false_iff]
    intro hslash
    obtain ⟨before, hlast⟩ := pieces_of_endsInSlash hslash
    rw [hup'] at hlast
    exact hne (List.append_inj_right' hlast rfl |> List.singleton_inj.mp)

end Weblog.Files
