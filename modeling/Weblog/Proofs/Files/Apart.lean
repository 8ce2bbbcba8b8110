import Mathlib.Tactic.Common
import Weblog.Proofs.Files.Footprints
/-!
# Paths that lie apart

A path without dots leads down from name to name, so its names say what it leads to in every tree.
What happens at one such path is not seen at another one, unless one lies below the other.

* `IsPlain`: a path without dots; `LeadsTo.eq_steps`: it leads to its own names.
* `prefix_of_isDirectoryOf`: the directories above a path without dots are above its names.
* `SameBelow`: two trees with the same below some names.
* **`ChangesOnly.sameBelow`**: what lies apart from all changes stays the same.
-/

namespace Weblog.Files

/-- Whether a path leads down from name to name. -/
def IsPlain (path : String) : Prop :=
  ∀ step ∈ steps path, step ≠ "." ∧ step ≠ ".."

theorem IsPlain.of_isAbove {up path : String} (h : IsPlain path) (habove : IsAbove up path) :
    IsPlain up := by
  obtain ⟨more, hsteps, -⟩ := habove
  intro step hstep
  exact h step (hsteps ▸ List.mem_append_left more hstep)

namespace FileTree

variable {root after : FileTree} {path : String} {names here there : List String}

theorem eq_append_of_walk {pieces : List String}
    (hplain : ∀ piece ∈ pieces, piece ≠ "" ∧ piece ≠ "." ∧ piece ≠ "..")
    (hwalk : root.walk here pieces = .ok there) : there = here ++ pieces := by
  induction pieces generalizing here with
  | nil => rw [List.append_nil, Except.ok.inj hwalk]
  | cons piece pieces ih =>
    obtain ⟨hempty, hdot, hup⟩ := hplain piece List.mem_cons_self
    rw [walk_cons, if_neg (by simp [hempty, hdot]), if_neg hup] at hwalk
    split_ifs at hwalk
    cases hkind : root.kind? (here ++ [piece]) with
    | none => rw [hkind] at hwalk; cases hwalk
    | some k => cases k with
      | file content => rw [hkind] at hwalk; cases hwalk
      | directory =>
        rw [hkind] at hwalk
        rw [ih (fun p hp => hplain p (List.mem_cons_of_mem piece hp)) hwalk, List.append_assoc]
        rfl

theorem eq_steps_of_entry {parent : List String} {name : String} {slash : Bool}
    (hplain : IsPlain path) (htarget : root.target path = .ok (.entry parent name slash)) :
    parent ++ [name] = steps path := by
  obtain ⟨-, ⟨before, hsteps, hwalk⟩, -⟩ := target_eq_entry_iff.mp htarget
  have hpieces : ∀ piece ∈ before, piece ≠ "" ∧ piece ≠ "." ∧ piece ≠ ".." := by
    intro piece hpiece
    have hmem : piece ∈ steps path := hsteps ▸ List.mem_append_left [name] hpiece
    exact ⟨ne_empty_of_mem_steps path hmem, hplain piece hmem⟩
  rw [eq_append_of_walk hpieces hwalk, hsteps]
  rfl

theorem eq_nil_of_directory (hplain : IsPlain path)
    (htarget : root.target path = .ok (.directory names)) : names = [] := by
  rw [target_of_isPath (isPath_of_target htarget)] at htarget
  cases hsteps : (steps path).reverse with
  | nil =>
    rw [hsteps] at htarget
    cases htarget
    rfl
  | cons last before =>
    have hlast : last ∈ steps path := by
      rw [List.reverse_eq_cons_iff.mp hsteps]
      simp
    obtain ⟨hdot, hup⟩ := hplain last hlast
    rw [hsteps] at htarget
    dsimp only at htarget
    rw [if_neg (by simp [hdot, hup])] at htarget
    cases hwalk : root.walk [] before.reverse with
    | error e => rw [hwalk] at htarget; cases htarget
    | ok there => rw [hwalk] at htarget; cases htarget

/-- **A path without dots leads to its own names.** -/
theorem LeadsTo.eq_steps (hplain : IsPlain path) (h : root.LeadsTo path names) :
    names = steps path := by
  obtain ⟨parent, name, hleads, rfl⟩ := h
  exact eq_steps_of_entry hplain hleads.target

/-- A file that is left at a path without dots is at its own names. -/
theorem LeavesFile.at_steps {above : String} {content : ByteArray} (hplain : IsPlain path)
    (h : LeavesFile above path content root after) :
    after.kind? (steps path) = some (.file content) ∧
      ChangesOnly (directoriesAbove above) [steps path] root after := by
  obtain ⟨names, hleads, hcontent, honly⟩ := h
  obtain rfl := hleads.eq_steps hplain
  exact ⟨hcontent, honly⟩

theorem prefix_of_isDirectoryOf (hplain : IsPlain path)
    (h : root.IsDirectoryOf (directoriesAbove path) names) :
    names <+: steps path ∧ (names ≠ [] → names ≠ steps path) := by
  obtain ⟨up, hup, hfind⟩ := h
  unfold directoriesAbove at hup
  cases hparent : parent? path with
  | none => rw [hparent] at hup; cases hup
  | some parent =>
    rw [hparent] at hup
    have habove : IsAbove up path := isAbove_of_mem_ancestors hparent hup
    have hplainUp := hplain.of_isAbove habove
    obtain ⟨more, hsteps, hstep⟩ := habove
    obtain ⟨-, htarget | ⟨before, name, slash, htarget, -, rfl⟩⟩ := find_eq_directory_iff.mp hfind
    · rw [eq_nil_of_directory hplainUp htarget]
      exact ⟨List.nil_prefix, fun hnil => absurd rfl hnil⟩
    · rw [eq_steps_of_entry hplainUp htarget, hsteps]
      refine ⟨List.prefix_append (steps up) more, fun hne heq => ?_⟩
      obtain ⟨step, hmem, -⟩ := hstep hne
      rw [List.self_eq_append_right.mp heq] at hmem
      cases hmem

/-! ## What stays -/

/-- Whether two trees are the same below some names. -/
def SameBelow (root after : FileTree) (names : List String) : Prop :=
  ∀ more, after.kind? (names ++ more) = root.kind? (names ++ more)

theorem SameBelow.refl (root : FileTree) (names : List String) : SameBelow root root names :=
  fun _ => rfl

theorem SameBelow.trans {mid : FileTree} (h : SameBelow root mid names)
    (h' : SameBelow mid after names) : SameBelow root after names :=
  fun more => (h' more).trans (h more)

theorem SameBelow.kind? (h : SameBelow root after names) :
    after.kind? names = root.kind? names := by
  simpa using h []

/-- **What lies apart from all changes stays the same**: what is neither above the path whose
directories are made nor above a place that is written. -/
theorem ChangesOnly.sameBelow {places : List (List String)}
    (h : ChangesOnly (directoriesAbove path) places root after) (hplain : IsPlain path)
    (hne : names ≠ []) (habove : names <+: steps path → names = steps path)
    (hplaces : ∀ place ∈ places, ¬names <+: place) : SameBelow root after names := by
  intro more
  have hbegins := List.prefix_append names more
  rcases h.elsewhere (names ++ more) fun hmem => hplaces _ hmem hbegins with hsame | ⟨-, hmade⟩
  · exact hsame
  · obtain ⟨hbelow, hproper⟩ := prefix_of_isDirectoryOf hplain hmade
    have heq := habove (hbegins.trans hbelow)
    rw [heq] at hbelow hproper
    have hnil : more = [] := List.append_right_eq_self.mp
      (hbelow.eq_of_length_le (by simp))
    rw [hnil, List.append_nil] at hproper
    exact absurd rfl (hproper (heq ▸ hne))

end FileTree

end Weblog.Files
