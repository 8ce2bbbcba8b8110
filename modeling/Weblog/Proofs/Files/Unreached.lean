import Mathlib.Tactic.Common
import Weblog.Proofs.Files.Relatives
import Weblog.Proofs.Files.Shown
/-!
# Paths that a change does not reach

Making the directories that a path needs and writing a file beside it change the tree, but not what
the path shows.

* `makeDir_eq_ok`: what making a directory does.
* **`makeDir_above`**: a path that was missing below a new directory is still missing.
* `resolve_name_congr`: what a name leads to depends on what has the name.
* **`shows_write_beside`**: writing a path with another ending does not change what the path shows.
-/

namespace Weblog.Files.FileTree

variable {root after : FileTree} {path up : String} {parent here : List String} {name : String}
  {content : ByteArray}

theorem set_of_kind_file (h : root.kind ≠ .directory) (parent : List String) (name : String)
    (new : FileTree) : root.set (parent ++ [name]) new = root := by
  cases root with
  | file content => cases parent <;> rfl
  | directory entries => exact absurd rfl h

/-! ## New directories -/

/-- **What making a directory does**: the path leads to a name that is free, and an empty directory
gets it. -/
theorem makeDir_eq_ok (h : root.makeDir path = .ok after) :
    ∃ parent name slash, root.target path = .ok (.entry parent name slash) ∧
      name.utf8ByteSize ≤ longestName ∧ root.kind? (parent ++ [name]) = none ∧
      after = root.set (parent ++ [name]) emptyDirectory := by
  obtain ⟨t, htarget, hlookup⟩ := bind_eq_ok.mp h
  cases t with
  | directory names => exact absurd hlookup (by simp)
  | entry parent name slash =>
    obtain ⟨found, hfound, hset⟩ := bind_eq_ok.mp hlookup
    obtain ⟨hshort, hget⟩ := lookupName_eq_ok.mp hfound
    cases found with
    | some tree => exact absurd hset (by simp)
    | none =>
      exact ⟨parent, name, slash, htarget, hshort, by rw [kind?, hget]; rfl,
        (Except.ok.inj hset).symm⟩

theorem run_createDir (path : String) (root : FileTree) :
    (FileSystem.createDir path : StateM FileTree _).run root =
      match root.makeDir path with
      | .ok after => (.ok (), after)
      | .error e => (.error e, root) := rfl

section NewDirectory

variable (hparent : root.kind? parent = some .directory)
  (hfree : root.kind? (parent ++ [name]) = none)

include hparent

theorem kind?_new_directory :
    (root.set (parent ++ [name]) emptyDirectory).kind? (parent ++ [name]) = some .directory := by
  rw [kind?_set name _ hparent, if_pos List.prefix_rfl]
  simp [emptyDirectory, kind]

theorem kind?_below_new_directory (below : String) :
    (root.set (parent ++ [name]) emptyDirectory).kind? (parent ++ [name] ++ [below]) = none := by
  rw [kind?_set name _ hparent, if_pos (List.prefix_append _ _)]
  simp [emptyDirectory, kind?_cons, child?]

include hfree

theorem kind?_directory_kept (names : List String) (h : root.kind? names = some .directory) :
    (root.set (parent ++ [name]) emptyDirectory).kind? names = some .directory := by
  rw [kind?_set name _ hparent, if_neg, h]
  intro hprefix
  exact absurd (kind?_eq_directory_above hprefix h) (by simp [hfree])

variable {before more : List String} (hwalk : root.walk here before = .ok parent)
  (hname : IsEntryName name) (hshort : name.utf8ByteSize ≤ longestName)

include hwalk hname hshort

omit hparent in
theorem behindMissing_before : root.behindMissing here (before ++ name :: more) = some more := by
  rw [behindMissing_of_walk hwalk, behindMissing_name hname hshort, hfree]

theorem behindMissing_after :
    (root.set (parent ++ [name]) emptyDirectory).behindMissing here (before ++ name :: more) =
      (root.set (parent ++ [name]) emptyDirectory).behindMissing (parent ++ [name]) more := by
  rw [behindMissing_of_walk (walk_mono (kind?_directory_kept hparent hfree) before hwalk),
    behindMissing_name hname hshort, kind?_new_directory hparent]

end NewDirectory

theorem behindMissing_of_empty (hempty : ∀ below, root.kind? (here ++ [below]) = none)
    {pieces : List String} (hplain : ∀ piece ∈ pieces, piece ≠ ".." ∧
      piece.utf8ByteSize ≤ longestName) (hname : ∃ piece ∈ pieces, ¬(piece = "" ∨ piece = ".")) :
    ∃ more, root.behindMissing here pieces = some more ∧ more <:+ pieces := by
  induction pieces with
  | nil => obtain ⟨piece, hmem, -⟩ := hname; cases hmem
  | cons piece pieces ih =>
    obtain ⟨hup, hshort⟩ := hplain piece List.mem_cons_self
    rw [behindMissing]
    split_ifs with hidle hlong
    · obtain ⟨more, hmore, hsuffix⟩ := ih (fun p hp => hplain p (List.mem_cons_of_mem piece hp)) (by
        obtain ⟨p, hp, hnot⟩ := hname
        rcases List.mem_cons.mp hp with rfl | hp
        · exact absurd hidle hnot
        · exact ⟨p, hp, hnot⟩)
      exact ⟨more, hmore, hsuffix.trans (List.suffix_cons piece pieces)⟩
    · omega
    · rw [hempty piece]
      exact ⟨pieces, rfl, List.suffix_cons piece pieces⟩

/-- **A path that was missing below a new directory is still missing**, and it stays steady. -/
theorem makeDir_above (h : root.makeDir up = .ok after) (habove : IsAbove up path)
    (hsteady : root.Steady path) :
    after.Steady path ∧ after.shows path = root.shows path := by
  obtain ⟨parent, name, slash, htarget, hshort, hfree, rfl⟩ := makeDir_eq_ok h
  by_cases hroot : root.kind = .directory
  · obtain ⟨-, ⟨before, hup, hwalk⟩, hdots, -⟩ := target_eq_entry_iff.mp htarget
    obtain ⟨more, hsteps, hstep⟩ := habove
    rw [hup, List.append_assoc, List.singleton_append] at hsteps
    have hparent := kind?_of_target_entry hroot htarget
    have hne : ∀ step ∈ name :: more, step ≠ "" := fun step hmem =>
      ne_empty_of_mem_steps path (by rw [hsteps]; exact List.mem_append_right before hmem)
    have hname : IsEntryName name := ⟨hne name List.mem_cons_self, hdots⟩
    have hmissing : root.behindMissing [] (steps path) = some more := by
      rw [hsteps, behindMissing_before hfree hwalk hname hshort]
    -- the new directory is empty, so the walk stops at the next step that is not a dot
    have hplain := hsteady more hmissing
    have hnext : ∃ step ∈ more, ¬(step = "" ∨ step = ".") := by
      obtain ⟨step, hmem, hdot⟩ := hstep (by simp [hup])
      exact ⟨step, hmem, fun hidle => hidle.elim (hne step (List.mem_cons_of_mem name hmem)) hdot⟩
    obtain ⟨rest, hrest, hsuffix⟩ :=
      behindMissing_of_empty (kind?_below_new_directory hparent) hplain hnext
    have hmissing' := (behindMissing_after hparent hfree hwalk hname hshort).trans hrest
    rw [← hsteps] at hmissing'
    refine ⟨fun rest' hrest' piece hp => ?_, ?_⟩
    · obtain rfl := Option.some.inj (hmissing'.symm.trans hrest')
      exact hplain piece (hsuffix.mem hp)
    · have hafter := kind?_directory_kept hparent hfree [] (by rw [kind?_nil, hroot])
      refine shows_congr (by simpa using hafter) hroot ?_
      rw [resolve_of_behindMissing hmissing, resolve_of_behindMissing hmissing']
  · rw [set_of_kind_file hroot]
    exact ⟨hsteady, rfl⟩

/-! ## Files beside a path -/

theorem resolve_idle {idle : List String} (hidle : ∀ step ∈ idle, step = ".") :
    root.resolve here idle = root.resolve here [] := by
  induction idle with
  | nil => rfl
  | cons step idle ih =>
    have hdot : step = "" ∨ step = "." := .inr (hidle step List.mem_cons_self)
    rw [resolve.eq_2, if_pos hdot]
    exact ih fun s hs => hidle s (List.mem_cons_of_mem step hs)

theorem resolve_name_congr {other : FileTree} (hname : IsEntryName name) {idle : List String}
    (hidle : ∀ step ∈ idle, step = ".")
    (h : other.kind? (parent ++ [name]) = root.kind? (parent ++ [name])) :
    other.resolve parent (name :: idle) = root.resolve parent (name :: idle) := by
  rw [resolve, resolve, if_neg hname.not_idle.1, if_neg hname.not_idle.1,
    if_neg hname.not_idle.2, if_neg hname.not_idle.2, h, resolve_idle hidle, resolve_idle hidle,
    resolve, resolve, h]

/-- **Writing a path with another ending** does not change what the path shows, unless the path has
the ending already. -/
theorem shows_write_beside {ending : String} (hending : '/' ∉ ending.toList)
    (hnot : hasEnding ending path = false)
    (h : root.write (withExtension ending path) content = .ok after) :
    after.shows path = root.shows path := by
  obtain ⟨parent, last, hleads, hfree, rfl⟩ := write_eq_ok h
  by_cases hroot : root.kind = .directory
  · obtain ⟨-, ⟨before, hlast, hwalk⟩, hdots, -⟩ := target_eq_entry_iff.mp hleads.target
    obtain ⟨name, idle, hsteps, hname, hne, hidle⟩ :=
      exists_steps_of_withExtension hending hnot hlast hdots
    have hparent := kind?_of_target_entry hroot hleads.target
    have hsame := sameDirectories_set_file hparent hfree content
    have hafter := (hsame []).mp (by rw [kind?_nil, hroot])
    have hentry : IsEntryName name :=
      ⟨ne_empty_of_mem_steps path (by rw [hsteps]; simp), hname⟩
    refine shows_congr (by simpa using hafter) hroot ?_
    rw [hsteps, resolve_of_walk (hsame.walk before hwalk) (List.cons_ne_nil name idle),
      resolve_of_walk hwalk (List.cons_ne_nil name idle)]
    refine resolve_name_congr hentry hidle ?_
    have hother : parent ++ [name] ≠ parent ++ [last] := by simpa using hne
    have hbelow : ¬parent ++ [last] <+: parent ++ [name] := fun hbelow =>
      hother (hbelow.eq_of_length (by simp)).symm
    rw [kind?_set_file hparent, if_neg hother, if_neg hbelow]
  · rw [set_of_kind_file hroot]

end Weblog.Files.FileTree
