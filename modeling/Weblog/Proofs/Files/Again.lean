import Mathlib.Tactic.Common
import Weblog.Proofs.Files.Footprints
/-!
# Operations done again

What has been made or written once can be made or written again: a directory stays as it is, and a
file has the last content.

* `set_set`: of two trees at the same names the last one counts.
* `write_any`: whether a file can be written is not a matter of its content; **`write_again`**: the
  last content counts.
* `HasDirectory`: whether a directory has a path; **`hasDirectory_of_createDirsOf`**: directories
  that have been made are there; **`run_createDirs_of_directory`**: they are not made again.
-/

namespace Weblog.Files

namespace FileTree

variable {root after : FileTree} {path : String} {content : ByteArray} {names : List String}

/-! ## Files -/

/-- **Of two trees at the same names the last one counts.** -/
theorem set_set (first second : FileTree) (names : List String) :
    ∀ root : FileTree, (root.set names first).set names second = root.set names second := by
  induction names with
  | nil => intro root; cases root <;> rfl
  | cons name names ih =>
    intro root
    cases root with
    | file old => rfl
    | directory entries =>
      cases names with
      | nil => simp [set, setEntry_setEntry]
      | cons next names =>
        cases hfind : entries.lookup name with
        | none => simp [set, hfind]
        | some tree => simp [set, hfind, lookup_setEntry, setEntry_setEntry, ih]

theorem write_of_leads {parent : List String} {name : String} (hleads : root.Leads path parent name)
    (hfree : root.kind? (parent ++ [name]) ≠ some .directory) (content : ByteArray) :
    root.write path content = .ok (root.set (parent ++ [name]) (file content)) := by
  have hfound : root.lookupName parent name = .ok (root.get? (parent ++ [name])) :=
    lookupName_eq_ok.mpr ⟨hleads.short, rfl⟩
  refine bind_eq_ok.mpr ⟨_, hleads.target, bind_eq_ok.mpr ⟨_, hfound, ?_⟩⟩
  rw [kind?] at hfree
  cases hget : root.get? (parent ++ [name]) with
  | none => rfl
  | some tree =>
    rw [hget] at hfree
    cases tree with
    | file old => rfl
    | directory entries => exact absurd rfl hfree

/-- **Whether a file can be written is not a matter of its content.** -/
theorem write_any (h : root.write path content = .ok after) (other : ByteArray) :
    ∃ after, root.write path other = .ok after := by
  obtain ⟨parent, name, hleads, hfree, -⟩ := write_eq_ok h
  exact ⟨_, write_of_leads hleads hfree other⟩

/-- **A file that is written again has the last content only.** -/
theorem write_again (hroot : root.kind = .directory) (h : root.write path content = .ok after)
    (other : ByteArray) : after.write path other = root.write path other := by
  obtain ⟨parent, name, hleads, hfree, rfl⟩ := write_eq_ok h
  have hparent := kind?_of_target_entry hroot hleads.target
  have hsame := sameDirectories_set_file hparent hfree content
  rw [write_of_leads hleads hfree, write_of_leads (hsame.leads hleads) fun hdir =>
    hfree ((hsame _).mpr hdir), set_set]

/-! ## Directories -/

/-- Whether a directory has a path. -/
def HasDirectory (root : FileTree) (path : String) : Prop :=
  ∃ names entries, root.find path = .ok (names, directory entries)

theorem HasDirectory.mono {other : FileTree} (hmore : ∀ names,
    root.kind? names = some .directory → other.kind? names = some .directory)
    (h : root.HasDirectory path) : other.HasDirectory path := by
  obtain ⟨names, entries, hfind⟩ := h
  have hof : root.IsDirectoryOf [path] names := ⟨path, List.mem_singleton_self path, entries, hfind⟩
  obtain ⟨_, hmem, more, hmore⟩ := hof.mono hmore
  rw [List.mem_singleton.mp hmem] at hmore
  exact ⟨names, more, hmore⟩

theorem HasDirectory.makeDir (h : root.HasDirectory path) :
    root.makeDir path = .error .alreadyExists := by
  obtain ⟨names, entries, hfind⟩ := h
  obtain ⟨t, htarget, hrest⟩ := bind_eq_ok.mp hfind
  rw [FileTree.makeDir, htarget]
  cases t with
  | directory there => rfl
  | entry parent name slash =>
    obtain ⟨found, hfound, hrest⟩ := bind_eq_ok.mp hrest
    change (root.lookupName parent name >>= _) = _
    rw [hfound]
    cases found with
    | none => cases hrest
    | some tree => rfl

theorem hasDirectory_of_makeDir (hroot : root.kind = .directory)
    (h : root.makeDir path = .ok after) :
    after.HasDirectory path := by
  obtain ⟨parent, name, slash, htarget, hshort, hfree, rfl⟩ := makeDir_eq_ok h
  have hparent := kind?_of_target_entry hroot htarget
  have hkept := kind?_directory_kept hparent hfree
  obtain ⟨entries, hfind⟩ := find_eq_directory_iff.mpr ⟨kind?_new_directory hparent,
    .inr ⟨parent, name, slash, target_mono hkept htarget, hshort, rfl⟩⟩
  exact ⟨parent ++ [name], entries, hfind⟩

theorem run_isDirectory (path : String) (root : FileTree) :
    (FileSystem.isDirectory path : StateM FileTree Bool).run root =
      (match root.find path with
        | .ok (_, tree) => tree.isDir
        | .error _ => false, root) := rfl

theorem run_isDirectory_iff :
    (FileSystem.isDirectory path : StateM FileTree Bool).run root = (true, root) ↔
      root.HasDirectory path := by
  rw [run_isDirectory]
  constructor
  · intro h
    have hdir := congrArg Prod.fst h
    dsimp only at hdir
    split at hdir
    · rename_i names tree hfind
      cases tree with
      | file content => cases hdir
      | directory entries => exact ⟨names, entries, hfind⟩
    · cases hdir
  · rintro ⟨names, entries, hfind⟩
    rw [hfind]
    rfl

theorem hasDirectory_of_unlessDirectory {e : FileError}
    (h : (do if ← FileSystem.isDirectory path then return .ok () else return .error e :
      StateM FileTree (Except FileError Unit)).run root = (.ok (), after)) :
    after.HasDirectory path := by
  rcases hrun : (FileSystem.isDirectory path : StateM FileTree Bool).run root with ⟨found, between⟩
  obtain rfl : root = between := congrArg Prod.snd hrun
  rw [run_bind_eq, hrun] at h
  cases found with
  | false => cases congrArg Prod.fst h
  | true =>
    obtain rfl : root = after := congrArg Prod.snd h
    exact run_isDirectory_iff.mp hrun

/-- **Directories that have been made are there.** -/
theorem hasDirectory_of_createDirsOf {parents : List String} (hroot : root.kind = .directory)
    (h : (createDirsOf (path :: parents) : StateM FileTree (Except FileError Unit)).run root =
      (.ok (), after)) : after.HasDirectory path := by
  rw [createDirsOf, run_bind_eq, run_createDir] at h
  cases hmake : root.makeDir path with
  | ok made =>
    rw [hmake] at h
    obtain rfl : made = after := congrArg Prod.snd h
    exact hasDirectory_of_makeDir hroot hmake
  | error e =>
    rw [hmake] at h
    cases e with
    | notFound =>
      -- the parents are made, and then the directory
      have hparents := changesOnly_createDirsOf parents root
      rcases hrun : (createDirsOf parents : StateM FileTree (Except FileError Unit)).run root with
        ⟨outcome, between⟩
      dsimp only at h
      rw [run_bind_eq, hrun] at h
      rw [hrun] at hparents
      cases outcome with
      | error e => cases congrArg Prod.fst h
      | ok =>
        dsimp only at h
        rw [ensureDir, run_bind_eq, run_createDir] at h
        cases hagain : between.makeDir path with
        | ok made =>
          rw [hagain] at h
          obtain rfl : made = after := congrArg Prod.snd h
          exact hasDirectory_of_makeDir (hparents.kind hroot) hagain
        | error e =>
          rw [hagain] at h
          exact hasDirectory_of_unlessDirectory h
    | _ => exact hasDirectory_of_unlessDirectory h

/-- **An existing directory is not made again.** -/
theorem run_createDirs_of_directory {directory : String}
    (h : ∀ path ∈ (ancestors directory).head?, root.HasDirectory path) :
    (createDirs directory : StateM FileTree (Except FileError Unit)).run root = (.ok (), root) := by
  unfold createDirs
  cases hpaths : ancestors directory with
  | nil => rfl
  | cons path parents =>
    have hdir : root.HasDirectory path := h path (by simp [hpaths])
    have hcreate : (FileSystem.createDir path : StateM FileTree _).run root =
        (.error .alreadyExists, root) := by
      rw [run_createDir, hdir.makeDir]
    rw [createDirsOf, run_bind_eq, hcreate]
    dsimp only
    rw [run_bind_eq, run_isDirectory_iff.mpr hdir]
    rfl

end FileTree

end Weblog.Files
