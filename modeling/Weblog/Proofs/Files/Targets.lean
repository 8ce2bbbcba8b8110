import Mathlib.Data.List.Induction
import Mathlib.Tactic.Common
import Weblog.Proofs.Files.Kinds
/-!
# Where paths lead

* `walk_cons`: one step of a walk, as a matter of what the tree has at the next names.
* `kind?_of_walk`: a walk from a directory ends in a directory.
* `SameDirectories`: two trees with directories at the same names. What changes only files keeps
  them.
* `Leads`: a path leads to a name in a directory, whether something has that name or not.
* **`SameDirectories.leads`**: where paths lead depends on the directories only.
-/

namespace Weblog.Files.FileTree

variable {root other : FileTree}

/-! ## Walks -/

theorem walk_cons (root : FileTree) (here : List String) (piece : String) (pieces : List String) :
    root.walk here (piece :: pieces) =
      if piece = "" ∨ piece = "." then root.walk here pieces
      else if piece = ".." then root.walk here.dropLast pieces
      else if longestName < piece.utf8ByteSize then .error .nameTooLong
      else match root.kind? (here ++ [piece]) with
        | none => .error .notFound
        | some (.file _) => .error .notDirectory
        | some .directory => root.walk (here ++ [piece]) pieces := by
  rw [walk, lookupName, kind?]
  split_ifs
  · rfl
  · rfl
  · rfl
  · cases root.get? (here ++ [piece]) with
    | none => rfl
    | some tree => cases tree <;> rfl

theorem kind?_of_walk (pieces : List String) : ∀ {here there : List String},
    root.walk here pieces = .ok there → root.kind? here = some .directory →
      root.kind? there = some .directory := by
  induction pieces with
  | nil =>
    intro here there hwalk hhere
    rw [walk, Except.ok.injEq] at hwalk
    rwa [← hwalk]
  | cons piece pieces ih =>
    intro here there hwalk hhere
    rw [walk_cons] at hwalk
    split_ifs at hwalk with hidle hup
    · exact ih hwalk hhere
    · exact ih hwalk (kind?_dropLast hhere)
    · cases hkind : root.kind? (here ++ [piece]) with
      | none => rw [hkind] at hwalk; exact absurd hwalk (by simp)
      | some k => cases k with
        | file content => rw [hkind] at hwalk; exact absurd hwalk (by simp)
        | directory => rw [hkind] at hwalk; exact ih hwalk hkind

/-! ## The same directories -/

/-- Whether two trees have directories at the same names. -/
def SameDirectories (root other : FileTree) : Prop :=
  ∀ names, root.kind? names = some .directory ↔ other.kind? names = some .directory

theorem SameDirectories.trans {third : FileTree} (h : SameDirectories root other)
    (h' : SameDirectories other third) : SameDirectories root third :=
  fun names => (h names).trans (h' names)

theorem kind?_eq_directory_above {names longer : List String} (h : names <+: longer)
    (hdir : root.kind? longer = some .directory) : root.kind? names = some .directory := by
  obtain ⟨more, rfl⟩ := h
  induction more using List.reverseRecOn with
  | nil => rwa [List.append_nil] at hdir
  | append_singleton more name ih =>
    rw [← List.append_assoc] at hdir
    exact ih (kind?_eq_directory_of_append hdir)

theorem sameDirectories_set_file {parent : List String} {name : String}
    (hparent : root.kind? parent = some .directory)
    (hfree : root.kind? (parent ++ [name]) ≠ some .directory) (content : ByteArray) :
    SameDirectories root (root.set (parent ++ [name]) (file content)) := by
  intro names
  rw [kind?_set_file hparent]
  split_ifs with heq hprefix
  · rw [heq]
    exact ⟨fun h => absurd h hfree, fun h => absurd h (by simp)⟩
  · exact ⟨fun h => absurd (kind?_eq_directory_above hprefix h) hfree,
      fun h => absurd h (by simp)⟩
  · rfl

theorem sameDirectories_erase {parent : List String} {name : String}
    (hfree : root.kind? (parent ++ [name]) ≠ some .directory) :
    SameDirectories root (root.erase (parent ++ [name])) := by
  intro names
  rw [kind?_erase]
  split_ifs with hprefix
  · exact ⟨fun h => absurd (kind?_eq_directory_above hprefix h) hfree,
      fun h => absurd h (by simp)⟩
  · rfl

theorem walk_mono (h : ∀ names, root.kind? names = some .directory →
    other.kind? names = some .directory) (pieces : List String) :
    ∀ {here there : List String}, root.walk here pieces = .ok there →
      other.walk here pieces = .ok there := by
  induction pieces with
  | nil => intro here there hwalk; exact hwalk
  | cons piece pieces ih =>
    intro here there hwalk
    rw [walk_cons] at hwalk ⊢
    split_ifs at hwalk ⊢ with hidle hup
    · exact ih hwalk
    · exact ih hwalk
    · cases hkind : root.kind? (here ++ [piece]) with
      | none => rw [hkind] at hwalk; exact absurd hwalk (by simp)
      | some k => cases k with
        | file content => rw [hkind] at hwalk; exact absurd hwalk (by simp)
        | directory =>
          rw [hkind] at hwalk
          rw [h _ hkind]
          exact ih hwalk

theorem SameDirectories.walk (h : SameDirectories root other) (pieces : List String)
    {here there : List String} (hwalk : root.walk here pieces = .ok there) :
    other.walk here pieces = .ok there :=
  walk_mono (fun names => (h names).mp) pieces hwalk

/-! ## Targets -/

/-- Whether a text can be a path. -/
structure IsPath (path : String) : Prop where
  noNul : '\x00' ∉ path.toList
  nonempty : path ≠ ""
  short : path.utf8ByteSize ≤ longestPath

def endsInSlash (path : String) : Bool :=
  path.toList.getLast? == some '/'

theorem target_of_isPath {path : String} (h : IsPath path) (root : FileTree) :
    root.target path =
      match (steps path).reverse with
      | [] => .ok (.directory [])
      | last :: before =>
        if last = "." ∨ last = ".." then
          (root.walk [] (last :: before).reverse).map .directory
        else
          (root.walk [] before.reverse).map fun parent =>
            .entry parent last (endsInSlash path) := by
  rw [target, if_neg (by simpa using h.noNul), if_neg h.nonempty, if_neg (by simpa using h.short)]
  rfl

theorem isPath_of_target {path : String} {t : Target} (h : root.target path = .ok t) :
    IsPath path := by
  rw [target] at h
  split_ifs at h with hnul hempty hlong
  exact ⟨by simpa using hnul, hempty, by simpa using hlong⟩

/-- **A path leads to a name** if the pieces before it lead to a directory. -/
theorem target_eq_entry_iff {path : String} {parent : List String} {name : String} {slash : Bool} :
    root.target path = .ok (.entry parent name slash) ↔
      IsPath path ∧ (∃ before, steps path = before ++ [name] ∧ root.walk [] before = .ok parent) ∧
        ¬ (name = "." ∨ name = "..") ∧ slash = endsInSlash path := by
  constructor
  · intro h
    have hpath := isPath_of_target h
    rw [target_of_isPath hpath] at h
    refine ⟨hpath, ?_⟩
    cases hsteps : (steps path).reverse with
    | nil => rw [hsteps] at h; exact absurd h (by simp)
    | cons last before =>
      rw [hsteps] at h
      simp only at h
      split_ifs at h with hdots
      · cases hwalk : root.walk [] (last :: before).reverse <;> rw [hwalk] at h <;>
          exact absurd h (by simp [Except.map])
      · cases hwalk : root.walk [] before.reverse with
        | error e => rw [hwalk] at h; exact absurd h (by simp [Except.map])
        | ok there =>
          rw [hwalk] at h
          simp only [Except.map, Except.ok.injEq, Target.entry.injEq] at h
          obtain ⟨rfl, rfl, rfl⟩ := h
          rw [List.reverse_eq_cons_iff] at hsteps
          exact ⟨⟨before.reverse, hsteps, hwalk⟩, hdots, rfl⟩
  · rintro ⟨hpath, ⟨before, hsteps, hwalk⟩, hdots, rfl⟩
    rw [target_of_isPath hpath, hsteps, List.reverse_append, List.reverse_singleton,
      List.singleton_append]
    simp only
    rw [if_neg hdots, List.reverse_reverse, hwalk]
    rfl

/-- Whether a path leads to a name in a directory, with no slash behind it. -/
structure Leads (root : FileTree) (path : String) (parent : List String) (name : String) :
    Prop where
  target : root.target path = .ok (.entry parent name false)
  short : name.utf8ByteSize ≤ longestName

variable {path : String} {parent : List String} {name : String} {slash : Bool}

/-- **Where paths lead depends on the directories only.** -/
theorem SameDirectories.leads (h : SameDirectories root other)
    (hleads : root.Leads path parent name) : other.Leads path parent name := by
  obtain ⟨hpath, ⟨before, hsteps, hwalk⟩, hdots, hslash⟩ := target_eq_entry_iff.mp hleads.target
  have hother := target_eq_entry_iff.mpr
    ⟨hpath, ⟨before, hsteps, h.walk before hwalk⟩, hdots, hslash⟩
  exact ⟨hother, hleads.short⟩

theorem kind?_of_target_entry (hroot : root.kind = .directory)
    (h : root.target path = .ok (.entry parent name slash)) :
    root.kind? parent = some .directory := by
  obtain ⟨-, ⟨before, -, hwalk⟩, -, -⟩ := target_eq_entry_iff.mp h
  exact kind?_of_walk before hwalk (by rw [kind?_nil, hroot])

end Weblog.Files.FileTree
