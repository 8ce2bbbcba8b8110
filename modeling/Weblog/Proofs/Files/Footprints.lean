import Mathlib.Tactic.Common
import Weblog.Proofs.Files.Faults
/-!
# What a change reaches

A sequence of operations changes a tree at a few places: it makes directories that some paths lead
to, and it changes what is at some names. Everything else stays.

* `target_mono`: a path that leads somewhere still does when there are more directories.
* `ChangesOnly`: two trees that differ at some names and by new directories of some paths only.
* **`makesOnly_createDirsOf`**: making directories makes directories of their paths only, whatever
  goes wrong.
* `changesOnly_write`, `changesOnly_move`: writing a file and giving it another path change what one
  path leads to, and what two paths lead to.
* `LeavesFile`: a file that is left by a write.
* `lookedUp`: the names that are looked up on a path; **`ChangesOnly.shows_eq`**: a path that goes
  by what has changed shows what it showed.
-/

namespace Weblog.Files.FileTree

variable {root mid after other : FileTree} {path new : String}
  {names parent : List String} {name : String} {content : ByteArray}

/-! ## More directories -/

section MoreDirectories

variable (h : ∀ names, root.kind? names = some .directory → other.kind? names = some .directory)

include h

theorem target_mono {t : Target} (htarget : root.target path = .ok t) :
    other.target path = .ok t := by
  have hpath := isPath_of_target htarget
  rw [target_of_isPath hpath] at htarget ⊢
  cases hsteps : (steps path).reverse with
  | nil => rwa [hsteps] at htarget
  | cons last before =>
    rw [hsteps] at htarget
    dsimp only at htarget ⊢
    split_ifs at htarget ⊢ with hdots
    · cases hwalk : root.walk [] (last :: before).reverse with
      | error e => rw [hwalk] at htarget; cases htarget
      | ok there =>
        rw [walk_mono h _ hwalk]
        rwa [hwalk] at htarget
    · cases hwalk : root.walk [] before.reverse with
      | error e => rw [hwalk] at htarget; cases htarget
      | ok there =>
        rw [walk_mono h _ hwalk]
        rwa [hwalk] at htarget

theorem Leads.mono (hleads : root.Leads path parent name) : other.Leads path parent name :=
  ⟨target_mono h hleads.target, hleads.short⟩

end MoreDirectories

/-! ## Directories of paths -/

/-- Whether one of some paths leads to a directory with some names. -/
def IsDirectoryOf (root : FileTree) (paths : List String) (names : List String) : Prop :=
  ∃ path ∈ paths, ∃ entries, root.find path = .ok (names, directory entries)

theorem get?_eq_directory : root.kind? names = some .directory ↔
    ∃ entries, root.get? names = some (directory entries) := by
  constructor
  · intro h
    obtain ⟨tree, hget, hkind⟩ := get?_of_kind? h
    obtain ⟨entries, rfl⟩ := exists_entries hkind
    exact ⟨entries, hget⟩
  · rintro ⟨entries, hget⟩
    rw [kind?, hget]
    rfl

/-- **A path finds a directory** if it leads to its names. -/
theorem find_eq_directory_iff :
    (∃ entries, root.find path = .ok (names, directory entries)) ↔
      root.kind? names = some .directory ∧ (root.target path = .ok (.directory names) ∨
        ∃ parent name slash, root.target path = .ok (.entry parent name slash) ∧
          name.utf8ByteSize ≤ longestName ∧ names = parent ++ [name]) := by
  constructor
  · rintro ⟨entries, hfind⟩
    obtain ⟨t, htarget, hrest⟩ := bind_eq_ok.mp hfind
    cases t with
    | directory there =>
      dsimp only at hrest
      cases hget : root.get? there with
      | none => rw [hget] at hrest; cases hrest
      | some tree =>
        rw [hget] at hrest
        obtain ⟨rfl, rfl⟩ := Prod.mk.inj (Except.ok.inj hrest)
        exact ⟨get?_eq_directory.mpr ⟨entries, hget⟩, .inl htarget⟩
    | entry parent name slash =>
      obtain ⟨found, hfound, hrest⟩ := bind_eq_ok.mp hrest
      obtain ⟨hshort, hget⟩ := lookupName_eq_ok.mp hfound
      cases found with
      | none => cases hrest
      | some tree => cases tree with
        | file content => dsimp only at hrest; split_ifs at hrest; cases hrest
        | directory _ =>
          obtain ⟨rfl, hentries⟩ := Prod.mk.inj (Except.ok.inj hrest)
          rw [hentries] at hget
          exact ⟨get?_eq_directory.mpr ⟨entries, hget⟩,
            .inr ⟨parent, name, slash, htarget, hshort, rfl⟩⟩
  · rintro ⟨hkind, htarget | ⟨parent, name, slash, htarget, hshort, rfl⟩⟩
    · obtain ⟨entries, hget⟩ := get?_eq_directory.mp hkind
      refine ⟨entries, bind_eq_ok.mpr ⟨_, htarget, ?_⟩⟩
      simp only [hget]
    · obtain ⟨entries, hget⟩ := get?_eq_directory.mp hkind
      have hfound := lookupName_eq_ok.mpr ⟨hshort, hget⟩
      exact ⟨entries, bind_eq_ok.mpr ⟨_, htarget, bind_eq_ok.mpr ⟨_, hfound, rfl⟩⟩⟩

theorem IsDirectoryOf.kind? {paths : List String} (h : root.IsDirectoryOf paths names) :
    root.kind? names = some .directory := by
  obtain ⟨path, -, hfind⟩ := h
  exact (find_eq_directory_iff.mp hfind).1

theorem IsDirectoryOf.mono {paths : List String} (hmore : ∀ names,
    root.kind? names = some .directory → other.kind? names = some .directory)
    (h : root.IsDirectoryOf paths names) : other.IsDirectoryOf paths names := by
  obtain ⟨path, hmem, hfind⟩ := h
  refine ⟨path, hmem, find_eq_directory_iff.mpr ?_⟩
  obtain ⟨hkind, htarget | ⟨parent, name, slash, htarget, hrest⟩⟩ := find_eq_directory_iff.mp hfind
  · exact ⟨hmore names hkind, .inl (target_mono hmore htarget)⟩
  · exact ⟨hmore names hkind, .inr ⟨parent, name, slash, target_mono hmore htarget, hrest⟩⟩

/-! ## Footprints -/

/-- Whether two trees differ at some places and by new directories of some paths only. -/
structure ChangesOnly (paths : List String) (places : List (List String))
    (root after : FileTree) : Prop where
  directories : ∀ names, root.kind? names = some .directory → after.kind? names = some .directory
  elsewhere : ∀ names ∉ places, after.kind? names = root.kind? names ∨
    root.kind? names = none ∧ after.IsDirectoryOf paths names

namespace ChangesOnly

variable {paths : List String} {places more : List (List String)}

protected theorem refl (root : FileTree) : ChangesOnly paths places root root :=
  ⟨fun _ h => h, fun _ _ => .inl rfl⟩

/-- **Changes add up.** -/
theorem trans (h : ChangesOnly paths places root mid) (h' : ChangesOnly paths more mid after) :
    ChangesOnly paths (places ++ more) root after := by
  refine ⟨fun names hdir => h'.directories names (h.directories names hdir), fun names hnot => ?_⟩
  obtain ⟨hplaces, hmore⟩ := not_or.mp (List.mem_append.not.mp hnot)
  rcases h.elsewhere names hplaces with hsame | ⟨hfree, hmade⟩
  · rw [← hsame]
    exact h'.elsewhere names hmore
  · exact .inr ⟨hfree, hmade.mono h'.directories⟩

theorem widen (h : ChangesOnly paths places root after) (hsub : places ⊆ more) :
    ChangesOnly paths more root after :=
  ⟨h.directories, fun names hnot => h.elsewhere names fun hmem => hnot (hsub hmem)⟩

theorem of_kind? (hfree : ∀ names ∈ places, root.kind? names ≠ some .directory)
    (h : ∀ names ∉ places, after.kind? names = root.kind? names) :
    ChangesOnly paths places root after := by
  refine ⟨fun names hdir => ?_, fun names hnot => .inl (h names hnot)⟩
  rw [h names fun hmem => hfree names hmem hdir, hdir]

theorem kind (h : ChangesOnly paths places root after) (hroot : root.kind = .directory) :
    after.kind = .directory := by
  have hafter := h.directories [] (by rw [kind?_nil, hroot])
  simpa using hafter

theorem kind_eq (h : ChangesOnly paths places root after) (hnot : [] ∉ places) :
    after.kind = root.kind := by
  rcases h.elsewhere [] hnot with hsame | ⟨hnone, -⟩
  · simpa using hsame
  · simp at hnone

end ChangesOnly

/-! ## Operations -/

theorem kind?_eq_directory_of_begins {longer : List String} {k : Kind} (h : names <+: longer)
    (hne : longer ≠ names) (hkind : root.kind? longer = some k) :
    root.kind? names = some .directory := by
  obtain ⟨more, rfl⟩ := h
  rcases List.eq_nil_or_concat more with rfl | ⟨front, last, rfl⟩
  · exact absurd (List.append_nil names) hne
  · rw [List.concat_eq_append, ← List.append_assoc] at hkind
    exact kind?_eq_directory_above (List.prefix_append names front)
      (kind?_eq_directory_of_append hkind)

theorem kind?_eq_none_below {longer : List String} (h : names <+: longer) (hne : longer ≠ names)
    (hkind : root.kind? names ≠ some .directory) : root.kind? longer = none := by
  cases hlonger : root.kind? longer with
  | none => rfl
  | some k => exact absurd (kind?_eq_directory_of_begins h hne hlonger) hkind

section Places

variable (hparent : root.kind? parent = some .directory)

include hparent

theorem kind?_set_new_directory (hfree : root.kind? (parent ++ [name]) = none)
    (names : List String) : (root.set (parent ++ [name]) emptyDirectory).kind? names =
      if names = parent ++ [name] then some .directory else root.kind? names := by
  split_ifs with heq
  · rw [heq, kind?_new_directory hparent]
  · rw [kind?_set name _ hparent]
    split_ifs with hbegins
    · rw [kind?_eq_none_below hbegins heq (by simp [hfree])]
      obtain ⟨below, rfl⟩ := hbegins
      cases below with
      | nil => exact absurd (List.append_nil _) heq
      | cons next below => simp [emptyDirectory, kind?_cons, child?]
    · rfl

theorem kind?_set_new_file (hfree : root.kind? (parent ++ [name]) ≠ some .directory)
    (content : ByteArray) (names : List String) :
    (root.set (parent ++ [name]) (file content)).kind? names =
      if names = parent ++ [name] then some (.file content) else root.kind? names := by
  rw [kind?_set_file hparent]
  split_ifs with heq hbegins
  · rfl
  · rw [kind?_eq_none_below hbegins heq hfree]
  · rfl

end Places

theorem kind?_erase_file (hfree : root.kind? (parent ++ [name]) ≠ some .directory)
    (names : List String) : (root.erase (parent ++ [name])).kind? names =
      if names = parent ++ [name] then none else root.kind? names := by
  rw [kind?_erase]
  by_cases heq : names = parent ++ [name]
  · rw [if_pos heq, if_pos (heq ▸ List.prefix_rfl)]
  · rw [if_neg heq]
    split_ifs with hbegins
    · rw [kind?_eq_none_below hbegins heq hfree]
    · rfl

/-- Whether a path leads to some names, whether something has them or not. -/
def LeadsTo (root : FileTree) (path : String) (names : List String) : Prop :=
  ∃ parent name, root.Leads path parent name ∧ names = parent ++ [name]

theorem LeadsTo.mono (hmore : ∀ names, root.kind? names = some .directory →
    other.kind? names = some .directory) (h : root.LeadsTo path names) :
    other.LeadsTo path names := by
  obtain ⟨parent, name, hleads, rfl⟩ := h
  exact ⟨parent, name, hleads.mono hmore, rfl⟩

theorem LeadsTo.eq_of_target {slash : Bool} (h : root.LeadsTo path names)
    (htarget : root.target path = .ok (.entry parent name slash)) : names = parent ++ [name] := by
  obtain ⟨parent', name', hleads, rfl⟩ := h
  obtain ⟨rfl, rfl, -⟩ := Target.entry.inj (Except.ok.inj (hleads.target.symm.trans htarget))
  rfl

variable {paths : List String}

/-- **Making a directory makes a directory of its path only.** -/
theorem changesOnly_makeDir (h : root.makeDir path = .ok after) (hmem : path ∈ paths) :
    ChangesOnly paths [] root after := by
  obtain ⟨parent, name, slash, htarget, hshort, hfree, rfl⟩ := makeDir_eq_ok h
  by_cases hroot : root.kind = .directory
  · have hparent := kind?_of_target_entry hroot htarget
    have hkept := kind?_directory_kept hparent hfree
    refine ⟨hkept, fun names _ => ?_⟩
    by_cases heq : names = parent ++ [name]
    · subst heq
      refine .inr ⟨hfree, path, hmem, find_eq_directory_iff.mpr ⟨kind?_new_directory hparent, ?_⟩⟩
      exact .inr ⟨parent, name, slash, target_mono hkept htarget, hshort, rfl⟩
    · rw [kind?_set_new_directory hparent hfree, if_neg heq]
      exact .inl rfl
  · rw [set_of_kind_file hroot]
    exact .refl root

/-- **Writing a file changes what its path leads to only.** -/
theorem changesOnly_write (paths : List String) (hroot : root.kind = .directory)
    (h : root.write path content = .ok after) :
    ∃ names, root.LeadsTo path names ∧ after.kind? names = some (.file content) ∧
      ChangesOnly paths [names] root after := by
  obtain ⟨parent, name, hleads, hfree, rfl⟩ := write_eq_ok h
  have hset := kind?_set_new_file (kind?_of_target_entry hroot hleads.target) hfree content
  refine ⟨parent ++ [name], ⟨parent, name, hleads, rfl⟩, by rw [hset, if_pos rfl],
    .of_kind? (by simpa using hfree) fun names hnot => ?_⟩
  rw [hset, if_neg (by simpa using hnot)]

/-- **Moving a file changes what its old path and its new one lead to only.** -/
theorem changesOnly_move (paths : List String) (hleads : root.LeadsTo path names)
    (hkind : root.kind? names = some (.file content)) (h : root.move path new = .ok after) :
    ∃ newNames, root.LeadsTo new newNames ∧ after.kind? newNames = some (.file content) ∧
      (names ≠ newNames → after.kind? names = none) ∧
      ChangesOnly paths [newNames, names] root after := by
  obtain ⟨parent, name, hleads, rfl⟩ := hleads
  obtain ⟨newParent, newName, hnew, hfree, rfl⟩ := move_eq_ok hleads hkind h
  refine ⟨newParent ++ [newName], ⟨newParent, newName, hnew, rfl⟩, ?_⟩
  by_cases hsame : parent ++ [name] = newParent ++ [newName]
  · rw [if_pos hsame]
    exact ⟨hsame ▸ hkind, fun hne => absurd hsame hne, .refl root⟩
  · have hfile : root.kind? (parent ++ [name]) ≠ some .directory := by simp [hkind]
    have herase := sameDirectories_erase hfile
    have hparent := (herase _).mp (kind?_of_target_entry (kind_eq_directory hkind) hnew.target)
    have hmoved := kind?_set_new_file hparent (fun hdir => hfree ((herase _).mpr hdir)) content
    simp only [kind?_erase_file hfile] at hmoved
    rw [if_neg hsame]
    refine ⟨by rw [hmoved, if_pos rfl], fun hne => by rw [hmoved, if_neg hne, if_pos rfl],
      .of_kind? (by simp [hfree, hkind]) fun names hnot => ?_⟩
    obtain ⟨hnewNames, hnames⟩ : names ≠ newParent ++ [newName] ∧ names ≠ parent ++ [name] := by
      simpa using hnot
    rw [hmoved, if_neg hnewNames, if_neg hnames]

/-- The paths of the directories that a path needs, the longest one first. -/
def directoriesAbove (path : String) : List String :=
  match parent? path with
  | none => []
  | some up => ancestors up

section Directories

variable {α : Type}

/-- Whether a computation makes directories of some paths and changes nothing else. -/
def MakesOnly (paths : List String) (computation : StateM FaultyTree α) : Prop :=
  ∀ state, ChangesOnly paths [] state.tree (computation.run state).2.tree

theorem respects_makesOnly (paths : List String) :
    Respects fun α (computation _ : StateM FaultyTree α) => MakesOnly paths computation where
  pure _ _ := .refl _
  bind h hnext state := (h state).trans (hnext _ _)

theorem makesOnly_of_looks (paths : List String) {computation : StateM FaultyTree α}
    (h : FaultyTree.Looks computation) : MakesOnly paths computation := fun state => by
  rw [(h state).1]
  exact .refl _

end Directories

theorem makesOnly_createDir {paths : List String} (hmem : path ∈ paths) :
    MakesOnly paths (FileSystem.createDir path : StateM FaultyTree _) := fun state => by
  rcases hrun : (FileSystem.createDir path : StateM FaultyTree _).run state with ⟨outcome, after⟩
  rcases FaultyTree.createDir_cases hrun with ⟨-, hmake⟩ | ⟨-, hsame⟩
  · exact changesOnly_makeDir hmake hmem
  · rw [hsame]
    exact .refl _

/-- **Making some directories makes directories of their paths only**, whatever goes wrong. -/
theorem makesOnly_createDirsOf (paths : List String) :
    MakesOnly paths (createDirsOf paths : StateM FaultyTree (Except FileError Unit)) :=
  (respects_makesOnly paths).createDirsOf
    (fun path => makesOnly_of_looks paths (FaultyTree.looks_isDirectory path))
    fun _ => makesOnly_createDir

theorem changesOnly_createDirsOf (paths : List String) (root : FileTree) :
    ChangesOnly paths [] root
      ((createDirsOf paths : StateM FileTree (Except FileError Unit)).run root).2 := by
  have hmade := makesOnly_createDirsOf paths ⟨root, []⟩
  rwa [FaultyTree.faultless_createDirsOf paths root] at hmade

/-! ## Files that are left -/

/-- Whether a file that a path leads to has got some content and nothing else has changed, but for
new directories above a path. -/
def LeavesFile (above path : String) (content : ByteArray) (root after : FileTree) : Prop :=
  ∃ names, after.LeadsTo path names ∧ after.kind? names = some (.file content) ∧
    ChangesOnly (directoriesAbove above) [names] root after

theorem leavesFile_of_write {above : String}
    (hmade : ChangesOnly (directoriesAbove above) [] root mid)
    (h : mid.write path content = .ok after) :
    after = mid ∨ LeavesFile above path content root after := by
  by_cases hkind : mid.kind = .directory
  · obtain ⟨names, hleads, hcontent, hwrites⟩ :=
      changesOnly_write (directoriesAbove above) hkind h
    exact .inr ⟨names, hleads.mono hwrites.directories, hcontent, hmade.trans hwrites⟩
  · obtain ⟨parent, name, -, -, rfl⟩ := write_eq_ok h
    exact .inl (set_of_kind_file hkind parent name _)

/-! ## Paths elsewhere -/

/-- The names that are looked up while some pieces of a path are followed. -/
def lookedUp (root : FileTree) : List String → List String → List (List String)
  | _, [] => []
  | here, piece :: pieces =>
    if piece = "" ∨ piece = "." then lookedUp root here pieces
    else if piece = ".." then lookedUp root here.dropLast pieces
    else if longestName < piece.utf8ByteSize then []
    else (here ++ [piece]) ::
      match root.kind? (here ++ [piece]) with
      | some .directory => lookedUp root (here ++ [piece]) pieces
      | _ => []

variable {places : List (List String)} {here : List String}

/-- In a new directory a walk finds new directories only. -/
theorem ChangesOnly.resolve_new (h : ChangesOnly paths places root after) {pieces : List String}
    (hplain : ∀ piece ∈ pieces, piece ≠ ".." ∧ piece.utf8ByteSize ≤ longestName)
    (hfree : root.kind? here = none) (hnew : after.kind? here = some .directory)
    (hlooked : ∀ names ∈ after.lookedUp here pieces, names ∉ places) :
    after.resolve here pieces = .error .notFound ∨ after.resolve here pieces = .ok .directory := by
  induction pieces generalizing here with
  | nil =>
    right
    rw [resolve, hnew]
  | cons piece pieces ih =>
    obtain ⟨hup, hshort⟩ := hplain piece List.mem_cons_self
    have hrest := fun p hp => hplain p (List.mem_cons_of_mem piece hp)
    rw [lookedUp] at hlooked
    rw [resolve]
    split_ifs at hlooked ⊢ with hidle hlong hnil
    · exact ih hrest hfree hnew hlooked
    · omega
    all_goals
      have hbelow : root.kind? (here ++ [piece]) = none :=
        kind?_eq_none_below (List.prefix_append here [piece]) (by simp) (by simp [hfree])
      rcases h.elsewhere _ (hlooked _ List.mem_cons_self) with hsame | ⟨-, hmade⟩
      · rw [hsame, hbelow]
        exact .inl rfl
      · rw [hmade.kind?] at hlooked ⊢
        exact ih hrest hbelow hmade.kind? fun names hmem =>
          hlooked names (List.mem_cons_of_mem _ hmem)

/-- A walk leads to the same as before, if it comes to no place that has changed, goes straight on
behind the first name that was missing, and does not end at a new directory. -/
theorem ChangesOnly.resolve_eq (h : ChangesOnly paths places root after) {pieces : List String}
    (hsteady : ∀ more, root.behindMissing here pieces = some more →
      ∀ piece ∈ more, piece ≠ ".." ∧ piece.utf8ByteSize ≤ longestName)
    (hhere : root.kind? here = some .directory)
    (hlooked : ∀ names ∈ after.lookedUp here pieces, names ∉ places)
    (hold : after.resolve here pieces = .ok .directory →
      root.resolve here pieces = .ok .directory) :
    after.resolve here pieces = root.resolve here pieces := by
  -- both walks go on together up to a name that was missing; behind it only new directories follow
  induction pieces generalizing here with
  | nil => rw [resolve, resolve, hhere, h.directories here hhere]
  | cons piece pieces ih =>
    rw [lookedUp] at hlooked
    rw [behindMissing] at hsteady
    rw [resolve, resolve] at hold ⊢
    split_ifs at hlooked hsteady hold ⊢ with hidle hup hlong hnil
    · exact ih hsteady hhere hlooked hold
    · exact ih hsteady (kind?_dropLast hhere) hlooked hold
    · rfl
    all_goals
      have hnext := fun names hmem => hlooked names (List.mem_cons_of_mem _ hmem)
      rcases h.elsewhere _ (hlooked _ List.mem_cons_self) with hsame | ⟨hfree, hmade⟩
      · rw [hsame] at hnext hold ⊢
        cases hkind : root.kind? (here ++ [piece]) with
        | none => rfl
        | some k => cases k with
          | file content => rfl
          | directory =>
            rw [hkind] at hnext hold hsteady
            exact ih hsteady hkind hnext hold
      · rw [hfree] at hsteady hold ⊢
        rw [hmade.kind?] at hnext hold ⊢
        rcases h.resolve_new (hsteady pieces rfl) hfree hmade.kind? hnext with hnone | hdir
        · exact hnone
        · exact absurd (hold hdir) (by simp)

theorem behindSlash_eq_directory {slash : Bool} {outcome : Except FileError Kind} :
    behindSlash slash outcome = .ok .directory ↔ outcome = .ok .directory := by
  cases outcome with
  | error e => rfl
  | ok k => cases k with
    | directory => rfl
    | file content => cases slash <;> simp [behindSlash]

/-- **A path shows what it showed before**, if it goes by what has changed, is steady, and does not
name a new directory. -/
theorem ChangesOnly.shows_eq (h : ChangesOnly paths places root after)
    (hroot : root.kind = .directory) (hsteady : root.Steady path)
    (hlooked : ∀ names ∈ after.lookedUp [] (steps path), names ∉ places)
    (hold : after.shows path = .ok .directory → root.shows path = .ok .directory) :
    after.shows path = root.shows path := by
  by_cases hpath : IsPath path
  · rw [shows_of_isPath (h.kind hroot) hpath, shows_of_isPath hroot hpath, behindSlash_eq_directory,
      behindSlash_eq_directory] at hold
    exact shows_congr (h.kind hroot) hroot
      (h.resolve_eq hsteady (by rw [kind?_nil, hroot]) hlooked hold)
  · obtain ⟨e, he⟩ := target_of_not_isPath hpath
    rw [shows_of_error (he after), shows_of_error (he root)]

end Weblog.Files.FileTree
