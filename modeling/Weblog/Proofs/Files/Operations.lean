import Mathlib.Tactic.Common
import Weblog.Proofs.Files.Targets
import Weblog.Proofs.Outcomes
/-!
# Files that are written, moved and read

* `Holds`: a path leads to a file with some content.
* `read_of_holds`: the text of such a file is read.
* `change_cases`: an operation on a tree does all that it says or nothing.
* `write_eq_ok`, `move_eq_ok`: what writing a file and giving it another path do to a tree.
* **`holds_write`, `holds_move`**: the path that is written then leads to the content, and so does
  the new path.
-/

namespace Weblog.Files

namespace FileTree

variable {root after : FileTree} {path new : String} {parent : List String} {name : String}
  {content : ByteArray}

theorem get?_eq_file {names : List String} :
    root.get? names = some (file content) ↔ root.kind? names = some (.file content) := by
  rw [kind?, Option.map_eq_some_iff]
  constructor
  · exact fun h => ⟨file content, h, rfl⟩
  · rintro ⟨tree, hget, hkind⟩
    cases tree with
    | file c => simp only [kind, Kind.file.injEq] at hkind; rw [hget, hkind]
    | directory entries => exact absurd hkind (by simp [kind])

theorem kind_eq_directory {k : Kind} (h : root.kind? (parent ++ [name]) = some k) :
    root.kind = .directory := by
  have hparent := kind?_eq_directory_of_append h
  simpa using kind?_eq_directory_above List.nil_prefix hparent

theorem lookupName_eq_ok {here : List String} {found : Option FileTree} :
    root.lookupName here name = .ok found ↔
      name.utf8ByteSize ≤ longestName ∧ root.get? (here ++ [name]) = found := by
  rw [lookupName]
  split_ifs with hlong
  · exact ⟨fun h => absurd h (by simp), fun h => absurd h.1 (by omega)⟩
  · rw [Except.ok.injEq]
    exact ⟨fun h => ⟨by omega, h⟩, fun h => h.2⟩

/-! ## Reading -/

/-- Whether a path leads to a file with some content. -/
def Holds (root : FileTree) (path : String) (content : ByteArray) : Prop :=
  ∃ parent name, root.Leads path parent name ∧
    root.kind? (parent ++ [name]) = some (.file content)

theorem find_of_leads (h : root.Leads path parent name)
    (hkind : root.kind? (parent ++ [name]) = some (.file content)) :
    root.find path = .ok (parent ++ [name], file content) := by
  have hfound := lookupName_eq_ok.mpr ⟨h.short, get?_eq_file.mpr hkind⟩
  rw [find]
  exact bind_eq_ok.mpr ⟨_, h.target, bind_eq_ok.mpr ⟨_, hfound, rfl⟩⟩

/-- **The text of a file is read.** -/
theorem read_of_holds {text : String} (h : root.Holds path text.toUTF8) :
    root.read path = .ok text := by
  obtain ⟨parent, name, hleads, hkind⟩ := h
  have htext : String.fromUTF8? text.toUTF8 = some text := dif_pos text.isValidUTF8
  refine bind_eq_ok.mpr ⟨_, find_of_leads hleads hkind, ?_⟩
  simp only [htext]

/-! ## Writing -/

theorem change_cases {operation : FileTree → Except FileError FileTree}
    {outcome : Except FileError Unit} (h : (change operation).run root = (outcome, after)) :
    outcome = .ok () ∧ operation root = .ok after ∨ (∃ e, outcome = .error e) ∧ after = root := by
  simp only [change, StateT.run] at h
  cases hoperation : operation root with
  | ok tree =>
    rw [hoperation] at h
    obtain ⟨rfl, rfl⟩ := Prod.mk.inj h
    exact .inl ⟨rfl, rfl⟩
  | error e =>
    rw [hoperation] at h
    obtain ⟨rfl, rfl⟩ := Prod.mk.inj h
    exact .inr ⟨⟨e, rfl⟩, rfl⟩

theorem eq_ok_of_change {operation : FileTree → Except FileError FileTree}
    (h : (change operation).run root = (.ok (), after)) : operation root = .ok after := by
  rcases change_cases h with ⟨-, hok⟩ | ⟨⟨_, herror⟩, -⟩
  · exact hok
  · cases herror

/-- **What writing does**: the path leads to a name that no directory has, and gets a file there. -/
theorem write_eq_ok (h : root.write path content = .ok after) :
    ∃ parent name, root.Leads path parent name ∧
      root.kind? (parent ++ [name]) ≠ some .directory ∧
      after = root.set (parent ++ [name]) (file content) := by
  obtain ⟨t, htarget, hlookup⟩ := bind_eq_ok.mp h
  cases t with
  | directory names => exact absurd hlookup (by simp)
  | entry parent name slash =>
    cases slash with
    | true => exact absurd hlookup (by simp)
    | false =>
      obtain ⟨found, hfound, hset⟩ := bind_eq_ok.mp hlookup
      obtain ⟨hshort, hget⟩ := lookupName_eq_ok.mp hfound
      refine ⟨parent, name, ⟨htarget, hshort⟩, ?_⟩
      rw [kind?, hget]
      cases found with
      | none => exact ⟨by simp, (Except.ok.inj hset).symm⟩
      | some tree => cases tree with
        | file old => exact ⟨by simp [kind], (Except.ok.inj hset).symm⟩
        | directory entries => exact absurd hset (by simp)

/-- **The content is where it has been written.** -/
theorem holds_write (hroot : root.kind = .directory) (h : root.write path content = .ok after) :
    after.Holds path content := by
  obtain ⟨parent, name, hleads, hfree, rfl⟩ := write_eq_ok h
  have hparent := kind?_of_target_entry hroot hleads.target
  have hsame := sameDirectories_set_file hparent hfree content
  exact ⟨parent, name, hsame.leads hleads, by rw [kind?_set_file hparent, if_pos rfl]⟩

theorem kind_of_write (h : root.write path content = .ok after)
    (hafter : after.kind = .directory) : root.kind = .directory := by
  obtain ⟨parent, name, -, -, rfl⟩ := write_eq_ok h
  cases root with
  | directory entries => rfl
  | file old =>
    have hset : (file old).set (parent ++ [name]) (file content) = file old := by
      cases parent <;> rfl
    rwa [hset] at hafter

/-! ## Moving -/

/-- **What moving a file does**: the new path leads to a name that no directory has, and the file
goes there. -/
theorem move_eq_ok (hleads : root.Leads path parent name)
    (hkind : root.kind? (parent ++ [name]) = some (.file content))
    (h : root.move path new = .ok after) :
    ∃ newParent newName, root.Leads new newParent newName ∧
      root.kind? (newParent ++ [newName]) ≠ some .directory ∧
      after = if parent ++ [name] = newParent ++ [newName] then root
        else (root.erase (parent ++ [name])).set (newParent ++ [newName]) (file content) := by
  obtain ⟨t, htarget, hrest⟩ := bind_eq_ok.mp h
  obtain rfl := Except.ok.inj (hleads.target.symm.trans htarget)
  obtain ⟨t, hnew, hlookup⟩ := bind_eq_ok.mp hrest
  cases t with
  | directory names => exact absurd hlookup (by simp)
  | entry newParent newName newSlash =>
    obtain ⟨source, hsource, hlookup⟩ := bind_eq_ok.mp hlookup
    obtain ⟨old, hold, hset⟩ := bind_eq_ok.mp hlookup
    obtain rfl := (lookupName_eq_ok.mp hsource).2.symm.trans (get?_eq_file.mpr hkind)
    obtain ⟨hshort, hget⟩ := lookupName_eq_ok.mp hold
    simp only at hset
    split_ifs at hset with hslash hdir hsame
    all_goals
      obtain rfl : newSlash = false := by simpa using hslash
      refine ⟨newParent, newName, ⟨hnew, hshort⟩, ?_, ?_⟩
      · rw [kind?, hget]
        cases old with
        | none => simp
        | some tree => cases tree with
          | file _ => simp [kind]
          | directory _ => exact absurd rfl hdir
    · rw [if_pos hsame, Except.ok.inj hset]
    · rw [if_neg hsame, Except.ok.inj hset]

/-- **The content is where it has been moved to.** -/
theorem holds_move (hroot : root.Holds path content) (h : root.move path new = .ok after) :
    after.Holds new content := by
  obtain ⟨parent, name, hleads, hkind⟩ := hroot
  obtain ⟨newParent, newName, hnew, hfree, rfl⟩ := move_eq_ok hleads hkind h
  split_ifs with hsame
  · exact ⟨newParent, newName, hnew, by rw [← hsame, hkind]⟩
  · have hfile : root.kind? (parent ++ [name]) ≠ some .directory := by rw [hkind]; simp
    have herase := sameDirectories_erase hfile
    have hparent := kind?_of_target_entry (kind_eq_directory hkind) hnew.target
    have hset := sameDirectories_set_file ((herase _).mp hparent)
      (fun hd => hfree ((herase _).mpr hd)) content
    refine ⟨newParent, newName, (herase.trans hset).leads hnew, ?_⟩
    rw [kind?_set_file ((herase _).mp hparent), if_pos rfl]

theorem kind_of_move (h : root.move path new = .ok after) : root.kind = .directory := by
  cases root with
  | directory entries => rfl
  | file content =>
    obtain ⟨t, -, hrest⟩ := bind_eq_ok.mp h
    obtain ⟨t', -, hlookup⟩ := bind_eq_ok.mp hrest
    cases t with
    | directory names => exact absurd hlookup (by simp)
    | entry parent name slash =>
      cases t' with
      | directory names => exact absurd hlookup (by simp)
      | entry newParent newName newSlash =>
        obtain ⟨source, hsource, hlookup⟩ := bind_eq_ok.mp hlookup
        obtain ⟨old, -, hset⟩ := bind_eq_ok.mp hlookup
        have hnone : (file content).get? (parent ++ [name]) = none := by cases parent <;> rfl
        obtain rfl := (lookupName_eq_ok.mp hsource).2.symm.trans hnone
        exact absurd hset (by simp)

end FileTree

end Weblog.Files
