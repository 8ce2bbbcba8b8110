import Mathlib.Tactic.Common
import Weblog.Proofs.Files.Operations
import Weblog.Proofs.Files.Pieces
/-!
# Paths that nothing has

A path that nothing has is not found, unless the system refuses it or it leads through a file.

* `Accepted`: paths that are short enough for the system, with all their steps.
* `NoFileAbove`: no file stands in front of a slash of the path.
* `walk_error`: a walk stops where there is nothing, or at a file.
* `find_cut`: a file that a path leads through stands in front of one of its slashes.
* **`read_missing`**: such a path is not found.
* `find_nameTooLong`: a name that is too long is refused.
-/

namespace Weblog.Files

/-- Whether a path is short enough for the system, with all its steps, and has no NUL. -/
structure Accepted (path : String) : Prop where
  noNul : '\x00' ∉ path.toList
  short : path.utf8ByteSize ≤ FileTree.longestPath
  shortSteps : ∀ step ∈ steps path, step.utf8ByteSize ≤ FileTree.longestName

namespace FileTree

variable {root : FileTree} {path : String} {name : String}

/-- Whether no file stands in front of a slash of a path. -/
def NoFileAbove (root : FileTree) (path : String) : Prop :=
  ∀ up rest, path = up ++ "/" ++ rest → ∀ names content, root.find up ≠ .ok (names, file content)

theorem find_ne_ok (h : (root.find path).toBool = false) (found : List String × FileTree) :
    root.find path ≠ .ok found := by
  intro hfound
  rw [hfound] at h
  exact absurd h (by simp [Except.toBool])

theorem noFileAbove_of_not_mem (h : '/' ∉ path.toList) : root.NoFileAbove path := by
  rintro up rest rfl
  exact absurd (by simp) h

theorem walk_error {e : FileError} (steps : List String) : ∀ {here : List String},
    (∀ step ∈ steps, step.utf8ByteSize ≤ longestName) → root.walk here steps = .error e →
      e = .notFound ∨ ∃ before name after there content, steps = before ++ name :: after ∧
        root.walk here before = .ok there ∧ ¬ (name = "." ∨ name = "..") ∧
        root.kind? (there ++ [name]) = some (.file content) := by
  induction steps with
  | nil => intro here _ h; exact absurd h (by simp [walk])
  | cons step steps ih =>
    intro here hshort h
    have hlater := fun s hs => hshort s (List.mem_cons_of_mem step hs)
    have hstep : ¬ longestName < step.utf8ByteSize :=
      Nat.not_lt.mpr (hshort step List.mem_cons_self)
    -- one more step in front of the walk to the file
    have hgo : ∀ {next : List String},
        (∀ more, root.walk here (step :: more) = root.walk next more) →
        root.walk next steps = .error e → e = .notFound ∨
          ∃ before name after there content, step :: steps = before ++ name :: after ∧
            root.walk here before = .ok there ∧ ¬ (name = "." ∨ name = "..") ∧
            root.kind? (there ++ [name]) = some (.file content) := by
      intro next hnext hwalk
      rcases ih hlater hwalk with he | ⟨before, name, after, there, content, rfl, hbefore, hfile⟩
      · exact Or.inl he
      · exact Or.inr ⟨step :: before, name, after, there, content, rfl,
          (hnext before).trans hbefore, hfile⟩
    rw [walk_cons] at h
    split_ifs at h with hidle hup
    · exact hgo (fun more => by rw [walk_cons, if_pos hidle]) h
    · exact hgo (fun more => by rw [walk_cons, if_neg hidle, if_pos hup]) h
    · cases hkind : root.kind? (here ++ [step]) with
      | none =>
        rw [hkind] at h
        exact Or.inl (Except.error.inj h).symm
      | some k => cases k with
        | file content =>
          refine Or.inr ⟨[], step, steps, here, content, rfl, by rw [walk], ?_, hkind⟩
          exact fun hdots => hdots.elim (fun hd => hidle (Or.inr hd)) hup
        | directory =>
          rw [hkind] at h
          exact hgo (fun more => by
            rw [walk_cons, if_neg hidle, if_neg hup, if_neg hstep, hkind]) h

/-- **A file that a path leads through** stands in front of one of its slashes. -/
theorem find_cut (hpath : Accepted path) {before after there : List String} {content : ByteArray}
    (hsteps : steps path = before ++ name :: after)
    (hslash : after ≠ [] ∨ endsInSlash path = true) (hwalk : root.walk [] before = .ok there)
    (hname : ¬ (name = "." ∨ name = ".."))
    (hfile : root.kind? (there ++ [name]) = some (.file content)) : ¬ root.NoFileAbove path := by
  intro hnone
  obtain ⟨up, rest, rfl, hup, hupSlash⟩ := steps_cut hsteps hslash
  have hisPath : IsPath up := by
    refine ⟨fun hnul => hpath.noNul ?_, ?_, ?_⟩
    · rw [String.toList_append, String.toList_append]
      exact List.mem_append_left _ (List.mem_append_left _ hnul)
    · rintro rfl
      exact absurd hup.symm (List.append_ne_nil_of_right_ne_nil before (List.cons_ne_nil name []))
    · have hsize := hpath.short
      rw [String.utf8ByteSize_append, String.utf8ByteSize_append] at hsize
      omega
  have htarget := target_eq_entry_iff.mpr ⟨hisPath, ⟨before, hup, hwalk⟩, hname, rfl⟩
  rw [hupSlash] at htarget
  have hshort := hpath.shortSteps name (by rw [hsteps]; simp)
  exact hnone up rest rfl _ _ (find_of_leads ⟨htarget, hshort⟩ hfile)

theorem walk_above (hpath : Accepted path) (habove : root.NoFileAbove path)
    {before after : List String} (hsteps : steps path = before ++ after)
    (hmore : ∀ b name a, before = b ++ name :: a → ¬ (name = "." ∨ name = "..") → a ++ after ≠ [])
    {e : FileError} (hwalk : root.walk [] before = .error e) : e = .notFound := by
  have hshort := fun s hs => hpath.shortSteps s (hsteps ▸ List.mem_append_left after hs)
  rcases walk_error before hshort hwalk with
    he | ⟨b, name, a, there, content, rfl, hthere, hname, hfile⟩
  · exact he
  · rw [List.append_assoc, List.cons_append] at hsteps
    have hnext := hmore b name a rfl hname
    exact absurd habove (find_cut hpath hsteps (Or.inl hnext) hthere hname hfile)

theorem target_error (hpath : Accepted path) (habove : root.NoFileAbove path) {e : FileError}
    (h : root.target path = .error e) : e = .notFound := by
  by_cases hempty : path = ""
  · rw [target, if_neg (by simpa using hpath.noNul), if_pos hempty] at h
    exact (Except.error.inj h).symm
  rw [target_of_isPath ⟨hpath.noNul, hempty, hpath.short⟩] at h
  cases hreverse : (steps path).reverse with
  | nil => rw [hreverse] at h; exact absurd h (by simp)
  | cons last before =>
    have hsteps := List.reverse_eq_cons_iff.mp hreverse
    rw [hreverse] at h
    simp only at h
    split_ifs at h with hdots
    · cases hwalk : root.walk [] (last :: before).reverse with
      | ok there => rw [hwalk] at h; exact absurd h (by simp [Except.map])
      | error e' =>
        rw [hwalk] at h
        obtain rfl : e' = e := Except.error.inj h
        rw [List.reverse_cons] at hwalk
        refine walk_above hpath habove (hsteps.trans (List.append_nil _).symm) ?_ hwalk
        -- the last step is a dot or two, and no file
        intro b name a hcut hname hlast
        rw [List.append_nil] at hlast
        rw [hlast] at hcut
        rw [List.singleton_inj.mp (List.append_inj_right' hcut rfl)] at hdots
        exact hname hdots
    · cases hwalk : root.walk [] before.reverse with
      | ok there => rw [hwalk] at h; exact absurd h (by simp [Except.map])
      | error e' =>
        rw [hwalk] at h
        obtain rfl : e' = e := Except.error.inj h
        exact walk_above hpath habove hsteps (fun _ _ a _ _ => by simp) hwalk

theorem find_missing_entry {parent : List String} {slash : Bool}
    (htarget : root.target path = .ok (.entry parent name slash))
    (hshort : name.utf8ByteSize ≤ longestName) (hnone : ∀ found, root.find path ≠ .ok found)
    (hfile : slash = true → ∀ content, root.kind? (parent ++ [name]) ≠ some (.file content)) :
    root.find path = .error .notFound := by
  have hlookup : root.lookupName parent name = .ok (root.get? (parent ++ [name])) :=
    lookupName_eq_ok.mpr ⟨hshort, rfl⟩
  cases hget : root.get? (parent ++ [name]) with
  | none => simp only [find, htarget, bind, Except.bind, hlookup, hget]
  | some tree =>
    refine absurd ?_ (hnone (parent ++ [name], tree))
    cases tree with
    | directory entries => simp only [find, htarget, bind, Except.bind, hlookup, hget]
    | file content =>
      have hslash : ¬ slash = true := fun hs => hfile hs content (get?_eq_file.mp hget)
      simp only [find, htarget, bind, Except.bind, hlookup, hget, if_neg hslash]

/-- **A path that nothing has is not found**, if the system takes it and no file stands in the
way. -/
theorem read_missing (hpath : Accepted path) (hnone : ∀ found, root.find path ≠ .ok found)
    (habove : root.NoFileAbove path) : root.read path = .error .notFound := by
  suffices hfind : root.find path = .error .notFound by
    rw [read, hfind]
    rfl
  cases htarget : root.target path with
  | error e =>
    rw [find, htarget, target_error hpath habove htarget]
    rfl
  | ok t => cases t with
    | directory names =>
      cases hget : root.get? names with
      | none => simp only [find, htarget, bind, Except.bind, hget]
      | some tree =>
        refine absurd ?_ (hnone (names, tree))
        simp only [find, htarget, bind, Except.bind, hget]
    | entry parent name slash =>
      obtain ⟨-, ⟨before, hsteps, hwalk⟩, hdots, rfl⟩ := target_eq_entry_iff.mp htarget
      refine find_missing_entry htarget (hpath.shortSteps name (by rw [hsteps]; simp)) hnone ?_
      intro hslash content hfile
      exact find_cut hpath hsteps (Or.inr hslash) hwalk hdots hfile habove

theorem find_nameTooLong (hpath : IsPath path) (hslash : '/' ∉ path.toList)
    (hlong : longestName < path.utf8ByteSize) : root.find path = .error .nameTooLong := by
  have hsteps : steps path = [] ++ [path] := by
    rw [steps, pieces, List.splitOn_eq_singleton hslash, List.map_singleton,
      String.ofList_toList, List.filter_cons_of_pos (by simpa using hpath.nonempty)]
    rfl
  have hname : ¬ (path = "." ∨ path = "..") := by
    rintro (rfl | rfl) <;> exact absurd hlong (by decide)
  have htarget : root.target path = .ok (.entry [] path (endsInSlash path)) :=
    target_eq_entry_iff.mpr ⟨hpath, ⟨[], hsteps, by rw [walk]⟩, hname, rfl⟩
  have hlookup : root.lookupName [] path = .error .nameTooLong := by
    rw [lookupName, if_pos hlong]
  simp only [find, htarget, bind, Except.bind, hlookup]

end FileTree

end Weblog.Files
