import Mathlib.Tactic.Common
import Weblog.Proofs.Files.Operations
/-!
# What a path shows

A path shows a file with its content, a directory, or the reason why there is neither. Whether
something is there and what is read from it depends on nothing else.

* `resolve`: what some pieces of a path lead to.
* `shows`: what a path shows; `read_eq`: reading is a matter of what the path shows.
* **`shows_of_isPath`**: what a path shows, piece by piece.
* `behindMissing`: the pieces behind the first one that names nothing; a path on which there is such
  a piece is not found.
* `Steady`: a path that stays missing while directories are made on it.
-/

namespace Weblog.Files

/-- The text of a file. -/
def Kind.text : Kind → Except FileError String
  | .directory => .error .isDirectory
  | .file content =>
    match String.fromUTF8? content with
    | some text => .ok text
    | none => .error .notText

namespace FileTree

variable {root other : FileTree} {path : String} {here there : List String}

/-! ## Piece by piece -/

/-- What some pieces of a path lead to from a directory. -/
def resolve (root : FileTree) : List String → List String → Except FileError Kind
  | here, [] =>
    match root.kind? here with
    | some kind => .ok kind
    | none => .error .notFound
  | here, piece :: pieces =>
    if piece = "" ∨ piece = "." then resolve root here pieces
    else if piece = ".." then resolve root here.dropLast pieces
    else if longestName < piece.utf8ByteSize then .error .nameTooLong
    else
      match root.kind? (here ++ [piece]) with
      | none => .error .notFound
      | some (.file content) =>
        if pieces.isEmpty then .ok (.file content) else .error .notDirectory
      | some .directory => resolve root (here ++ [piece]) pieces

theorem resolve_append {rest : List String} (hrest : rest ≠ []) (before : List String) :
    ∀ here, root.resolve here (before ++ rest) =
      root.walk here before >>= fun there => root.resolve there rest := by
  induction before with
  | nil => intro here; rfl
  | cons piece before ih =>
    intro here
    have hmore : (before ++ rest).isEmpty = false := by simp [hrest]
    rw [List.cons_append, resolve, walk_cons]
    simp only [hmore, Bool.false_eq_true, if_false]
    split_ifs
    · exact ih here
    · exact ih here.dropLast
    · rfl
    · cases root.kind? (here ++ [piece]) with
      | none => rfl
      | some kind => cases kind with
        | file content => rfl
        | directory => exact ih (here ++ [piece])

theorem walk_append (before rest : List String) : ∀ here, root.walk here (before ++ rest) =
    root.walk here before >>= fun there => root.walk there rest := by
  induction before with
  | nil => intro here; rfl
  | cons piece before ih =>
    intro here
    rw [List.cons_append, walk_cons, walk_cons]
    split_ifs
    · exact ih here
    · exact ih here.dropLast
    · rfl
    · cases root.kind? (here ++ [piece]) with
      | none => rfl
      | some kind => cases kind with
        | file content => rfl
        | directory => exact ih (here ++ [piece])

theorem walk_dots (hhere : root.kind? here = some .directory) {last : String}
    (hlast : last = "." ∨ last = "..") : ∃ there, root.walk here [last] = .ok there ∧
      root.resolve here [last] = .ok .directory ∧ root.kind? there = some .directory := by
  rcases hlast with rfl | rfl
  · exact ⟨here, rfl, by simp [resolve, hhere], hhere⟩
  · have hup := kind?_dropLast hhere
    exact ⟨here.dropLast, rfl, by simp [resolve, hup], hup⟩

theorem resolve_of_walk {before : List String} (h : root.walk here before = .ok there)
    {rest : List String} (hrest : rest ≠ []) :
    root.resolve here (before ++ rest) = root.resolve there rest := by
  rw [resolve_append hrest, h]
  rfl

/-- A piece that is a name, and not a dot or two. -/
structure IsEntryName (piece : String) : Prop where
  nonempty : piece ≠ ""
  noDots : ¬(piece = "." ∨ piece = "..")

theorem IsEntryName.not_idle {piece : String} (h : IsEntryName piece) :
    ¬(piece = "" ∨ piece = ".") ∧ piece ≠ ".." :=
  ⟨fun hidle => hidle.elim h.nonempty fun hdot => h.noDots (.inl hdot),
    fun hup => h.noDots (.inr hup)⟩

theorem resolve_name {name : String} (hname : IsEntryName name) :
    root.resolve here [name] =
      if longestName < name.utf8ByteSize then .error .nameTooLong
      else match root.kind? (here ++ [name]) with
        | none => .error .notFound
        | some kind => .ok kind := by
  rw [resolve, if_neg hname.not_idle.1, if_neg hname.not_idle.2]
  split_ifs with hlong hnil
  · rfl
  · cases hkind : root.kind? (here ++ [name]) with
    | none => rfl
    | some kind => cases kind with
      | file content => rfl
      | directory => simp only [resolve, hkind]
  · exact absurd rfl hnil

/-! ## Whole paths -/

/-- What a path shows. -/
def shows (root : FileTree) (path : String) : Except FileError Kind :=
  (root.find path).map fun found => found.2.kind

theorem toBool_find (root : FileTree) (path : String) :
    (root.find path).toBool = (root.shows path).toBool := by
  rw [shows]
  cases root.find path <;> rfl

/-- **Reading is a matter of what the path shows.** -/
theorem read_eq (root : FileTree) (path : String) :
    root.read path = root.shows path >>= Kind.text := by
  rw [read, shows]
  cases root.find path with
  | error e => rfl
  | ok found =>
    obtain ⟨names, tree⟩ := found
    cases tree <;> rfl

/-- A slash behind a file leads nowhere. -/
def behindSlash (slash : Bool) : Except FileError Kind → Except FileError Kind
  | .ok (.file content) => if slash then .error .notDirectory else .ok (.file content)
  | outcome => outcome

theorem shows_of_error {e : FileError} (htarget : root.target path = .error e) :
    root.shows path = .error e := by
  rw [shows, find, htarget]
  rfl

theorem get?_of_kind? {names : List String} {kind : Kind} (h : root.kind? names = some kind) :
    ∃ tree, root.get? names = some tree ∧ tree.kind = kind := Option.map_eq_some_iff.mp h

theorem shows_of_directory (htarget : root.target path = .ok (.directory there))
    (hthere : root.kind? there = some .directory) : root.shows path = .ok .directory := by
  obtain ⟨tree, hget, hkind⟩ := get?_of_kind? hthere
  have hfind : root.find path = .ok (there, tree) := by
    rw [find, htarget]
    simp only [bind, Except.bind, hget]
  rw [shows, hfind, ← hkind]
  rfl

theorem shows_of_entry {parent : List String} {name : String} {slash : Bool}
    (htarget : root.target path = .ok (.entry parent name slash)) (hname : IsEntryName name) :
    root.shows path = behindSlash slash (root.resolve parent [name]) := by
  rw [shows, find, htarget, resolve_name hname]
  simp only [bind, Except.bind, lookupName, kind?]
  by_cases hlong : longestName < name.utf8ByteSize
  · rw [if_pos hlong, if_pos hlong]
    rfl
  · rw [if_neg hlong, if_neg hlong]
    cases root.get? (parent ++ [name]) with
    | none => rfl
    | some tree => cases tree with
      | file content => cases slash <;> rfl
      | directory entries => rfl

theorem ne_empty_of_mem_steps (path : String) {step : String} (h : step ∈ steps path) :
    step ≠ "" := by
  simpa using (List.mem_filter.mp h).2

/-- **What a path shows, piece by piece.** -/
theorem shows_of_isPath (hroot : root.kind = .directory) (hpath : IsPath path) :
    root.shows path = behindSlash (endsInSlash path) (root.resolve [] (steps path)) := by
  have htop : root.kind? [] = some .directory := by rw [kind?_nil, hroot]
  have htarget := target_of_isPath hpath root
  cases hreverse : (steps path).reverse with
  | nil =>
    rw [hreverse] at htarget
    rw [shows_of_directory htarget htop, List.reverse_eq_nil_iff.mp hreverse, resolve, htop]
    rfl
  | cons last before =>
    have hsteps := List.reverse_eq_cons_iff.mp hreverse
    have hlast : last ≠ "" := ne_empty_of_mem_steps path (by rw [hsteps]; simp)
    rw [hreverse] at htarget
    rw [hsteps, resolve_append (List.cons_ne_nil last [])]
    dsimp only at htarget
    by_cases hdots : last = "." ∨ last = ".."
    · rw [if_pos hdots, List.reverse_cons, walk_append] at htarget
      cases hwalk : root.walk [] before.reverse with
      | error e =>
        rw [hwalk] at htarget
        exact shows_of_error htarget
      | ok there =>
        obtain ⟨next, hnext, hresolve, hkind⟩ :=
          walk_dots (kind?_of_walk before.reverse hwalk htop) hdots
        rw [hwalk] at htarget
        simp only [bind, Except.bind, hnext] at htarget ⊢
        rw [shows_of_directory htarget hkind, hresolve]
        rfl
    · rw [if_neg hdots] at htarget
      cases hwalk : root.walk [] before.reverse with
      | error e =>
        rw [hwalk] at htarget
        exact shows_of_error htarget
      | ok there =>
        rw [hwalk] at htarget
        exact shows_of_entry htarget ⟨hlast, hdots⟩

theorem target_of_not_isPath (h : ¬IsPath path) : ∃ e, ∀ root, target root path = .error e := by
  unfold target
  split_ifs with hnul hempty hlong
  · exact ⟨_, fun _ => rfl⟩
  · exact ⟨_, fun _ => rfl⟩
  · exact ⟨_, fun _ => rfl⟩
  · exact absurd ⟨by simpa using hnul, hempty, Nat.not_lt.mp hlong⟩ h

theorem shows_congr (hroot : root.kind = .directory) (hother : other.kind = .directory)
    (h : root.resolve [] (steps path) = other.resolve [] (steps path)) :
    root.shows path = other.shows path := by
  by_cases hpath : IsPath path
  · rw [shows_of_isPath hroot hpath, shows_of_isPath hother hpath, h]
  · obtain ⟨e, he⟩ := target_of_not_isPath hpath
    rw [shows_of_error (he root), shows_of_error (he other)]

/-! ## Missing pieces -/

/-- The pieces behind the first one that names nothing, if a walk comes to such a piece. -/
def behindMissing (root : FileTree) : List String → List String → Option (List String)
  | _, [] => none
  | here, piece :: pieces =>
    if piece = "" ∨ piece = "." then behindMissing root here pieces
    else if piece = ".." then behindMissing root here.dropLast pieces
    else if longestName < piece.utf8ByteSize then none
    else
      match root.kind? (here ++ [piece]) with
      | none => some pieces
      | some (.file _) => none
      | some .directory => behindMissing root (here ++ [piece]) pieces

theorem resolve_of_behindMissing {pieces more : List String}
    (h : root.behindMissing here pieces = some more) :
    root.resolve here pieces = .error .notFound := by
  fun_induction behindMissing root here pieces with
  | case1 => cases h
  | case2 here piece pieces hidle ih => rw [resolve, if_pos hidle, ih h]
  | case3 here pieces hidle ih => rw [resolve, if_neg hidle, if_pos rfl, ih h]
  | case4 => cases h
  | case5 here piece pieces hidle hup hlong hkind =>
    rw [resolve, if_neg hidle, if_neg hup, if_neg hlong, hkind]
  | case6 => cases h
  | case7 here piece pieces hidle hup hlong hkind ih =>
    rw [resolve, if_neg hidle, if_neg hup, if_neg hlong, hkind]
    exact ih h

theorem behindMissing_of_walk {before : List String} (h : root.walk here before = .ok there)
    (rest : List String) :
    root.behindMissing here (before ++ rest) = root.behindMissing there rest := by
  induction before generalizing here with
  | nil => rw [List.nil_append, ← Except.ok.inj h]
  | cons piece before ih =>
    rw [walk_cons] at h
    rw [List.cons_append, behindMissing]
    split_ifs at h ⊢
    · exact ih h
    · exact ih h
    · cases hkind : root.kind? (here ++ [piece]) with
      | none => rw [hkind] at h; cases h
      | some kind => cases kind with
        | file content => rw [hkind] at h; cases h
        | directory => rw [hkind] at h; exact ih h

theorem behindMissing_name {name : String} (hname : IsEntryName name)
    (hshort : name.utf8ByteSize ≤ longestName) (rest : List String) :
    root.behindMissing here (name :: rest) =
      match root.kind? (here ++ [name]) with
      | none => some rest
      | some (.file _) => none
      | some .directory => root.behindMissing (here ++ [name]) rest := by
  rw [behindMissing, if_neg hname.not_idle.1, if_neg hname.not_idle.2, if_neg (by omega)]

/-- Whether the pieces of a path behind the first one that names nothing are short and lead down. -/
def Steady (root : FileTree) (path : String) : Prop :=
  ∀ more, root.behindMissing [] (steps path) = some more →
    ∀ piece ∈ more, piece ≠ ".." ∧ piece.utf8ByteSize ≤ longestName

theorem steady_of_shows (hroot : root.kind = .directory)
    (h : (root.shows path).toBool = true) : root.Steady path := by
  intro more hmore
  by_cases hpath : IsPath path
  · rw [shows_of_isPath hroot hpath, resolve_of_behindMissing hmore] at h
    cases h
  · obtain ⟨e, he⟩ := target_of_not_isPath hpath
    rw [shows_of_error (he root)] at h
    cases h

end FileTree

end Weblog.Files
