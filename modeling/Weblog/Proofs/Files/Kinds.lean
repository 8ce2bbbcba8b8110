import Mathlib.Tactic.Common
import Weblog.Files.Tree
import Weblog.Proofs.Entries
/-!
# File trees as maps

What a tree has at every list of names determines what its operations do.

* `Kind`, `FileTree.kind?`: what is at some names, a file with its content or a directory.
* **`kind?_set`, `kind?_erase`**: a tree is changed at some names and below, and nowhere else.
* `kind?_set_file`: the same for a file.
* `kind?_eq_directory_of_append`: what is above a tree is a directory.
-/

namespace Weblog.Files

/-- What is at some names of a tree. -/
inductive Kind
  | file (content : ByteArray)
  | directory

namespace FileTree

def kind : FileTree → Kind
  | file content => .file content
  | directory _ => .directory

/-- What is below some names. -/
def kind? (root : FileTree) (names : List String) : Option Kind :=
  (root.get? names).map kind

/-- The tree that a name has in a directory. -/
def child? (tree : FileTree) (name : String) : Option FileTree :=
  match tree with
  | file _ => none
  | directory entries => entries.lookup name

/-! ## Names one by one -/

theorem get?_cons (root : FileTree) (name : String) (names : List String) :
    root.get? (name :: names) = (root.child? name).bind (·.get? names) := by
  cases root with
  | file content => rfl
  | directory entries =>
    rw [get?, child?]
    cases entries.lookup name <;> rfl

theorem get?_append (names more : List String) : ∀ root : FileTree,
    root.get? (names ++ more) = (root.get? names).bind (·.get? more) := by
  induction names with
  | nil => intro root; rfl
  | cons name names ih =>
    intro root
    rw [List.cons_append, get?_cons, get?_cons]
    cases root.child? name with
    | none => rfl
    | some tree => exact ih tree

@[simp] theorem kind?_nil (root : FileTree) : root.kind? [] = some root.kind := by
  rw [kind?, get?]
  rfl

theorem kind?_cons (root : FileTree) (name : String) (names : List String) :
    root.kind? (name :: names) = (root.child? name).bind (·.kind? names) := by
  rw [kind?, get?_cons, Option.map_bind]
  rfl

theorem kind?_eq_directory_of_append {root : FileTree} {names : List String} {name : String}
    {k : Kind} (h : root.kind? (names ++ [name]) = some k) :
    root.kind? names = some .directory := by
  rw [kind?, get?_append] at h
  rw [kind?]
  cases hget : root.get? names with
  | none => rw [hget] at h; exact absurd h (by simp)
  | some tree => cases tree with
    | file content => rw [hget] at h; exact absurd h (by simp [get?])
    | directory entries => rfl

theorem kind?_dropLast {root : FileTree} {names : List String}
    (h : root.kind? names = some .directory) : root.kind? names.dropLast = some .directory := by
  rcases List.eq_nil_or_concat names with rfl | ⟨before, last, rfl⟩
  · exact h
  · rw [List.concat_eq_append] at h ⊢
    rw [List.dropLast_concat]
    exact kind?_eq_directory_of_append h

theorem exists_entries {root : FileTree} (h : root.kind = .directory) :
    ∃ entries, root = directory entries := by
  cases root with
  | file content => exact absurd h (by simp [kind])
  | directory entries => exact ⟨entries, rfl⟩

/-! ## Changes -/

theorem child?_setEntry (name other : String) (tree : FileTree)
    (entries : List (String × FileTree)) :
    (directory (setEntry name tree entries)).child? other =
      if other = name then some tree else (directory entries).child? other :=
  lookup_setEntry ..

theorem set_cons {entries : List (String × FileTree)} {name : String} {names : List String}
    {tree : FileTree} (hnames : names ≠ []) (h : (directory entries).child? name = some tree)
    (new : FileTree) :
    (directory entries).set (name :: names) new =
      directory (setEntry name (tree.set names new) entries) := by
  rw [child?] at h
  rw [set.eq_4 _ _ _ _ hnames, h]

/-- **A tree is put at some names** of a directory, and nothing else changes. -/
theorem kind?_set {parent : List String} (name : String) (new : FileTree) :
    ∀ {root : FileTree}, root.kind? parent = some .directory → ∀ names,
      (root.set (parent ++ [name]) new).kind? names =
        if parent ++ [name] <+: names then new.kind? (names.drop (parent.length + 1))
        else root.kind? names := by
  induction parent with
  | nil =>
    intro root hparent names
    rw [kind?_nil, Option.some.injEq] at hparent
    obtain ⟨entries, rfl⟩ := exists_entries hparent
    cases names with
    | nil => rfl
    | cons n ns =>
      rw [List.nil_append, set, kind?_cons, child?_setEntry, kind?_cons]
      by_cases hn : n = name
      · subst hn
        simp
      · simp [hn, Ne.symm hn]
  | cons p parent ih =>
    intro root hparent names
    rw [kind?_cons] at hparent
    obtain ⟨tree, htree, hbelow⟩ := Option.bind_eq_some_iff.mp hparent
    cases root with
    | file content => exact absurd htree (by simp [child?])
    | directory entries =>
      rw [List.cons_append, set_cons (by simp) htree]
      cases names with
      | nil => rfl
      | cons n ns =>
        rw [kind?_cons, child?_setEntry, kind?_cons]
        by_cases hn : n = p
        · subst hn
          simp [ih hbelow, htree]
        · simp [hn, Ne.symm hn]

theorem kind?_file (content : ByteArray) (names : List String) :
    (file content).kind? names = if names = [] then some (.file content) else none := by
  cases names with
  | nil => rfl
  | cons name names => rw [kind?_cons]; rfl

theorem kind?_set_file {root : FileTree} {parent : List String}
    (h : root.kind? parent = some .directory) (name : String) (content : ByteArray)
    (names : List String) :
    (root.set (parent ++ [name]) (file content)).kind? names =
      if names = parent ++ [name] then some (.file content)
      else if parent ++ [name] <+: names then none
      else root.kind? names := by
  rw [kind?_set name _ h, kind?_file]
  by_cases hprefix : parent ++ [name] <+: names
  · obtain ⟨more, rfl⟩ := hprefix
    simp
  · have hne : names ≠ parent ++ [name] := fun e => hprefix (e ▸ List.prefix_rfl)
    rw [if_neg hprefix, if_neg hprefix, if_neg hne]

theorem child?_eraseEntry (name other : String) (entries : List (String × FileTree)) :
    (directory (eraseEntry name entries)).child? other =
      if other = name then none else (directory entries).child? other :=
  lookup_eraseEntry ..

theorem erase_cons {entries : List (String × FileTree)} {name : String} {names : List String}
    {tree : FileTree} (hnames : names ≠ []) (h : (directory entries).child? name = some tree) :
    (directory entries).erase (name :: names) =
      directory (setEntry name (tree.erase names) entries) := by
  rw [child?] at h
  rw [erase.eq_4 _ _ _ hnames, h]

theorem erase_cons_of_none {entries : List (String × FileTree)} {name : String}
    {names : List String} (hnames : names ≠ []) (h : (directory entries).child? name = none) :
    (directory entries).erase (name :: names) = directory entries := by
  rw [child?] at h
  rw [erase.eq_4 _ _ _ hnames, h]

/-- **What is at some names goes**, and nothing else changes. -/
theorem kind?_erase (parent : List String) (name : String) : ∀ (root : FileTree) names,
    (root.erase (parent ++ [name])).kind? names =
      if parent ++ [name] <+: names then none else root.kind? names := by
  induction parent with
  | nil =>
    intro root names
    cases root with
    | file content => rw [List.nil_append, erase, kind?_file]; cases names <;> simp
    | directory entries =>
      cases names with
      | nil => rfl
      | cons n ns =>
        rw [List.nil_append, erase, kind?_cons, child?_eraseEntry, kind?_cons]
        by_cases hn : n = name
        · subst hn
          simp
        · simp [hn, Ne.symm hn]
  | cons p parent ih =>
    intro root names
    cases root with
    | file content => rw [List.cons_append, erase, kind?_file]; cases names <;> simp
    | directory entries =>
      rw [List.cons_append]
      cases htree : (directory entries).child? p with
      | none =>
        rw [erase_cons_of_none (by simp) htree]
        cases names with
        | nil => rfl
        | cons n ns =>
          by_cases hn : n = p
          · subst hn
            simp [kind?_cons, htree]
          · simp [Ne.symm hn]
      | some tree =>
        rw [erase_cons (by simp) htree]
        cases names with
        | nil => rfl
        | cons n ns =>
          rw [kind?_cons, child?_setEntry, kind?_cons]
          by_cases hn : n = p
          · subst hn
            simp [ih, htree]
          · simp [hn, Ne.symm hn]

end FileTree

end Weblog.Files
