import Mathlib.Tactic.Common
import Weblog.Proofs.Files.Pieces
/-!
# Parents and neighbours of a path

A path is a sequence of steps. Its parents have fewer of them, and a path with another ending has
the same steps up to the last one that is a name.

* `stepsOf`, `steps_ofPieces`: the steps of some pieces.
* `exists_steps_of_namingPieces`: the last step that names something, with dots behind it.
* `IsAbove`: a path whose steps come first; `isAbove_of_mem_ancestors`: the parents of a path are
  above it.
* `hasEnding`, `newName`: whether the name of a path has an ending, and the name with it.
* **`exists_steps_of_withExtension`**: a path with another ending leads to another name in the same
  directory.
-/

namespace Weblog.Files

open FileTree

variable {path up : String}

/-! ## Steps of pieces -/

/-- The steps that some pieces are. -/
def stepsOf (pieces : List (List Char)) : List String :=
  (pieces.filter fun piece => piece ≠ []).map String.ofList

theorem stepsOf_append (front back : List (List Char)) :
    stepsOf (front ++ back) = stepsOf front ++ stepsOf back := by
  simp [stepsOf]

theorem stepsOf_singleton {piece : List Char} (h : piece ≠ []) :
    stepsOf [piece] = [String.ofList piece] := by
  simp [stepsOf, h]

theorem steps_ofPieces {pieces : List (List Char)} (h : ∀ piece ∈ pieces, '/' ∉ piece) :
    steps (ofPieces pieces) = stepsOf pieces := by
  rw [steps_eq_map, Files.pieces, ofPieces, String.toList_ofList]
  by_cases hnil : pieces = []
  · rw [hnil]
    rfl
  · rw [List.splitOn_intercalate '/' h hnil]
    rfl

/-! ## Naming pieces -/

theorem exists_idle_append (l : List (List Char)) :
    ∃ idle, l = idle ++ dropIdle l ∧ ∀ piece ∈ idle, piece = [] ∨ piece = ['.'] := by
  induction l with
  | nil => exact ⟨[], rfl, by simp⟩
  | cons piece before ih =>
    rw [dropIdle]
    split_ifs with h
    · obtain ⟨idle, hbefore, hidle⟩ := ih
      refine ⟨piece :: idle, by rw [List.cons_append, ← hbefore], fun q hq => ?_⟩
      rcases List.mem_cons.mp hq with rfl | hq
      · exact h.imp_right And.left
      · exact hidle q hq
    · exact ⟨[], rfl, by simp⟩

theorem dropIdle_eq_cons {l before : List (List Char)} {piece : List Char}
    (h : dropIdle l = piece :: before) : piece ≠ [] ∧ (piece = ['.'] → before = []) := by
  induction l with
  | nil => cases h
  | cons q l ih =>
    rw [dropIdle] at h
    split_ifs at h with hidle
    · exact ih h
    · obtain ⟨rfl, rfl⟩ := List.cons.inj h
      refine ⟨fun hnil => hidle (.inl hnil), fun hdot => ?_⟩
      by_contra hbefore
      exact hidle (.inr ⟨hdot, hbefore⟩)

theorem stepsOf_idle {idle : List (List Char)} (h : ∀ piece ∈ idle, piece = [] ∨ piece = ['.']) :
    ∀ step ∈ stepsOf idle, step = "." := by
  intro step hstep
  obtain ⟨piece, hpiece, rfl⟩ := List.mem_map.mp hstep
  obtain ⟨hmem, hne⟩ := List.mem_filter.mp hpiece
  rcases h piece hmem with rfl | rfl
  · exact absurd hne (by decide)
  · rfl

/-- **The last step that names something** has nothing but dots behind it. -/
theorem exists_steps_of_namingPieces {name : List Char} {before : List (List Char)}
    (h : namingPieces path = name :: before) : ∃ idle,
      steps path = stepsOf before.reverse ++ String.ofList name :: idle ∧ ∀ s ∈ idle, s = "." := by
  obtain ⟨idle, hpieces, hidle⟩ := exists_idle_append (pieces path).reverse
  have hnaming : dropIdle (pieces path).reverse = name :: before := h
  have hname := (dropIdle_eq_cons hnaming).1
  rw [hnaming, List.reverse_eq_iff] at hpieces
  refine ⟨stepsOf idle.reverse, ?_, stepsOf_idle fun piece hp => hidle piece (by simpa using hp)⟩
  rw [steps_eq_map, hpieces]
  change stepsOf _ = _
  rw [List.reverse_append, List.reverse_cons, stepsOf_append, stepsOf_append,
    stepsOf_singleton hname, List.append_assoc]
  rfl

theorem steps_of_namingPieces_nil (h : namingPieces path = []) : ∀ s ∈ steps path, s = "." := by
  obtain ⟨idle, hpieces, hidle⟩ := exists_idle_append (pieces path).reverse
  have hnaming : dropIdle (pieces path).reverse = [] := h
  rw [hnaming, List.append_nil, List.reverse_eq_iff] at hpieces
  rw [steps_eq_map, hpieces]
  exact stepsOf_idle fun piece hp => hidle piece (by simpa using hp)

theorem not_mem_of_mem_namingPieces (path : String) {piece : List Char}
    (h : piece ∈ namingPieces path) : '/' ∉ piece := by
  obtain ⟨idle, hpieces, -⟩ := exists_idle_append (pieces path).reverse
  have hmem : piece ∈ (pieces path).reverse := by
    rw [hpieces]
    exact List.mem_append_right idle h
  exact slash_not_mem (List.mem_reverse.mp hmem)

/-! ## Parents -/

/-- Whether the steps of a path come first in another one, with a step behind them that is not a
dot. -/
def IsAbove (up path : String) : Prop :=
  ∃ more, steps path = steps up ++ more ∧ (steps up ≠ [] → ∃ step ∈ more, step ≠ ".")

theorem IsAbove.trans {top : String} (h : IsAbove top up) (h' : IsAbove up path) :
    IsAbove top path := by
  obtain ⟨more, hup, hstep⟩ := h
  obtain ⟨more', hpath, -⟩ := h'
  refine ⟨more ++ more', by rw [hpath, hup, List.append_assoc], fun hne => ?_⟩
  obtain ⟨step, hmem, hdot⟩ := hstep hne
  exact ⟨step, List.mem_append_left more' hmem, hdot⟩

/-- **The parent of a path is above it.** -/
theorem isAbove_of_parent? (h : parent? path = some up) : IsAbove up path := by
  unfold parent? at h
  split at h
  · cases h
  · rename_i name before hnaming
    obtain ⟨idle, hsteps, -⟩ := exists_steps_of_namingPieces hnaming
    obtain ⟨between, hbefore, -⟩ := exists_idle_append before
    have hslash : ∀ piece ∈ (dropIdle before).reverse, '/' ∉ piece := by
      intro piece hp
      refine not_mem_of_mem_namingPieces path ?_
      rw [hnaming, hbefore]
      exact List.mem_cons_of_mem _ (List.mem_append_right between (List.mem_reverse.mp hp))
    have hup : steps up = stepsOf (dropIdle before).reverse := by
      dsimp only at h
      split_ifs at h with hroot
      · obtain rfl := Option.some.inj h
        obtain ⟨hnil, -⟩ := Bool.and_eq_true_iff.mp hroot
        rw [List.isEmpty_iff.mp hnil]
        decide
      · obtain rfl := Option.some.inj h
        exact steps_ofPieces hslash
    refine ⟨stepsOf between.reverse ++ String.ofList name :: idle, ?_, fun hne => ?_⟩
    · conv_lhs => rw [hsteps, hbefore]
      rw [hup, List.reverse_append, stepsOf_append, List.append_assoc]
    · refine ⟨String.ofList name, by simp, fun hdot => hne ?_⟩
      have hname : name = ['.'] := String.ofList_injective hdot
      rw [hup, (dropIdle_eq_cons hnaming).2 hname]
      rfl

theorem isAbove_of_mem_ancestorsUpTo (most : Nat) : ∀ {path : String},
    up ∈ ancestorsUpTo most path → up = path ∨ IsAbove up path := by
  induction most with
  | zero => intro path h; cases h
  | succ most ih =>
    intro path h
    rw [ancestorsUpTo] at h
    split at h
    · cases h
    · rename_i parent hparent
      rcases List.mem_cons.mp h with rfl | h
      · exact .inl rfl
      · have habove := isAbove_of_parent? hparent
        exact .inr ((ih h).elim (fun heq => heq ▸ habove) fun hup => hup.trans habove)

theorem isAbove_of_mem_ancestors {directory : String} (h : parent? path = some directory)
    (hup : up ∈ ancestors directory) : IsAbove up path :=
  have habove := isAbove_of_parent? h
  (isAbove_of_mem_ancestorsUpTo _ hup).elim (fun heq => heq ▸ habove) fun hup => hup.trans habove

/-! ## Other endings -/

/-- Whether the name of a path has an ending. -/
def hasEnding (ending path : String) : Bool :=
  match namingPieces path with
  | [] => false
  | name :: _ => name == stem name ++ '.' :: ending.toList

theorem mem_of_mem_stem {name : List Char} {c : Char} (h : c ∈ stem name) : c ∈ name := by
  have hfront : ∀ d, d ∈ (name.reverse.dropWhile (· != '.')).reverse → d ∈ name := by
    intro d hd
    exact List.mem_reverse.mp ((List.dropWhile_suffix _).mem (List.mem_reverse.mp hd))
  unfold stem at h
  split at h
  · exact h
  · exact h
  · exact hfront c ((List.dropLast_sublist _).mem h)

/-- The name that a path gets with another ending. -/
def newName (ending path : String) (name : List Char) : List Char :=
  if stem name = ['.'] ∧ endsInName path then ['.', '.'] else stem name ++ '.' :: ending.toList

theorem newName_ne_nil (ending path : String) (name : List Char) :
    newName ending path name ≠ [] := by
  unfold newName
  split_ifs <;> simp

theorem slash_not_mem_newName {ending : String} {name : List Char} (hending : '/' ∉ ending.toList)
    (hname : '/' ∉ name) : '/' ∉ newName ending path name := by
  unfold newName
  split_ifs
  · decide
  · intro hmem
    rcases List.mem_append.mp hmem with hmem | hmem
    · exact hname (mem_of_mem_stem hmem)
    · exact hending (by simpa using hmem)

/-- A new name that is not two dots differs from the old one, unless that has the ending already. -/
theorem ne_newName {ending : String} {name : List Char} {before : List (List Char)}
    (hnaming : namingPieces path = name :: before) (hnot : hasEnding ending path = false)
    (hdots : newName ending path name ≠ ['.', '.']) : name ≠ newName ending path name := by
  intro heq
  rw [hasEnding, hnaming] at hnot
  unfold newName at heq hdots
  split_ifs at heq hdots
  · exact hdots rfl
  · exact absurd heq (by simpa using hnot)

theorem steps_withExtension {ending : String} (hending : '/' ∉ ending.toList) {name : List Char}
    {before : List (List Char)} (hnaming : namingPieces path = name :: before)
    (hdots : ¬(name = ['.'] ∨ name = ['.', '.'])) :
    steps (withExtension ending path) =
      stepsOf before.reverse ++ [String.ofList (newName ending path name)] := by
  have hnames : ∀ piece ∈ name :: before, '/' ∉ piece :=
    fun piece hp => not_mem_of_mem_namingPieces path (hnaming ▸ hp)
  have hpieces : ∀ piece ∈ before.reverse ++ [newName ending path name], '/' ∉ piece := by
    intro piece hp
    rcases List.mem_append.mp hp with hp | hp
    · exact hnames piece (List.mem_cons_of_mem name (List.mem_reverse.mp hp))
    · rw [List.mem_singleton.mp hp]
      exact slash_not_mem_newName hending (hnames name List.mem_cons_self)
  have hpath : withExtension ending path =
      ofPieces (before.reverse ++ [newName ending path name]) := by
    unfold withExtension
    split
    · simp_all
    · simp_all
    · simp_all
    · rename_i hother
      obtain ⟨rfl, rfl⟩ := List.cons.inj (hnaming.symm.trans hother)
      rfl
  rw [hpath, steps_ofPieces hpieces, stepsOf_append,
    stepsOf_singleton (newName_ne_nil ending path name)]

/-- A path whose last piece is dots, or whose pieces are all dots, leads to a directory. -/
theorem withExtension_of_dots (ending : String)
    (h : ∀ name ∈ (namingPieces path).head?, name = ['.'] ∨ name = ['.', '.']) :
    withExtension ending path = path ∧
      ∀ front last, steps path = front ++ [last] → last = "." ∨ last = ".." := by
  cases hnaming : namingPieces path with
  | nil =>
    have hdot := steps_of_namingPieces_nil hnaming
    exact ⟨by simp [withExtension, hnaming],
      fun front last hsteps => .inl (hdot last (by rw [hsteps]; simp))⟩
  | cons name before =>
    rw [hnaming] at h
    have hname := h name rfl
    refine ⟨by rcases hname with rfl | rfl <;> simp [withExtension, hnaming], ?_⟩
    obtain ⟨idle, hsteps, hidle⟩ := exists_steps_of_namingPieces hnaming
    intro front last hlast
    rw [hsteps] at hlast
    rcases List.eq_nil_or_concat idle with rfl | ⟨init, final, rfl⟩
    · obtain ⟨-, hend⟩ := List.append_inj' hlast rfl
      rw [← List.singleton_inj.mp hend]
      exact hname.imp (fun hdot => by rw [hdot]) fun hup => by rw [hup]
    · rw [List.concat_eq_append, ← List.cons_append, ← List.append_assoc] at hlast
      obtain ⟨-, hend⟩ := List.append_inj' hlast rfl
      exact .inl (hidle last (by simp [List.singleton_inj.mp hend]))

/-- **A path with another ending** that leads to a name leads to another name in the same directory,
unless the path has the ending already. -/
theorem exists_steps_of_withExtension {ending : String} (hending : '/' ∉ ending.toList)
    (hnot : hasEnding ending path = false) {before : List String} {last : String}
    (h : steps (withExtension ending path) = before ++ [last])
    (hlast : ¬(last = "." ∨ last = "..")) :
    ∃ name idle, steps path = before ++ name :: idle ∧ ¬(name = "." ∨ name = "..") ∧
      name ≠ last ∧ ∀ s ∈ idle, s = "." := by
  by_cases hdots : ∀ name ∈ (namingPieces path).head?, name = ['.'] ∨ name = ['.', '.']
  · obtain ⟨hsame, hend⟩ := withExtension_of_dots ending hdots
    exact absurd (hend before last (hsame ▸ h)) hlast
  · push Not at hdots
    obtain ⟨name, hhead, hname⟩ := hdots
    obtain ⟨pieces, hnaming⟩ := List.head?_eq_some_iff.mp hhead
    obtain ⟨idle, hsteps, hidle⟩ := exists_steps_of_namingPieces hnaming
    rw [steps_withExtension hending hnaming (by simpa using hname)] at h
    obtain ⟨rfl, hend⟩ := List.append_inj' h rfl
    obtain rfl := List.singleton_inj.mp hend
    have hnew : newName ending path name ≠ ['.', '.'] := fun hup => hlast (.inr (by rw [hup]))
    refine ⟨String.ofList name, idle, hsteps, fun hdots => ?_, fun heq => ?_, hidle⟩
    · rcases hdots with hdot | hup
      · exact hname.1 (String.ofList_injective hdot)
      · exact hname.2 (String.ofList_injective hup)
    · exact ne_newName hnaming hnot hnew (String.ofList_injective heq)

end Weblog.Files
