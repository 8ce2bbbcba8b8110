import Mathlib.Tactic.Common
import Weblog.Proofs.Files.Unreached
/-!
# File systems with faults

An operation on files can fail for reasons that the tree does not tell: the disk is full, or a
device is gone. Then nothing has changed, or some of a text is in the file that was being written.

* `run_bind_cases`, `run_step_cases`: how a sequence of two computations ends.
* `Respects`: a relation between the computations of two monads that composition respects;
  **`Respects.createDirs`**: what relates the operations relates the making of directories.
* `Fault`, `FaultyTree`: what goes wrong, and a tree with the faults of its next operations; its
  file system.
* `Looks`, `ReadsOnly`: computations that change no file, whatever goes wrong.
* **`writeText_cases`**, `createDir_cases`, `rename_cases`: what an operation does with a fault and
  without.
* `Faultless`: a computation without faults is the one over the tree.
* `Keeps`: a computation that does not change what a path shows, whatever goes wrong;
  **`keeps_createDir`**: making a directory above a path keeps the path.
-/

namespace Weblog.Files

/-! ## Computations with a state -/

theorem run_bind_eq {σ α β : Type} (first : StateM σ α) (next : α → StateM σ β) (state : σ) :
    (first >>= next).run state = (next (first.run state).1).run (first.run state).2 := rfl

theorem run_bind_ok {σ α β ε : Type} {first : ExceptT ε (StateM σ) α}
    {next : α → ExceptT ε (StateM σ) β} {state after : σ} {a : α}
    (h : first.run.run state = (.ok a, after)) :
    (first >>= next).run.run state = (next a).run.run after := by
  rw [ExceptT.run_bind, StateT.run_bind, h]
  rfl

theorem run_lift_bind {σ α β ε : Type} {c : StateM σ α} {next : α → ExceptT ε (StateM σ) β}
    {state after : σ} {a : α} (h : c.run state = (a, after)) :
    (liftM c >>= next : ExceptT ε (StateM σ) β).run.run state = (next a).run.run after := by
  have hlift : (liftM c : ExceptT ε (StateM σ) α).run.run state = (.ok a, after) :=
    congrArg (fun r : α × σ => ((Except.ok r.1 : Except ε α), r.2)) h
  rw [ExceptT.run_bind, StateT.run_bind, hlift]
  rfl

/-- **A sequence ends** with the failure of its first part, or as its second part ends. -/
theorem run_bind_cases {σ α β ε : Type} {first : ExceptT ε (StateM σ) α}
    {next : α → ExceptT ε (StateM σ) β} {state after : σ} {outcome : Except ε β}
    (h : (first >>= next).run.run state = (outcome, after)) :
    (∃ e, first.run.run state = (.error e, after) ∧ outcome = .error e) ∨
      ∃ a between, first.run.run state = (.ok a, between) ∧
        (next a).run.run between = (outcome, after) := by
  rw [ExceptT.run_bind, StateT.run_bind] at h
  rcases hfirst : first.run.run state with ⟨result, between⟩
  rw [hfirst] at h
  cases result with
  | ok a => exact .inr ⟨a, between, rfl, h⟩
  | error e =>
    obtain ⟨rfl, rfl⟩ := Prod.mk.inj h
    exact .inl ⟨e, rfl, rfl⟩

/-- **A step that fails is the last one**: otherwise what follows it decides. -/
theorem run_step_cases {σ α β ε ε' : Type} (first : StateM σ (Except ε α))
    {next : Except ε α → StateM σ (Except ε' β)} {failure : ε → ε'} {state after : σ}
    {outcome : Except ε' β} (h : (first >>= next).run state = (outcome, after))
    (hstop : ∀ cause, next (.error cause) = pure (.error (failure cause))) :
    (∃ cause, first.run state = (.error cause, after) ∧ outcome = .error (failure cause)) ∨
      ∃ a between, first.run state = (.ok a, between) ∧
        (next (.ok a)).run between = (outcome, after) := by
  rw [run_bind_eq] at h
  rcases hfirst : first.run state with ⟨result, between⟩
  rw [hfirst] at h
  cases result with
  | ok a => exact .inr ⟨a, between, rfl, h⟩
  | error cause =>
    dsimp only at h
    rw [hstop] at h
    obtain ⟨rfl, rfl⟩ := Prod.mk.inj h
    exact .inl ⟨cause, rfl, rfl⟩

/-! ## Computations in two monads -/

section Respects

variable {m n : Type → Type} [Monad m] [Monad n]

/-- Whether composition respects a relation between the computations of two monads. -/
structure Respects (R : (α : Type) → m α → n α → Prop) : Prop where
  pure : ∀ {α : Type} (a : α), R α (pure a) (pure a)
  bind : ∀ {α β : Type} {first : m α} {first' : n α} {next : α → m β} {next' : α → n β},
    R α first first' → (∀ a, R β (next a) (next' a)) → R β (first >>= next) (first' >>= next')

variable [FileSystem m] [FileSystem n] {R : (α : Type) → m α → n α → Prop}
  (h : Respects R)
  (hfound : ∀ path, R Bool (FileSystem.isDirectory path) (FileSystem.isDirectory path))

include h hfound

theorem Respects.unlessDirectory (path : String) (e : FileError) :
    R _ (do if ← FileSystem.isDirectory path then return .ok () else return .error e :
        m (Except FileError Unit))
      (do if ← FileSystem.isDirectory path then return .ok () else return .error e) := by
  refine h.bind (hfound path) fun found => ?_
  cases found <;> exact h.pure _

theorem Respects.createDirsOf {paths : List String}
    (hcreate : ∀ path ∈ paths, R _ (FileSystem.createDir path) (FileSystem.createDir path)) :
    R _ (createDirsOf paths) (createDirsOf paths) := by
  induction paths with
  | nil => exact h.pure _
  | cons path parents ih =>
    have hpath := hcreate path List.mem_cons_self
    refine h.bind hpath fun outcome => ?_
    cases outcome with
    | ok => exact h.pure _
    | error e => cases e with
      | notFound =>
        -- the parents are made first
        refine h.bind (ih fun p hp => hcreate p (List.mem_cons_of_mem path hp)) fun made => ?_
        cases made with
        | error e => exact h.pure _
        | ok =>
          refine h.bind hpath fun outcome => ?_
          cases outcome with
          | ok => exact h.pure _
          | error e => exact h.unlessDirectory hfound path e
      | _ => exact h.unlessDirectory hfound path _

/-- **What relates the operations relates the making of directories.** -/
theorem Respects.createDirs {directory : String}
    (hcreate : ∀ path ∈ ancestors directory,
      R _ (FileSystem.createDir path) (FileSystem.createDir path)) :
    R _ (createDirs directory) (createDirs directory) :=
  h.createDirsOf hfound hcreate

end Respects

/-! ## Faults -/

/-- Why an operation fails, and how many bytes of a text are in its file then. Without a number the
file has not been opened. -/
structure Fault where
  error : FileError
  written : Option Nat := none

/-- A file tree and the faults of the next operations, one entry for each of them. Operations behind
the last entry have none. -/
structure FaultyTree where
  tree : FileTree
  faults : List (Option Fault)

namespace FaultyTree

/-- Does an operation, or what is left of it under a fault. -/
def attempt {α : Type} (failing : Fault → StateM FileTree α) (operation : StateM FileTree α) :
    StateM FaultyTree α := fun state =>
  let outcome := (match state.faults.head?.join with
    | some fault => failing fault
    | none => operation).run state.tree
  (outcome.1, ⟨outcome.2, state.faults.tail⟩)

def fail {α : Type} (fault : Fault) : StateM FileTree (Except FileError α) :=
  return .error fault.error

/-- Writes some bytes of a text and fails. -/
def failWriting (path text : String) (fault : Fault) : StateM FileTree (Except FileError Unit) :=
  fun root =>
    match fault.written with
    | none => (.error fault.error, root)
    | some count =>
      match root.write path (text.toUTF8.extract 0 count) with
      | .ok after => (.error fault.error, after)
      | .error e => (.error e, root)

/-- Nothing is found where the system does not answer. -/
instance : FileSystem (StateM FaultyTree) where
  pathExists path := attempt (fun _ => return false) (FileSystem.pathExists path)
  isDirectory path := attempt (fun _ => return false) (FileSystem.isDirectory path)
  readText path := attempt fail (FileSystem.readText path)
  writeText path text := attempt (failWriting path text) (FileSystem.writeText path text)
  createDir path := attempt fail (FileSystem.createDir path)
  rename path new := attempt fail (FileSystem.rename path new)

variable {α β : Type} {failing : Fault → StateM FileTree α} {operation : StateM FileTree α}

theorem run_attempt (failing : Fault → StateM FileTree α) (operation : StateM FileTree α)
    (state : FaultyTree) :
    (attempt failing operation).run state =
      let outcome := (match state.faults.head?.join with
        | some fault => failing fault
        | none => operation).run state.tree
      (outcome.1, ⟨outcome.2, state.faults.tail⟩) := rfl

theorem attempt_elim {P : FileTree → α → FileTree → Prop}
    (hfailing : ∀ fault root, P root ((failing fault).run root).1 ((failing fault).run root).2)
    (hoperation : ∀ root, P root (operation.run root).1 (operation.run root).2)
    (state : FaultyTree) : P state.tree ((attempt failing operation).run state).1
      ((attempt failing operation).run state).2.tree := by
  rw [run_attempt]
  cases state.faults.head?.join with
  | none => exact hoperation state.tree
  | some fault => exact hfailing fault state.tree

theorem run_failWriting (path text : String) (fault : Fault) (root : FileTree) :
    (failWriting path text fault).run root =
      match fault.written with
      | none => (.error fault.error, root)
      | some count =>
        match root.write path (text.toUTF8.extract 0 count) with
        | .ok after => (.error fault.error, after)
        | .error e => (.error e, root) := rfl

/-! ## What an operation does -/

/-- Whether a state comes later than another one with the same tree. -/
def Later (state after : FaultyTree) : Prop :=
  after.tree = state.tree ∧ after.faults <:+ state.faults

theorem Later.refl (state : FaultyTree) : state.Later state := ⟨rfl, List.suffix_rfl⟩

theorem Later.trans {state between after : FaultyTree} (h : state.Later between)
    (h' : between.Later after) : state.Later after :=
  ⟨h'.1.trans h.1, h'.2.trans h.2⟩

/-- Whether a computation changes no file, whatever goes wrong. -/
def Looks (computation : StateM FaultyTree α) : Prop :=
  ∀ state : FaultyTree, state.Later (computation.run state).2

theorem Looks.bind {β : Type} {first : StateM FaultyTree α} {next : α → StateM FaultyTree β}
    (h : Looks first) (hnext : ∀ a, Looks (next a)) : Looks (first >>= next) :=
  fun state => (h state).trans (hnext _ _)

theorem faults_attempt (state : FaultyTree) :
    ((attempt failing operation).run state).2.faults <:+ state.faults :=
  List.tail_suffix state.faults

theorem looks_attempt
    (hfailing : ∀ fault root, ((failing fault).run root).2 = root)
    (hoperation : ∀ root, (operation.run root).2 = root) : Looks (attempt failing operation) :=
  fun state => ⟨attempt_elim (P := fun root _ after => after = root) hfailing hoperation state,
    faults_attempt state⟩

theorem looks_pathExists (path : String) :
    Looks (FileSystem.pathExists path : StateM FaultyTree Bool) :=
  looks_attempt (fun _ _ => rfl) fun _ => rfl

theorem looks_isDirectory (path : String) :
    Looks (FileSystem.isDirectory path : StateM FaultyTree Bool) :=
  looks_attempt (fun _ _ => rfl) fun _ => rfl

theorem looks_readText (path : String) : Looks (FileSystem.readText path : StateM FaultyTree _) :=
  looks_attempt (fun _ _ => rfl) fun _ => rfl

/-! ### Computations that read -/

section ReadsOnly

variable {ε β : Type}

/-- Whether a computation that may fail changes no file, whatever goes wrong. -/
def ReadsOnly (c : ExceptT ε (StateM FaultyTree) α) : Prop :=
  Looks c.run

theorem readsOnly_pure (a : α) : ReadsOnly (pure a : ExceptT ε (StateM FaultyTree) α) := Later.refl

theorem readsOnly_throw (e : ε) : ReadsOnly (throw e : ExceptT ε (StateM FaultyTree) α) :=
  Later.refl

theorem readsOnly_lift {c : StateM FaultyTree α} (h : Looks c) :
    ReadsOnly (liftM c : ExceptT ε (StateM FaultyTree) α) := h

theorem ReadsOnly.bind {first : ExceptT ε (StateM FaultyTree) α}
    {next : α → ExceptT ε (StateM FaultyTree) β} (h : ReadsOnly first)
    (hnext : ∀ a, ReadsOnly (next a)) : ReadsOnly (first >>= next) := by
  unfold ReadsOnly
  rw [ExceptT.run_bind]
  refine Looks.bind h fun outcome => ?_
  cases outcome with
  | ok a => exact hnext a
  | error e => exact Later.refl

theorem respects_readsOnly :
    Respects fun α (c _ : ExceptT ε (StateM FaultyTree) α) => ReadsOnly c :=
  ⟨readsOnly_pure, ReadsOnly.bind⟩

theorem ReadsOnly.run_bind_cases {first : ExceptT ε (StateM FaultyTree) α}
    {next : α → ExceptT ε (StateM FaultyTree) β} {state after : FaultyTree} {outcome : Except ε β}
    (hreads : ReadsOnly first) (h : (first >>= next).run.run state = (outcome, after)) :
    ((∃ e, outcome = .error e) ∧ state.Later after) ∨
      ∃ a between, first.run.run state = (.ok a, between) ∧ state.Later between ∧
        (next a).run.run between = (outcome, after) := by
  have hlater := hreads state
  rcases Files.run_bind_cases h with ⟨e, hfirst, houtcome⟩ | ⟨a, between, hfirst, hnext⟩
  · rw [hfirst] at hlater
    exact .inl ⟨⟨e, houtcome⟩, hlater⟩
  · rw [hfirst] at hlater
    exact .inr ⟨a, between, hfirst, hlater, hnext⟩

end ReadsOnly

/-! ### Operations -/

theorem attempt_cases {P : FileTree → α → FileTree → Prop} {state after : FaultyTree} {outcome : α}
    (h : (attempt failing operation).run state = (outcome, after))
    (hfailing : ∀ fault root, P root ((failing fault).run root).1 ((failing fault).run root).2)
    (hoperation : ∀ root, P root (operation.run root).1 (operation.run root).2) :
    P state.tree outcome after.tree := by
  have hattempt := attempt_elim hfailing hoperation state
  rwa [h] at hattempt

theorem run_pathExists (path : String) (state : FaultyTree) :
    (FileSystem.pathExists path : StateM FaultyTree Bool).run state =
      (if state.faults.head?.join.isSome then false else (state.tree.find path).toBool,
        ⟨state.tree, state.faults.tail⟩) := by
  refine (run_attempt _ _ state).trans ?_
  cases state.faults.head?.join <;> rfl

theorem read_of_readText {path text : String} {state after : FaultyTree}
    (h : (FileSystem.readText path : StateM FaultyTree _).run state = (.ok text, after)) :
    state.tree.read path = .ok text := by
  refine attempt_cases (P := fun root (outcome : Except FileError String) _ =>
    outcome = .ok text → root.read path = .ok text) h (fun _ _ herror => ?_)
    (fun _ hread => hread) rfl
  cases herror

theorem change_cases {change : FileTree → Except FileError FileTree} {state after : FaultyTree}
    {outcome : Except FileError Unit}
    (h : (attempt fail (FileTree.change change)).run state = (outcome, after)) :
    outcome = .ok () ∧ change state.tree = .ok after.tree ∨
      (∃ e, outcome = .error e) ∧ after.tree = state.tree := by
  refine attempt_cases (P := fun root (outcome : Except FileError Unit) after =>
    outcome = .ok () ∧ change root = .ok after ∨ (∃ e, outcome = .error e) ∧ after = root) h
    (fun fault root => .inr ⟨⟨fault.error, rfl⟩, rfl⟩) fun root => ?_
  exact FileTree.change_cases (Prod.eta ((FileTree.change change).run root)).symm

theorem createDir_cases {path : String} {state after : FaultyTree}
    {outcome : Except FileError Unit}
    (h : (FileSystem.createDir path : StateM FaultyTree _).run state = (outcome, after)) :
    outcome = .ok () ∧ state.tree.makeDir path = .ok after.tree ∨
      (∃ e, outcome = .error e) ∧ after.tree = state.tree :=
  change_cases h

theorem rename_cases {path new : String} {state after : FaultyTree}
    {outcome : Except FileError Unit}
    (h : (FileSystem.rename path new : StateM FaultyTree _).run state = (outcome, after)) :
    outcome = .ok () ∧ state.tree.move path new = .ok after.tree ∨
      (∃ e, outcome = .error e) ∧ after.tree = state.tree :=
  change_cases h

/-- **What writing a file does**: the file has the text, or writing fails and the file is as it was
or has some first bytes of the text. -/
theorem writeText_cases {path text : String} {state after : FaultyTree}
    {outcome : Except FileError Unit}
    (h : (FileSystem.writeText path text : StateM FaultyTree _).run state = (outcome, after)) :
    outcome = .ok () ∧ state.tree.write path text.toUTF8 = .ok after.tree ∨
      (∃ e, outcome = .error e) ∧ (after.tree = state.tree ∨
        ∃ count, state.tree.write path (text.toUTF8.extract 0 count) = .ok after.tree) := by
  refine attempt_cases (P := fun root (outcome : Except FileError Unit) after =>
    outcome = .ok () ∧ root.write path text.toUTF8 = .ok after ∨
      (∃ e, outcome = .error e) ∧ (after = root ∨
        ∃ count, root.write path (text.toUTF8.extract 0 count) = .ok after)) h
    (fun fault root => ?_) fun root => ?_
  · rw [run_failWriting]
    cases fault.written with
    | none => exact .inr ⟨⟨_, rfl⟩, .inl rfl⟩
    | some count =>
      dsimp only
      cases hwrite : root.write path (text.toUTF8.extract 0 count) with
      | ok after => exact .inr ⟨⟨_, rfl⟩, .inr ⟨count, hwrite⟩⟩
      | error e => exact .inr ⟨⟨e, rfl⟩, .inl rfl⟩
  · have hchange := FileTree.change_cases (Prod.eta
      ((FileTree.change fun root => root.write path text.toUTF8).run root)).symm
    exact hchange.imp_right (And.imp_right .inl)

/-! ## Without faults -/

/-- Whether a computation without faults is another one over the tree. -/
def Faultless (faulty : StateM FaultyTree α) (plain : StateM FileTree α) : Prop :=
  ∀ root, faulty.run ⟨root, []⟩ = ((plain.run root).1, ⟨(plain.run root).2, []⟩)

theorem respects_faultless : Respects fun α (faulty : StateM FaultyTree α)
    (plain : StateM FileTree α) => Faultless faulty plain where
  pure _ _ := rfl
  bind h hnext root := by
    rw [run_bind_eq, h root]
    exact hnext _ _

theorem faultless_attempt : Faultless (attempt failing operation) operation := fun _ => rfl

section Failing

variable {ε : Type}

theorem respects_faultless_run : Respects fun α (faulty : ExceptT ε (StateM FaultyTree) α)
    (plain : ExceptT ε (StateM FileTree) α) => Faultless faulty.run plain.run where
  pure _ _ := rfl
  bind h hnext := by
    rw [ExceptT.run_bind, ExceptT.run_bind]
    refine respects_faultless.bind h fun outcome => ?_
    cases outcome with
    | ok a => exact hnext a
    | error e => exact fun _ => rfl

theorem faultless_throw (e : ε) : Faultless (throw e : ExceptT ε (StateM FaultyTree) α).run
    (throw e : ExceptT ε (StateM FileTree) α).run := fun _ => rfl

theorem faultless_lift {faulty : StateM FaultyTree α} {plain : StateM FileTree α}
    (h : Faultless faulty plain) : Faultless (liftM faulty : ExceptT ε (StateM FaultyTree) α).run
      (liftM plain : ExceptT ε (StateM FileTree) α).run := by
  change Faultless (faulty >>= fun a => pure (Except.ok a)) (plain >>= fun a => pure (.ok a))
  exact respects_faultless.bind h fun _ _ => rfl

end Failing

theorem faultless_createDirsOf (paths : List String) :
    Faultless (createDirsOf paths) (createDirsOf paths) :=
  respects_faultless.createDirsOf (fun _ => faultless_attempt) fun _ _ => faultless_attempt

/-! ## Kept paths -/

/-- Whether a computation keeps a steady path as it is, whatever goes wrong. -/
def Keeps (path : String) (computation : StateM FaultyTree α) : Prop :=
  ∀ state, state.tree.Steady path → (computation.run state).2.tree.Steady path ∧
    (computation.run state).2.tree.shows path = state.tree.shows path

variable {path up : String}

theorem respects_keeps (path : String) :
    Respects fun α (computation _ : StateM FaultyTree α) => Keeps path computation where
  pure _ _ hsteady := ⟨hsteady, rfl⟩
  bind h hnext state hsteady := by
    obtain ⟨hfirst, hshows⟩ := h state hsteady
    obtain ⟨hsecond, hshows'⟩ := hnext _ _ hfirst
    exact ⟨hsecond, hshows'.trans hshows⟩

theorem keeps_attempt
    (hfailing : ∀ fault root, root.Steady path → ((failing fault).run root).2.Steady path ∧
      ((failing fault).run root).2.shows path = root.shows path)
    (hoperation : ∀ root, root.Steady path → (operation.run root).2.Steady path ∧
      (operation.run root).2.shows path = root.shows path) :
    Keeps path (attempt failing operation) :=
  attempt_elim (P := fun root _ after => root.Steady path → after.Steady path ∧
    after.shows path = root.shows path) hfailing hoperation

/-- **Making a directory above a path keeps the path.** -/
theorem keeps_createDir (habove : IsAbove up path) :
    Keeps path (FileSystem.createDir up : StateM FaultyTree _) := by
  refine keeps_attempt (fun fault root hsteady => ⟨hsteady, rfl⟩) fun root hsteady => ?_
  rw [FileTree.run_createDir]
  cases hmake : root.makeDir up with
  | error e => exact ⟨hsteady, rfl⟩
  | ok after => exact FileTree.makeDir_above hmake habove hsteady

theorem keeps_isDirectory (other : String) :
    Keeps path (FileSystem.isDirectory other : StateM FaultyTree _) :=
  keeps_attempt (fun _ _ hsteady => ⟨hsteady, rfl⟩) fun _ hsteady => ⟨hsteady, rfl⟩

end FaultyTree

end Weblog.Files
