import Mathlib.Tactic.Common
import Weblog.Config.File
import Weblog.Proofs.Config.Rendered
import Weblog.Proofs.Files.Footprints
/-!
# Settings files and faults

Settings are read from their file and written to it in place, so a write that stops leaves a part
of the new text there. Without an answer whether there is a file nothing counts as set.

* `loadSettings_eq_ok`: how settings are loaded; `readsOnly_loadSettings`: nothing changes then.
* `makeSettingsDirectory`, `writeSettings`: the two parts of saving.
* `MakesAbove`: a tree with new directories above a path.
* `SettingsLeft`: what is left when settings are not saved; **`saveSettings_cases`**: what saving
  does, whatever goes wrong.
* `changeSetting_cases`: what changing a setting does.
* `faultless_changeSetting`: without faults that is changing it in the tree.
-/

namespace Weblog

open Files FileTree FaultyTree

variable {path key value : String} {s : Settings}

/-! ## Loading -/

/-- **How settings are loaded**: there is no file, or it has a text with settings. -/
theorem loadSettings_eq_ok {σ : Type} [FileSystem (StateM σ)] {state after : σ}
    (h : (loadSettings path : ExceptT _ (StateM σ) _).run.run state = (.ok s, after)) :
    (FileSystem.pathExists path : StateM σ _).run state = (false, after) ∧ s = {} ∨
      ∃ looked text, (FileSystem.pathExists path : StateM σ _).run state = (true, looked) ∧
        (FileSystem.readText path : StateM σ _).run looked = (.ok text, after) ∧
        Settings.ofText text = some s := by
  rcases hfound : (FileSystem.pathExists path : StateM σ _).run state with ⟨found, looked⟩
  have hrest := (run_lift_bind hfound).symm.trans h
  cases found with
  | false =>
    cases hrest
    exact .inl ⟨rfl, rfl⟩
  | true =>
    rcases hread : (FileSystem.readText path : StateM σ _).run looked with ⟨outcome, read⟩
    have hrest := (run_lift_bind hread).symm.trans hrest
    cases outcome with
    | error e => cases congrArg Prod.fst hrest
    | ok text =>
      dsimp only at hrest
      cases htext : Settings.ofText text with
      | none =>
        rw [htext] at hrest
        cases congrArg Prod.fst hrest
      | some t =>
        rw [htext] at hrest
        cases hrest
        exact .inr ⟨looked, text, rfl, hread, htext⟩

/-- **Settings that have been loaded can be written.** -/
theorem isWritable_of_loadSettings {σ : Type} [FileSystem (StateM σ)] {state after : σ}
    (h : (loadSettings path : ExceptT _ (StateM σ) _).run.run state = (.ok s, after)) :
    s.isWritable = true := by
  rcases loadSettings_eq_ok h with ⟨-, rfl⟩ | ⟨_, text, -, -, htext⟩
  · rfl
  · exact Settings.isWritable_of_ofText htext

theorem readsOnly_loadSettings (path : String) :
    ReadsOnly (loadSettings path : ExceptT SettingsError (StateM FaultyTree) Settings) := by
  refine ReadsOnly.bind (readsOnly_lift (looks_pathExists path)) fun found => ?_
  cases found with
  | false => exact readsOnly_pure _
  | true =>
    refine ReadsOnly.bind (readsOnly_lift (looks_readText path)) fun outcome => ?_
    cases outcome with
    | error e => exact readsOnly_throw _
    | ok text =>
      dsimp only
      cases Settings.ofText text with
      | none => exact readsOnly_throw _
      | some s => exact readsOnly_pure s

/-! ## Saving -/

section Parts

variable {m : Type → Type} [Monad m] [FileSystem m]

/-- Makes the directory of the settings file. -/
def makeSettingsDirectory (path : String) : ExceptT SettingsError m Unit :=
  match parent? path with
  | none => pure ()
  | some up => do
    match ← createDirs (m := m) up with
    | .error e => throw (.makeDirectory e)
    | .ok () => pure ()

/-- Writes settings that a file can hold. -/
def writeSettings (path : String) (s : Settings) : ExceptT SettingsError m Unit :=
  if s.isWritable then do
    match ← FileSystem.writeText (m := m) path s.render with
    | .error e => throw (.write e)
    | .ok () => pure ()
  else throw .outOfRange

end Parts

section Steps

variable {σ : Type} [FileSystem (StateM σ)]

/-- **Saving** makes the directory and writes the settings. -/
theorem run_saveSettings (path : String) (s : Settings) (state : σ) :
    (saveSettings path s : ExceptT _ (StateM σ) _).run.run state =
      (makeSettingsDirectory path >>= fun _ => writeSettings path s :
        ExceptT _ (StateM σ) _).run.run state := by
  unfold saveSettings makeSettingsDirectory
  cases parent? path with
  | none => rfl
  | some up =>
    rcases hmade : (createDirs up : StateM σ _).run state with ⟨outcome, between⟩
    rw [bind_assoc]
    refine (run_lift_bind hmade).trans (Eq.symm ((run_lift_bind hmade).trans ?_))
    cases outcome <;> rfl

theorem makeSettingsDirectory_cases {state made : σ} {outcome : Except SettingsError Unit}
    (h : (makeSettingsDirectory path : ExceptT _ (StateM σ) _).run.run state = (outcome, made)) :
    parent? path = none ∧ made = state ∧ outcome = .ok () ∨
      ∃ up result, parent? path = some up ∧
        (createDirs up : StateM σ _).run state = (result, made) ∧
        outcome = result.mapError .makeDirectory := by
  unfold makeSettingsDirectory at h
  cases hparent : parent? path with
  | none =>
    rw [hparent] at h
    obtain ⟨rfl, rfl⟩ := Prod.mk.inj h
    exact .inl ⟨rfl, rfl, rfl⟩
  | some up =>
    rw [hparent] at h
    rcases hdirs : (createDirs up : StateM σ _).run state with ⟨result, between⟩
    have hrest := (run_lift_bind hdirs).symm.trans h
    cases result <;> obtain ⟨rfl, rfl⟩ := Prod.mk.inj hrest <;> exact .inr ⟨up, _, rfl, hdirs, rfl⟩

end Steps

theorem changesOnly_makeSettingsDirectory {root made : FileTree}
    {outcome : Except SettingsError Unit}
    (h : (makeSettingsDirectory path : ExceptT _ (StateM FileTree) _).run.run root =
      (outcome, made)) : ChangesOnly (directoriesAbove path) [] root made := by
  rcases makeSettingsDirectory_cases h with ⟨-, rfl, -⟩ | ⟨up, result, hparent, hdirs, -⟩
  · exact .refl made
  · have hmade := changesOnly_createDirsOf (ancestors up) root
    rw [← createDirs, hdirs] at hmade
    rwa [directoriesAbove, hparent]

section Faults

variable {state made after : FaultyTree} {saved : Except SettingsError Unit}

/-- Whether there are new directories above a path at most, and the path still shows what it showed
if it is steady. -/
structure MakesAbove (path : String) (root made : FileTree) : Prop where
  changesOnly : ChangesOnly (directoriesAbove path) [] root made
  shows_eq : root.Steady path → made.shows path = root.shows path

theorem MakesAbove.refl (path : String) (root : FileTree) : MakesAbove path root root :=
  ⟨.refl root, fun _ => rfl⟩

theorem makesAbove_makeSettingsDirectory
    (h : (makeSettingsDirectory path : ExceptT _ (StateM FaultyTree) _).run.run state =
      (saved, made)) : MakesAbove path state.tree made.tree := by
  rcases makeSettingsDirectory_cases h with ⟨-, rfl, -⟩ | ⟨up, result, hparent, hdirs, -⟩
  · exact .refl path _
  · have hmakes := makesOnly_createDirsOf (ancestors up) state
    have hkeeps : Keeps path (createDirs up : StateM FaultyTree _) :=
      (respects_keeps path).createDirs keeps_isDirectory fun _ hup =>
        keeps_createDir (isAbove_of_mem_ancestors hparent hup)
    rw [← createDirs, hdirs] at hmakes
    refine ⟨by rwa [directoriesAbove, hparent], fun hsteady => ?_⟩
    have hkept := (hkeeps state hsteady).2
    rwa [hdirs] at hkept

/-- **Writing settings** writes their text, or it fails and the file is as it was or has some first
bytes of the text. -/
theorem writeSettings_cases
    (h : (writeSettings path s : ExceptT _ (StateM FaultyTree) _).run.run state = (saved, after)) :
    saved = .ok () ∧ s.isWritable = true ∧
        state.tree.write path s.render.toUTF8 = .ok after.tree ∨
      ∃ e, saved = .error e ∧ (after.tree = state.tree ∨ ∃ cause count, e = .write cause ∧
        state.tree.write path (s.render.toUTF8.extract 0 count) = .ok after.tree) := by
  unfold writeSettings at h
  split_ifs at h with hwritable
  · rcases hwrite : (FileSystem.writeText path s.render : StateM FaultyTree _).run state with
      ⟨outcome, written⟩
    have hrest := (run_lift_bind hwrite).symm.trans h
    rcases writeText_cases hwrite with ⟨rfl, hdone⟩ | ⟨⟨cause, rfl⟩, hpart⟩
    · obtain ⟨rfl, rfl⟩ := Prod.mk.inj hrest
      exact .inl ⟨rfl, hwritable, hdone⟩
    · obtain ⟨rfl, rfl⟩ := Prod.mk.inj hrest
      refine .inr ⟨_, rfl, hpart.imp_right ?_⟩
      rintro ⟨count, hcount⟩
      exact ⟨cause, count, rfl, hcount⟩
  · obtain ⟨rfl, rfl⟩ := Prod.mk.inj h
    exact .inr ⟨_, rfl, .inl rfl⟩

/-- What is left when settings have not been saved: perhaps new directories, and the file with some
first bytes of the new text if it has not been written to the end. -/
inductive SettingsLeft (path : String) (s : Settings) (root : FileTree) :
    SettingsError → FileTree → Prop
  | directories {after : FileTree} (e : SettingsError) (made : MakesAbove path root after) :
      SettingsLeft path s root e after
  | cutOff {after : FileTree} (cause : FileError) (count : Nat)
      (left : LeavesFile path path (s.render.toUTF8.extract 0 count) root after) :
      SettingsLeft path s root (.write cause) after

/-- **What saving settings does**, whatever goes wrong. -/
theorem saveSettings_cases
    (h : (saveSettings path s : ExceptT _ (StateM FaultyTree) _).run.run state = (saved, after)) :
    (saved = .ok () ∧ s.isWritable = true ∧
        ∃ made, MakesAbove path state.tree made ∧
          made.write path s.render.toUTF8 = .ok after.tree) ∨
      ∃ e, saved = .error e ∧ SettingsLeft path s state.tree e after.tree := by
  rw [run_saveSettings] at h
  rcases Files.run_bind_cases h with ⟨e, hmake, rfl⟩ | ⟨_, made, hmake, hwrite⟩
  · exact .inr ⟨e, rfl, .directories e (makesAbove_makeSettingsDirectory hmake)⟩
  have hmade := makesAbove_makeSettingsDirectory hmake
  rcases writeSettings_cases hwrite with ⟨rfl, hwritable, hdone⟩ | ⟨e, rfl, hpart⟩
  · exact .inl ⟨rfl, hwritable, made.tree, hmade, hdone⟩
  refine .inr ⟨e, rfl, ?_⟩
  rcases hpart with hsame | ⟨cause, count, rfl, hcount⟩
  · exact .directories e (hsame ▸ hmade)
  · rcases leavesFile_of_write hmade.changesOnly hcount with hsame | hleft
    · exact .directories _ (hsame ▸ hmade)
    · exact .cutOff cause count hleft

/-! ## Changing -/

/-- **What changing a setting does**: it fails and changes no file, or it saves the settings that
have been loaded with another value of one of them. -/
theorem changeSetting_cases
    (h : (changeSetting path key value : ExceptT _ (StateM FaultyTree) _).run.run state =
      (saved, after)) :
    ((∃ e, saved = .error e) ∧ state.Later after) ∨
      ∃ s changed loaded,
        (loadSettings path : ExceptT _ (StateM FaultyTree) _).run.run state = (.ok s, loaded) ∧
        state.Later loaded ∧ s.change key value = .ok changed ∧
        (saveSettings path changed : ExceptT _ (StateM FaultyTree) _).run.run loaded =
          (saved, after) := by
  rcases (readsOnly_loadSettings path).run_bind_cases h with
    hstop | ⟨s, loaded, hload, hlater, h⟩
  · exact .inl hstop
  cases hchange : s.change key value with
  | error e =>
    rw [hchange] at h
    obtain ⟨rfl, rfl⟩ := Prod.mk.inj h
    exact .inl ⟨⟨_, rfl⟩, hlater⟩
  | ok changed =>
    rw [hchange] at h
    exact .inr ⟨s, changed, loaded, hload, hlater, hchange, h⟩

end Faults

/-! ## Without faults -/

theorem faultless_loadSettings (path : String) :
    Faultless (loadSettings path : ExceptT SettingsError (StateM FaultyTree) _).run
      (loadSettings path : ExceptT _ (StateM FileTree) _).run := by
  refine respects_faultless_run.bind (faultless_lift faultless_attempt) fun found => ?_
  cases found with
  | false => exact respects_faultless_run.pure _
  | true =>
    refine respects_faultless_run.bind (faultless_lift faultless_attempt) fun outcome => ?_
    cases outcome with
    | error e => exact faultless_throw _
    | ok text =>
      dsimp only
      cases Settings.ofText text with
      | none => exact faultless_throw _
      | some s => exact respects_faultless_run.pure s

theorem faultless_saveSettings (path : String) (s : Settings) :
    Faultless (saveSettings path s : ExceptT SettingsError (StateM FaultyTree) _).run
      (saveSettings path s : ExceptT _ (StateM FileTree) _).run := by
  have hmake : Faultless (makeSettingsDirectory path : ExceptT _ (StateM FaultyTree) _).run
      (makeSettingsDirectory path : ExceptT _ (StateM FileTree) _).run := by
    unfold makeSettingsDirectory
    cases parent? path with
    | none => exact respects_faultless_run.pure _
    | some up =>
      refine respects_faultless_run.bind (faultless_lift (faultless_createDirsOf _)) fun made => ?_
      cases made with
      | error e => exact faultless_throw _
      | ok => exact respects_faultless_run.pure _
  have hwrite : Faultless (writeSettings path s : ExceptT _ (StateM FaultyTree) _).run
      (writeSettings path s : ExceptT _ (StateM FileTree) _).run := by
    unfold writeSettings
    split_ifs
    · refine respects_faultless_run.bind (faultless_lift faultless_attempt) fun written => ?_
      cases written with
      | error e => exact faultless_throw _
      | ok => exact respects_faultless_run.pure _
    · exact faultless_throw _
  intro root
  rw [run_saveSettings, run_saveSettings]
  exact respects_faultless_run.bind hmake (fun _ => hwrite) root

/-- **Without faults a setting is changed as in the tree.** -/
theorem faultless_changeSetting (path key value : String) :
    Faultless (changeSetting path key value : ExceptT SettingsError (StateM FaultyTree) _).run
      (changeSetting path key value : ExceptT _ (StateM FileTree) _).run := by
  refine respects_faultless_run.bind (faultless_loadSettings path) fun s => ?_
  cases s.change key value with
  | error e => exact faultless_throw _
  | ok t => exact faultless_saveSettings path t

end Weblog
