import Mathlib.Tactic.Common
import Weblog.Proofs.Blog.SaveFootprint
import Weblog.Proofs.Program.ReadsOnly
/-!
# What a run does to the files

Two commands write: one saves the sample to the data file, the other one saves the settings to their
file. Faults may befall a run at every operation.

* `FindsSettings`, `FindsNothing`: what a run learns from the files.
* `runCreate_cases`, `runSettings_set_cases`: what the two commands do.
* `RunStep`: what a run can do to the files; **`runStep_of_run`**: a run does one of these.
-/

namespace Weblog

open CommandLine Files FileTree FaultyTree

/-! ## What a run learns -/

/-- Whether some settings are loaded from the settings file, and the faults that are left then. -/
def FindsSettings (e : Environment) (state : FaultyTree) (settings : Settings)
    (loaded : FaultyTree) : Prop :=
  ∃ path, e.settingsPath? = some path ∧
    (loadSettings path : ExceptT _ (StateM FaultyTree) _).run.run state = (.ok settings, loaded)

theorem FindsSettings.later {e : Environment} {state loaded : FaultyTree} {settings : Settings}
    (h : FindsSettings e state settings loaded) : state.Later loaded := by
  obtain ⟨path, -, hload⟩ := h
  have hlater := readsOnly_loadSettings path state
  rwa [hload] at hlater

/-- Whether a run is told that there is no data file. -/
def FindsNothing (state : FaultyTree) (path : String) : Prop :=
  (((⟨path⟩ : Store).fileExists : StateM FaultyTree _).run state).1 = false

/-- **Nothing is found** where nothing is, or where the system does not answer. -/
theorem findsNothing_iff {state : FaultyTree} {path : String} : FindsNothing state path ↔
    (state.tree.find path).toBool = false ∨ state.faults.head?.join.isSome = true := by
  have hlook : ((⟨path⟩ : Store).fileExists : StateM FaultyTree _).run state = _ :=
    run_pathExists path state
  rw [FindsNothing, hlook]
  cases state.faults.head?.join.isSome <;> simp

/-! ## Commands that write -/

variable {c : Context} {state after : FaultyTree} {outcome : Except Failure String}

theorem run_orFail {ε α σ : Type} (failure : ε → Failure) {work : ExceptT ε (StateM σ) α}
    {result : Except ε α} {before done : σ} (h : work.run.run before = (result, done)) :
    (orFail failure work).run.run before = (result.mapError failure, done) := by
  change ((work.run.run before).1.mapError failure, (work.run.run before).2) = _
  rw [h]

theorem run_orFail_ok {ε α : Type} {failure : ε → Failure}
    {work : ExceptT ε (StateM FaultyTree) α} {a : α}
    (h : (orFail failure work).run.run state = (.ok a, after)) :
    work.run.run state = (.ok a, after) := by
  rcases hwork : work.run.run state with ⟨result, done⟩
  obtain ⟨hresult, rfl⟩ := Prod.mk.inj ((run_orFail failure hwork).symm.trans h)
  cases result with
  | error e => cases hresult
  | ok a => cases hresult; rfl

theorem run_orFail_bind {ε α : Type} {failure : ε → Failure}
    {work : ExceptT ε (StateM FaultyTree) α} {text : String}
    (h : (orFail failure work >>= fun _ => pure text).run.run state = (outcome, after)) :
    ∃ result, work.run.run state = (result, after) ∧
      outcome = (result.mapError failure).map fun _ => text := by
  rcases hwork : work.run.run state with ⟨result, done⟩
  rw [ExceptT.run_bind, StateT.run_bind, run_orFail failure hwork] at h
  cases result <;> obtain ⟨rfl, rfl⟩ := Prod.mk.inj h <;> exact ⟨_, rfl, rfl⟩

/-- **What making a blog does**: it fails and changes nothing, or it saves the sample where nothing
is found or where that is forced. -/
theorem runCreate_cases {force : Bool}
    (h : (runCreate c force : Run (StateM FaultyTree) String).run.run state = (outcome, after)) :
    ((∃ failure, outcome = .error failure) ∧ state.Later after) ∨
      ∃ path looked saved text, c.dataPath? = some path ∧
        (force = true ∨ FindsNothing state path) ∧ state.Later looked ∧
        ((⟨path⟩ : Store).save .sample : StateM FaultyTree _).run looked = (saved, after) ∧
        outcome = (saved.mapError Failure.store).map fun _ => text := by
  unfold runCreate at h
  cases hpath : c.dataPath? with
  | none =>
    rw [openStore, hpath] at h
    obtain ⟨rfl, rfl⟩ := Prod.mk.inj h
    exact .inl ⟨⟨_, rfl⟩, Later.refl _⟩
  | some path =>
    rw [openStore, hpath, pure_bind] at h
    rcases hexists : ((⟨path⟩ : Store).fileExists : StateM FaultyTree _).run state with
      ⟨found, looked⟩
    have hlooked : state.Later (((⟨path⟩ : Store).fileExists : StateM FaultyTree _).run state).2 :=
      looks_pathExists path state
    rw [hexists] at hlooked
    have h := (run_lift_bind hexists).symm.trans h
    dsimp only at h
    split_ifs at h with hrefused
    · obtain ⟨rfl, rfl⟩ := Prod.mk.inj h
      exact .inl ⟨⟨_, rfl⟩, hlooked⟩
    · obtain ⟨saved, hsave, houtcome⟩ := run_orFail_bind h
      refine .inr ⟨path, looked, saved, _, rfl, ?_, hlooked, hsave, houtcome⟩
      cases found with
      | false => exact .inr (congrArg Prod.fst hexists)
      | true => exact .inl (by simpa using hrefused)

/-- **What changing a setting does**: it fails and changes nothing, or it saves the settings that
it finds with another value of one of them. -/
theorem runSettings_set_cases {key value : String}
    (h : (runSettings c (.set key value) : Run (StateM FaultyTree) String).run.run state =
      (outcome, after)) :
    ((∃ failure, outcome = .error failure) ∧ state.Later after) ∨
      ∃ path settings loaded changed saved text, c.environment.settingsPath? = some path ∧
        FindsSettings c.environment state settings loaded ∧
        settings.change key value = .ok changed ∧ state.Later loaded ∧
        (saveSettings path changed : ExceptT _ (StateM FaultyTree) _).run.run loaded =
          (saved, after) ∧
        outcome = (saved.mapError Failure.settings).map fun _ => text := by
  unfold runSettings at h
  cases hpath : c.environment.settingsPath? with
  | none =>
    rw [openSettings, hpath] at h
    obtain ⟨rfl, rfl⟩ := Prod.mk.inj h
    exact .inl ⟨⟨_, rfl⟩, Later.refl _⟩
  | some path =>
    dsimp only at h
    rw [openSettings, hpath, pure_bind] at h
    obtain ⟨saved, hchange, houtcome⟩ := run_orFail_bind h
    rcases changeSetting_cases hchange with
      ⟨⟨e, rfl⟩, hlater⟩ | ⟨s, changed, loaded, hload, hloaded, hchanged, hsave⟩
    · exact .inl ⟨⟨_, houtcome⟩, hlater⟩
    · exact .inr ⟨path, s, loaded, changed, saved, _, rfl, ⟨path, hpath, hload⟩, hchanged, hloaded,
        hsave, houtcome⟩

/-! ## Runs -/

/-- What a run can do to the files, and how it ends then. -/
inductive RunStep (e : Environment) (arguments : List String) (state : FaultyTree) :
    Ending → FaultyTree → Prop
  | reads {after : FaultyTree} (ending : Ending) (later : state.Later after) :
      RunStep e arguments state ending after
  /-- Saves the sample where nothing is found or where that is forced. -/
  | creates {i : Invocation} {force : Bool} {settings : Settings} {path text : String}
      {loaded looked after : FaultyTree} (invocation : parse e arguments = .ok i)
      (command : i.command = some (.create force)) (found : FindsSettings e state settings loaded)
      (dataPath : (Context.of e i settings).dataPath? = some path)
      (allowed : force = true ∨ FindsNothing loaded path) (later : state.Later looked)
      (saved : ((⟨path⟩ : Store).save .sample : StateM FaultyTree _).run looked = (.ok (), after)) :
      RunStep e arguments state (.done i text) after
  | failsToCreate {i : Invocation} {force : Bool} {settings : Settings} {path : String}
      {error : StoreError} {loaded looked after : FaultyTree}
      (invocation : parse e arguments = .ok i) (command : i.command = some (.create force))
      (found : FindsSettings e state settings loaded)
      (dataPath : (Context.of e i settings).dataPath? = some path)
      (allowed : force = true ∨ FindsNothing loaded path) (later : state.Later looked)
      (failed : ((⟨path⟩ : Store).save .sample : StateM FaultyTree _).run looked =
        (.error error, after)) :
      RunStep e arguments state (.failed i (.store error)) after
  /-- Saves the settings that are found with another value of one of them. They are loaded twice, at
  the beginning of the run and for the change. -/
  | sets {i : Invocation} {key value path text : String} {settings latest changed : Settings}
      {loaded reloaded after : FaultyTree} (invocation : parse e arguments = .ok i)
      (command : i.command = some (.settings (.set key value)))
      (settingsPath : e.settingsPath? = some path) (found : FindsSettings e state settings loaded)
      (again : FindsSettings e loaded latest reloaded)
      (change : latest.change key value = .ok changed) (later : state.Later reloaded)
      (saved : (saveSettings path changed : ExceptT _ (StateM FaultyTree) _).run.run reloaded =
        (.ok (), after)) :
      RunStep e arguments state (.done i text) after
  | failsToSet {i : Invocation} {key value path : String} {settings latest changed : Settings}
      {error : SettingsError} {loaded reloaded after : FaultyTree}
      (invocation : parse e arguments = .ok i)
      (command : i.command = some (.settings (.set key value)))
      (settingsPath : e.settingsPath? = some path) (found : FindsSettings e state settings loaded)
      (again : FindsSettings e loaded latest reloaded)
      (change : latest.change key value = .ok changed) (later : state.Later reloaded)
      (failed : (saveSettings path changed : ExceptT _ (StateM FaultyTree) _).run.run reloaded =
        (.error error, after)) :
      RunStep e arguments state (.failed i (.settings error)) after

variable {e : Environment} {arguments : List String} {ending : Ending}

theorem run_cases {input : Except FileError String} {i : Invocation}
    (h : (run e (pure input) i : Run (StateM FaultyTree) String).run.run state =
      (outcome, after)) :
    state.Later after ∨ ∃ settings loaded command, FindsSettings e state settings loaded ∧
      state.Later loaded ∧ i.command = some command ∧ command.writes = true ∧
      (runCommand (Context.of e i settings) (pure input : StateM FaultyTree _)
        command).run.run loaded = (outcome, after) := by
  unfold run at h
  cases hpath : e.settingsPath? with
  | none =>
    rw [openSettings, hpath] at h
    obtain ⟨rfl, rfl⟩ := Prod.mk.inj h
    exact .inl (Later.refl _)
  | some path =>
    rw [openSettings, hpath, pure_bind] at h
    have hload := readsOnly_orFail Failure.settings (readsOnly_loadSettings path)
    rcases hload.run_bind_cases h with ⟨-, hstop⟩ | ⟨settings, loaded, hloads, hloaded, h⟩
    · exact .inl hstop
    have hfound : FindsSettings e state settings loaded := ⟨path, hpath, run_orFail_ok hloads⟩
    cases hcommand : i.command with
    | none =>
      rw [hcommand] at h
      obtain ⟨-, rfl⟩ := Prod.mk.inj h
      exact .inl hloaded
    | some command =>
      rw [hcommand] at h
      cases hwrites : command.writes with
      | true => exact .inr ⟨settings, loaded, command, hfound, hloaded, rfl, hwrites, h⟩
      | false =>
        have hlater := readsOnly_runCommand (c := Context.of e i settings) input hwrites loaded
        rw [h] at hlater
        exact .inl (hloaded.trans hlater)

/-- How an invocation with an outcome ends. -/
def Ending.of (i : Invocation) : Except Failure String → Ending
  | .ok output => .done i output
  | .error failure => .failed i failure

theorem run_runArguments {σ : Type} [FileSystem (StateM σ)] {before done : σ}
    {input : StateM σ (Except FileError String)} {i : Invocation}
    (hparse : parse e arguments = .ok i)
    (h : (run e input i : Run (StateM σ) String).run.run before = (outcome, done)) :
    (runArguments e input arguments).run before = (Ending.of i outcome, done) := by
  unfold runArguments
  rw [hparse]
  refine (Store.run_bind h).trans ?_
  cases outcome <;> rfl

/-- **What a run does.** -/
theorem runStep_of_run (input : Except FileError String)
    (h : (runArguments e (pure input) arguments : StateM FaultyTree Ending).run state =
      (ending, after)) :
    RunStep e arguments state ending after := by
  cases hparse : parse e arguments with
  | error error =>
    unfold runArguments at h
    rw [hparse] at h
    obtain ⟨-, rfl⟩ := Prod.mk.inj h
    exact .reads ending (Later.refl _)
  | ok i =>
    rcases hrun : (run e (pure input) i : Run (StateM FaultyTree) String).run.run state with
      ⟨outcome, done⟩
    obtain ⟨rfl, rfl⟩ := Prod.mk.inj ((run_runArguments hparse hrun).symm.trans h)
    rcases run_cases hrun with
      hlater | ⟨settings, loaded, command, hfound, hloaded, hcommand, hwrites, hdone⟩
    · exact .reads _ hlater
    cases command with
    | create force =>
      rcases runCreate_cases hdone with
        ⟨-, hlater⟩ | ⟨path, looked, saved, text, hpath, hallowed, hlooked, hsave, rfl⟩
      · exact .reads _ (hloaded.trans hlater)
      have hlater := hloaded.trans hlooked
      cases saved with
      | ok => exact .creates hparse hcommand hfound hpath hallowed hlater hsave
      | error error => exact .failsToCreate hparse hcommand hfound hpath hallowed hlater hsave
    | settings command => cases command with
      | set key value =>
        rcases runSettings_set_cases hdone with ⟨-, hlater⟩ |
          ⟨path, latest, reloaded, changed, saved, text, hpath, hagain, hchange, hlooked, hsave,
            rfl⟩
        · exact .reads _ (hloaded.trans hlater)
        have hlater := hloaded.trans hlooked
        cases saved with
        | ok => exact .sets hparse hcommand hpath hfound hagain hchange hlater hsave
        | error error => exact .failsToSet hparse hcommand hpath hfound hagain hchange hlater hsave
      | _ => cases hwrites
    | _ => cases hwrites

end Weblog
