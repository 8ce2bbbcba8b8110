import Mathlib.Tactic.Common
import Weblog.Proofs.Config.Updates
import Weblog.Proofs.Program.Steps
/-!
# Runs that fail

A run that fails leaves the files as they are, unless it fails while it saves. Then there may be new
directories, and what has been written until then: the temporary file beside the data file, in part
or as a whole, or a part of the settings file.

* **`leftover_of_failure`**: what is left when a run has failed, whatever went wrong.
* `not_unchanged_of_failure`: runs that fail and leave something.
-/

namespace Weblog

open CommandLine Files FileTree FaultyTree

/-- What can be left when a run has failed: nothing, or what a failed save of the sample leaves
where nothing was found or where that is forced, or what a failed save of the settings leaves. -/
inductive Leftover (e : Environment) (arguments : List String) (state : FaultyTree) :
    Ending → FileTree → Prop
  | nothing (ending : Ending) : Leftover e arguments state ending state.tree
  | ofCreation {i : Invocation} {force : Bool} {settings : Settings} {path : String}
      {error : StoreError} {loaded : FaultyTree} {after : FileTree}
      (invocation : parse e arguments = .ok i) (command : i.command = some (.create force))
      (found : FindsSettings e state settings loaded)
      (dataPath : (Context.of e i settings).dataPath? = some path)
      (allowed : force = true ∨ FindsNothing loaded path)
      (left : (⟨path⟩ : Store).LeftBy .sample state.tree error after) :
      Leftover e arguments state (.failed i (.store error)) after
  | ofSetting {i : Invocation} {key value path : String} {settings latest changed : Settings}
      {error : SettingsError} {loaded reloaded : FaultyTree} {after : FileTree}
      (invocation : parse e arguments = .ok i)
      (command : i.command = some (.settings (.set key value)))
      (settingsPath : e.settingsPath? = some path) (found : FindsSettings e state settings loaded)
      (again : FindsSettings e loaded latest reloaded)
      (change : latest.change key value = .ok changed)
      (left : SettingsLeft path changed state.tree error after) :
      Leftover e arguments state (.failed i (.settings error)) after

/-- **What is left when a run has failed**, whatever went wrong. -/
theorem leftover_of_failure (e : Environment) (input : Except FileError String)
    (arguments : List String) (state after : FaultyTree) (ending : Ending)
    (hrun : (runArguments e (pure input) arguments : StateM FaultyTree Ending).run state =
      (ending, after)) (hfailed : ending.exitStatus ≠ 0) :
    Leftover e arguments state ending after.tree := by
  cases runStep_of_run input hrun with
  | reads _ hlater =>
    rw [hlater.1]
    exact .nothing ending
  | creates => exact absurd rfl hfailed
  | failsToCreate hparse hcommand hfound hpath hallowed hlater hsave =>
    have hleft := Store.leftBy_failed_save hsave
    rw [hlater.1] at hleft
    exact .ofCreation hparse hcommand hfound hpath hallowed hleft
  | sets => exact absurd rfl hfailed
  | failsToSet hparse hcommand hpath hfound hagain hchange hlater hsave =>
    rcases saveSettings_cases hsave with ⟨hok, -⟩ | ⟨_, herror, hleft⟩
    · cases hok
    · cases herror
      rw [hlater.1] at hleft
      exact .ofSetting hparse hcommand hpath hfound hagain hchange hleft

/-! ## Runs that leave something -/

theorem run_change_error {e : Environment} {input : StateM FaultyTree (Except FileError String)}
    {i : Invocation} {path key value : String} {settings : Settings} {error : SettingsError}
    {state loaded after : FaultyTree} (hpath : e.settingsPath? = some path)
    (hcommand : i.command = some (.settings (.set key value)))
    (hload : (loadSettings path : ExceptT _ (StateM FaultyTree) _).run.run state =
      (.ok settings, loaded))
    (hchange : (changeSetting path key value : ExceptT _ (StateM FaultyTree) _).run.run loaded =
      (.error error, after)) :
    (run e input i : Run (StateM FaultyTree) _).run.run state =
      (.error (.settings error), after) := by
  have hopen : (openSettings e : Run (StateM FaultyTree) _) = pure path := by
    rw [openSettings, hpath]
  unfold run
  rw [hopen, pure_bind, run_bind_ok (run_orFail Failure.settings hload), hcommand]
  change (openSettings e >>= fun path => orFail Failure.settings (changeSetting path key value) >>=
    fun _ => _ : Run (StateM FaultyTree) _).run.run loaded = _
  rw [hopen, pure_bind, ExceptT.run_bind, StateT.run_bind, run_orFail Failure.settings hchange]
  rfl

/-- An environment with a data file and a settings file. -/
def besideEachOther : Environment :=
  { settingsFile := some "config.toml", dataFile := some "posts.json" }

/-- A change of the page size. -/
def largerPage : Invocation :=
  { dataFile := some "posts.json", command := some (.settings (.set "listing.limit" "25")) }

theorem run_largerPage_full_disk :
    (runArguments besideEachOther (pure (.ok "")) ["config", "set", "listing.limit", "25"] :
        StateM FaultyTree Ending).run ⟨settingsDirectory {}, fullDisk 4⟩ =
      (.failed largerPage (.settings (.write noSpace)),
        ⟨cutOffDirectory { pageSize := some 25 }, []⟩) := by
  have hparse : parse besideEachOther ["config", "set", "listing.limit", "25"] =
      .ok largerPage := by
    decide +kernel
  have hload := load_settingsDirectory (s := {}) rfl (fullDisk 2)
  have hchange := run_changeSetting_full_disk {} { pageSize := some 25 } "listing.limit" "25"
    rfl rfl (by decide +kernel)
  exact run_runArguments hparse (run_change_error rfl rfl hload hchange)

/-- A new blog, even in place of an old one. -/
def forcedCreation : Invocation := { dataFile := some "posts.json", command := some (.create true) }

/-- A directory in place of the data file. -/
def blockedByDirectory (others : List (String × FileTree)) : FileTree :=
  .directory (("posts.json", .emptyDirectory) :: others)

theorem run_forcedCreation_blocked :
    (runArguments besideEachOther (pure (.ok "")) ["init", "--force"] :
        StateM FaultyTree Ending).run ⟨blockedByDirectory [], []⟩ =
      (.failed forcedCreation (.store (.write "posts.json" .isDirectory)),
        ⟨blockedByDirectory [("posts.tmp", .file (Store.render .sample).toUTF8)], []⟩) := by
  have hparse : parse besideEachOther ["init", "--force"] = .ok forcedCreation := by
    decide +kernel
  have hrun : (run besideEachOther (pure (.ok "")) forcedCreation :
      Run (StateM FaultyTree) _).run.run ⟨blockedByDirectory [], []⟩ =
        (.error (.store (.write "posts.json" .isDirectory)),
          ⟨blockedByDirectory [("posts.tmp", .file (Store.render .sample).toUTF8)], []⟩) := by rfl
  exact run_runArguments hparse hrun

/-- A page size that is a number, but too large for the settings file. -/
def oversizedPage : Invocation :=
  { command := some (.settings (.set "listing.limit" "18446744073709551615")) }

theorem run_oversizedPage :
    (runArguments { settingsFile := some "new/config.toml" } (pure (.ok ""))
        ["config", "set", "listing.limit", "18446744073709551615"] :
        StateM FaultyTree Ending).run ⟨.emptyDirectory, []⟩ =
      (.failed oversizedPage (.settings .outOfRange),
        ⟨.directory [("new", .emptyDirectory)], []⟩) := by
  have hparse : parse { settingsFile := some "new/config.toml" }
      ["config", "set", "listing.limit", "18446744073709551615"] = .ok oversizedPage := by
    decide +kernel
  have hrun : (run { settingsFile := some "new/config.toml" } (pure (.ok "")) oversizedPage :
      Run (StateM FaultyTree) _).run.run ⟨.emptyDirectory, []⟩ =
        (.error (.settings .outOfRange), ⟨.directory [("new", .emptyDirectory)], []⟩) := by rfl
  exact run_runArguments hparse hrun

theorem leftover_of_failure_full_disk :
    let arguments := ["config", "set", "listing.limit", "25"]
    let ending : Ending := .failed largerPage (.settings (.write noSpace))
    let state : FaultyTree := ⟨settingsDirectory {}, fullDisk 4⟩
    let after : FaultyTree := ⟨cutOffDirectory { pageSize := some 25 }, []⟩
    (runArguments besideEachOther (pure (.ok "")) arguments : StateM FaultyTree Ending).run state =
      (ending, after) ∧ ending.exitStatus ≠ 0 ∧
      Leftover besideEachOther arguments state ending after.tree := by
  intro arguments ending state after
  have hrun := run_largerPage_full_disk
  have hfailed : ending.exitStatus ≠ 0 := by decide
  exact ⟨hrun, hfailed,
    leftover_of_failure besideEachOther (.ok "") arguments state after ending hrun hfailed⟩

/-- A run that fails can leave a temporary file, a new directory, or the beginning of a text in
place of the settings. -/
theorem not_unchanged_of_failure :
    (∃ ending after, (runArguments besideEachOther (pure (.ok "")) ["init", "--force"] :
        StateM FaultyTree Ending).run ⟨blockedByDirectory [], []⟩ = (ending, after) ∧
      ending.exitStatus ≠ 0 ∧ after.tree ≠ blockedByDirectory []) ∧
    (∃ ending after, (runArguments { settingsFile := some "new/config.toml" } (pure (.ok ""))
        ["config", "set", "listing.limit", "18446744073709551615"] :
        StateM FaultyTree Ending).run ⟨.emptyDirectory, []⟩ = (ending, after) ∧
      ending.exitStatus ≠ 0 ∧ after.tree ≠ .emptyDirectory) ∧
    ∃ ending after, (runArguments besideEachOther (pure (.ok ""))
        ["config", "set", "listing.limit", "25"] :
        StateM FaultyTree Ending).run ⟨settingsDirectory {}, fullDisk 4⟩ = (ending, after) ∧
      ending.exitStatus ≠ 0 ∧ after.tree ≠ settingsDirectory {} := by
  refine ⟨⟨_, _, run_forcedCreation_blocked, by decide, ?_⟩,
    ⟨_, _, run_oversizedPage, by decide, ?_⟩, ⟨_, _, run_largerPage_full_disk, by decide, ?_⟩⟩
  · simp [blockedByDirectory]
  · simp [emptyDirectory]
  · intro heq
    have hread := read_cutOffDirectory
    rw [show cutOffDirectory _ = settingsDirectory {} from heq,
      read_of_holds (holds_settingsDirectory {})] at hread
    exact absurd (Except.ok.inj hread) (by decide)

end Weblog
