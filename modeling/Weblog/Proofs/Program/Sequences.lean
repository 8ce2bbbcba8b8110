import Mathlib.Tactic.Common
import Weblog.Proofs.CommandLine.Options
import Weblog.Proofs.Files.Apart
import Weblog.Proofs.Program.FailedRun
/-!
# Sequences of runs

One run after the other works on the same files, each with faults of its own. Where the environment
names a data file and a settings file that lie apart, and no run is asked for another data file, the
data file is the one that the environment names, whatever the settings say.

* `Request`, `Request.run`, `filesAfter`: a run that is asked for, and the files after some runs.
* `Apart`: paths without dots none of which is below another one.
* `InitialOrSample`, `Confined`: what a run may do to the two files.
* `confined_run`: **one run** keeps to that.
* **`confined_runs`**: every run of a sequence keeps to that.
* `not_confined_to_done`: runs that change the settings file in other ways.
-/

namespace Weblog

open CommandLine Files FileTree FaultyTree

/-- A run that is asked for: its arguments, what is read from its standard input, and the faults of
its operations. -/
structure Request where
  arguments : List String
  input : Except FileError String := .ok ""
  faults : List (Option Fault) := []

def Request.run (e : Environment) (r : Request) (root : FileTree) : Ending × FileTree :=
  let outcome := (runArguments e (pure r.input) r.arguments : StateM FaultyTree Ending).run
    ⟨root, r.faults⟩
  (outcome.1, outcome.2.tree)

/-- The files after some runs. -/
def filesAfter (e : Environment) (requests : List Request) (root : FileTree) : FileTree :=
  requests.foldl (fun tree r => (r.run e tree).2) root

theorem filesAfter_append (e : Environment) (earlier : List Request) (r : Request)
    (root : FileTree) :
    filesAfter e (earlier ++ [r]) root = (r.run e (filesAfter e earlier root)).2 := by
  rw [filesAfter, List.foldl_append]
  rfl

/-- Whether paths lead down from name to name, and none of them is below another one. -/
structure Apart (paths : List String) : Prop where
  plain : ∀ path ∈ paths, IsPlain path
  apart : paths.Pairwise fun a b => ¬steps a <+: steps b ∧ ¬steps b <+: steps a

/-- Whether what is at the data file is what was there in the beginning, or the sample. -/
def InitialOrSample (dataPath : String) (initial now : FileTree) : Prop :=
  SameBelow initial now (steps dataPath) ∨
    now.kind? (steps dataPath) = some (.file (Store.render .sample).toUTF8)

/-- What a run may do to a data file and a settings file. -/
structure Confined (e : Environment) (dataPath settingsPath : String) (r : Request)
    (initial before : FileTree) (ending : Ending) (after : FileTree) : Prop where
  data : InitialOrSample dataPath initial after
  /-- A change of the data file is the work of a command that makes a blog, by force or where
  nothing was found: nothing was there, or the system did not answer. -/
  dataChange : ¬SameBelow before after (steps dataPath) →
    ∃ i force settings loaded, parse e r.arguments = .ok i ∧ i.command = some (.create force) ∧
      FindsSettings e ⟨before, r.faults⟩ settings loaded ∧
      (force = true ∨ (before.find dataPath).toBool = false ∨
        loaded.faults.head?.join.isSome = true)
  /-- A change of the settings file is the work of a command that changes a setting and succeeds, or
  that has not written the changed settings to the end. -/
  settingsChange : ¬SameBelow before after (steps settingsPath) →
    ∃ i key value, parse e r.arguments = .ok i ∧ i.command = some (.settings (.set key value)) ∧
      ((∃ output, ending = .done i output) ∨
        ∃ settings loaded latest reloaded changed cause count,
          FindsSettings e ⟨before, r.faults⟩ settings loaded ∧
          FindsSettings e loaded latest reloaded ∧ latest.change key value = .ok changed ∧
          ending = .failed i (.settings (.write cause)) ∧
          after.kind? (steps settingsPath) =
            some (.file (changed.render.toUTF8.extract 0 count)))
  /-- The other commands change nothing. -/
  otherCommands : (∀ i command, parse e r.arguments = .ok i → i.command = some command →
    command.writes = false) → after = before

section Runs

variable {e : Environment} {dataPath settingsPath : String} {r : Request}
  {initial before after : FileTree} {ending : Ending}

theorem Confined.refl (r : Request) (root : FileTree) (ending : Ending) :
    Confined e dataPath settingsPath r root root ending root where
  data := .inl (.refl root _)
  dataChange h := absurd (.refl root _) h
  settingsChange h := absurd (.refl root _) h
  otherCommands _ := rfl

theorem Confined.from (h : Confined e dataPath settingsPath r before before ending after)
    (hdata : InitialOrSample dataPath initial before) :
    Confined e dataPath settingsPath r initial before ending after := by
  refine { h with data := ?_ }
  rcases h.data with hsame | hsample
  · rcases hdata with hinitial | hsample
    · exact .inl (hinitial.trans hsame)
    · exact .inr (hsame.kind?.trans hsample)
  · exact .inr hsample

/-! ### One run -/

section Steps

variable {i : Invocation} {force : Bool} {key value : String} {made : FileTree}
  {state loaded reloaded done : FaultyTree}

theorem absurd_of_writes {command : Command} (hparse : parse e r.arguments = .ok i)
    (hcommand : i.command = some command) (hwrites : command.writes = true)
    (h : ∀ i command, parse e r.arguments = .ok i → i.command = some command →
      command.writes = false) : after = before := by
  rw [h i command hparse hcommand] at hwrites
  cases hwrites

theorem ne_nil_of_not_begins {names other : List String} (h : ¬names <+: other) : names ≠ [] := by
  rintro rfl
  exact h List.nil_prefix

theorem sameBelow_of_apart {path : String} {names : List String} {places : List (List String)}
    (honly : ChangesOnly (directoriesAbove path) places before after) (hplain : IsPlain path)
    (hpath : ¬names <+: steps path) (hplaces : ∀ place ∈ places, ¬names <+: place) :
    SameBelow before after names :=
  honly.sameBelow hplain (ne_nil_of_not_begins hpath) (fun hbegins => absurd hbegins hpath) hplaces

variable (hapart : Apart [dataPath, (⟨dataPath⟩ : Store).temporaryPath, settingsPath])

include hapart

theorem confined_of_save {settings : Settings} (hparse : parse e r.arguments = .ok i)
    (hcommand : i.command = some (.create force))
    (hfound : FindsSettings e ⟨before, r.faults⟩ settings loaded)
    (hallowed : force = true ∨ FindsNothing loaded dataPath)
    (hsave : ((⟨dataPath⟩ : Store).save .sample : StateM FaultyTree _).run state = (.ok (), done))
    (hstate : state.tree = before) :
    Confined e dataPath settingsPath r before before ending done.tree := by
  obtain ⟨file, temporary, hreaches⟩ := Store.reaches_of_save hsave
  have hplain := hapart.plain dataPath (by simp)
  have hfile := hreaches.leadsToFile.eq_steps hplain
  have htemporary := hreaches.leadsToTemporary.eq_steps (hapart.plain _ (by simp))
  rw [hfile, htemporary, hstate] at hreaches
  obtain ⟨⟨-, -, hsettingsData⟩, -, hsettingsTemporary⟩ := by simpa using hapart.apart
  have hsettings : SameBelow before done.tree (steps settingsPath) :=
    sameBelow_of_apart hreaches.changesOnly hplain hsettingsData
      (by simp [hsettingsData, hsettingsTemporary])
  have hallowed := hallowed.imp_right findsNothing_iff.mp
  rw [hfound.later.1] at hallowed
  exact ⟨.inr hreaches.saved,
    fun _ => ⟨i, force, settings, loaded, hparse, hcommand, hfound, hallowed⟩,
    fun hchange => absurd hsettings hchange, absurd_of_writes hparse hcommand rfl⟩

theorem confined_of_failed_save {error : StoreError} (hparse : parse e r.arguments = .ok i)
    (hcommand : i.command = some (.create force))
    (hleft : (⟨dataPath⟩ : Store).LeftBy .sample before error after) :
    Confined e dataPath settingsPath r before before ending after := by
  have hplain := hapart.plain dataPath (by simp)
  have hplainTemporary := hapart.plain (⟨dataPath⟩ : Store).temporaryPath (by simp)
  obtain ⟨⟨⟨hdataTemporary, -⟩, -, hsettingsData⟩, -, hsettingsTemporary⟩ := by
    simpa using hapart.apart
  obtain ⟨places, honly, hplaces⟩ : ∃ places,
      ChangesOnly (directoriesAbove dataPath) places before after ∧
        ∀ place ∈ places, place = steps (⟨dataPath⟩ : Store).temporaryPath := by
    cases hleft with
    | directories _ honly => exact ⟨[], honly, by simp⟩
    | cutOff _ _ hleft => exact ⟨_, (hleft.at_steps hplainTemporary).2, by simp⟩
    | notMoved _ hleft => exact ⟨_, (hleft.at_steps hplainTemporary).2, by simp⟩
  have hdata : SameBelow before after (steps dataPath) := by
    refine honly.sameBelow hplain (ne_nil_of_not_begins hdataTemporary) (fun _ => rfl)
      fun place hmem => ?_
    rw [hplaces place hmem]
    exact hdataTemporary
  have hsettings : SameBelow before after (steps settingsPath) := by
    refine sameBelow_of_apart honly hplain hsettingsData fun place hmem => ?_
    rw [hplaces place hmem]
    exact hsettingsTemporary
  exact ⟨.inl hdata, fun hchange => absurd hdata hchange, fun hchange => absurd hsettings hchange,
    absurd_of_writes hparse hcommand rfl⟩

theorem sameBelow_data_of_settings {places : List (List String)}
    (honly : ChangesOnly (directoriesAbove settingsPath) places before after)
    (hplaces : ∀ place ∈ places, place = steps settingsPath) :
    SameBelow before after (steps dataPath) := by
  obtain ⟨⟨-, hdataSettings, -⟩, -⟩ := by simpa using hapart.apart
  refine sameBelow_of_apart honly (hapart.plain settingsPath (by simp)) hdataSettings
    fun place hmem => ?_
  rw [hplaces place hmem]
  exact hdataSettings

theorem confined_of_set {settings : Settings} {output : String}
    (hparse : parse e r.arguments = .ok i)
    (hcommand : i.command = some (.settings (.set key value)))
    (hmade : MakesAbove settingsPath before made)
    (hwrite : made.write settingsPath settings.render.toUTF8 = .ok after) :
    Confined e dataPath settingsPath r before before (.done i output) after := by
  have hdata : SameBelow before after (steps dataPath) := by
    rcases leavesFile_of_write hmade.changesOnly hwrite with rfl | hleft
    · exact sameBelow_data_of_settings hapart hmade.changesOnly (by simp)
    · exact sameBelow_data_of_settings hapart
        (hleft.at_steps (hapart.plain settingsPath (by simp))).2 (by simp)
  exact ⟨.inl hdata, fun hchange => absurd hdata hchange,
    fun _ => ⟨i, key, value, hparse, hcommand, .inl ⟨output, rfl⟩⟩,
    absurd_of_writes hparse hcommand rfl⟩

theorem confined_of_failed_set {settings latest changed : Settings} {error : SettingsError}
    (hparse : parse e r.arguments = .ok i)
    (hcommand : i.command = some (.settings (.set key value)))
    (hfound : FindsSettings e ⟨before, r.faults⟩ settings loaded)
    (hagain : FindsSettings e loaded latest reloaded)
    (hchange : latest.change key value = .ok changed)
    (hleft : SettingsLeft settingsPath changed before error after) :
    Confined e dataPath settingsPath r before before (.failed i (.settings error)) after := by
  have hplain := hapart.plain settingsPath (by simp)
  obtain ⟨⟨-, -, hsettingsData⟩, -⟩ := by simpa using hapart.apart
  cases hleft with
  | directories _ hmade =>
    have hdata := sameBelow_data_of_settings hapart hmade.changesOnly (by simp)
    have hsettings : SameBelow before after (steps settingsPath) :=
      hmade.changesOnly.sameBelow hplain (ne_nil_of_not_begins hsettingsData) (fun _ => rfl)
        (by simp)
    exact ⟨.inl hdata, fun hchange => absurd hdata hchange, fun hchange => absurd hsettings hchange,
      absurd_of_writes hparse hcommand rfl⟩
  | cutOff cause count hleft =>
    obtain ⟨hcontent, honly⟩ := hleft.at_steps hplain
    have hdata := sameBelow_data_of_settings hapart honly (by simp)
    exact ⟨.inl hdata, fun hchange => absurd hdata hchange,
      fun _ => ⟨i, key, value, hparse, hcommand,
        .inr ⟨settings, loaded, latest, reloaded, changed, cause, count, hfound, hagain, hchange,
          rfl, hcontent⟩⟩,
      absurd_of_writes hparse hcommand rfl⟩

end Steps

variable (hapart : Apart [dataPath, (⟨dataPath⟩ : Store).temporaryPath, settingsPath])
  (hdata : e.dataFile = some dataPath) (hsettings : e.settingsFile = some settingsPath)

include hapart hdata hsettings

/-- **What one run does.** -/
theorem confined_run (before : FileTree) (hoption : NotIntroduced .data r.arguments) :
    Confined e dataPath settingsPath r before before (r.run e before).1 (r.run e before).2 := by
  have hpath : ∀ {i : Invocation} {settings : Settings} {path : String},
      parse e r.arguments = .ok i → (Context.of e i settings).dataPath? = some path →
        path = dataPath := by
    intro i settings path hparse hpath
    have hfile : i.dataFile = some dataPath := (dataFile_of_parse hoption hparse).trans hdata
    simpa [Context.dataPath?, Context.of, hfile] using hpath.symm
  have hsettingsPath : ∀ {path : String}, e.settingsPath? = some path → path = settingsPath := by
    intro path hpath
    simpa [Environment.settingsPath?, hsettings] using hpath.symm
  rcases hrun : (runArguments e (pure r.input) r.arguments : StateM FaultyTree Ending).run
    ⟨before, r.faults⟩ with ⟨ending, done⟩
  have hresult : r.run e before = (ending, done.tree) := by rw [Request.run, hrun]
  rw [hresult]
  -- the two paths do not depend on the settings, so what is saved is saved to these files
  cases runStep_of_run r.input hrun with
  | reads _ hlater =>
    rw [hlater.1]
    exact .refl r before ending
  | creates hparse hcommand hfound hdataPath hallowed hlater hsave =>
    obtain rfl := hpath hparse hdataPath
    exact confined_of_save hapart hparse hcommand hfound hallowed hsave hlater.1
  | failsToCreate hparse hcommand _ hdataPath _ hlater hsave =>
    obtain rfl := hpath hparse hdataPath
    have hleft := Store.leftBy_failed_save hsave
    rw [hlater.1] at hleft
    exact confined_of_failed_save hapart hparse hcommand hleft
  | sets hparse hcommand hpath _ _ _ hlater hsave =>
    obtain rfl := hsettingsPath hpath
    rcases saveSettings_cases hsave with ⟨-, -, made, hmade, hwrite⟩ | ⟨_, herror, -⟩
    · rw [hlater.1] at hmade
      exact confined_of_set hapart hparse hcommand hmade hwrite
    · cases herror
  | failsToSet hparse hcommand hpath hfound hagain hchange hlater hsave =>
    obtain rfl := hsettingsPath hpath
    rcases saveSettings_cases hsave with ⟨hok, -⟩ | ⟨_, herror, hleft⟩
    · cases hok
    · cases herror
      rw [hlater.1] at hleft
      exact confined_of_failed_set hapart hparse hcommand hfound hagain hchange hleft

/-! ### Run after run -/

/-- **After any runs** what is at the data file is what was there in the beginning, or the
sample. -/
theorem initialOrSample_filesAfter (root : FileTree) (requests : List Request)
    (hoption : ∀ r ∈ requests, NotIntroduced .data r.arguments) :
    InitialOrSample dataPath root (filesAfter e requests root) := by
  induction requests using List.reverseRecOn with
  | nil => exact .inl (.refl root _)
  | append_singleton earlier r ih =>
    have hearlier := ih fun r hr => hoption r (List.mem_append_left _ hr)
    have hstep := confined_run hapart hdata hsettings (filesAfter e earlier root)
      (hoption r (by simp))
    rw [filesAfter_append]
    exact (hstep.from hearlier).data

end Runs

/-- An environment in which the settings file is the temporary one of the data file: their paths
differ by a slash. -/
def sameFile : Environment :=
  { settingsFile := some "blog//posts.tmp", dataFile := some "blog/posts.json" }

def creation : Invocation := { dataFile := some "blog/posts.json", command := some (.create false) }

def onlyFile (name : String) (text : String) : FileTree :=
  .directory [("blog", .directory [(name, .file text.toUTF8)])]

theorem run_creation_sameFile : ∃ output,
    (runArguments sameFile (pure (.ok "")) ["init"] : StateM FaultyTree Ending).run
        ⟨onlyFile "posts.tmp" ({} : Settings).render, []⟩ =
      (.done creation output, ⟨onlyFile "posts.json" (Store.render .sample), []⟩) := by
  have hparse : parse sameFile ["init"] = .ok creation := by decide +kernel
  have hopen : (openSettings sameFile : Run (StateM FaultyTree) _) = pure "blog//posts.tmp" := rfl
  have hholds : (onlyFile "posts.tmp" ({} : Settings).render).Holds "blog//posts.tmp"
      ({} : Settings).render.toUTF8 := ⟨["blog"], "posts.tmp", ⟨rfl, by decide⟩, rfl⟩
  have hload : (loadSettings "blog//posts.tmp" : ExceptT _ (StateM FaultyTree) _).run.run
      ⟨onlyFile "posts.tmp" ({} : Settings).render, []⟩ =
        (.ok {}, ⟨onlyFile "posts.tmp" ({} : Settings).render, []⟩) := by
    have hloads : Loads "blog//posts.tmp" _ {} :=
      loads_of_holds hholds (Settings.ofText_render rfl)
    rw [faultless_loadSettings, hloads]
  obtain ⟨output, hcreate⟩ : ∃ output, (runCreate (Context.of sameFile creation {}) false :
      Run (StateM FaultyTree) _).run.run ⟨onlyFile "posts.tmp" ({} : Settings).render, []⟩ =
        (.ok output, ⟨onlyFile "posts.json" (Store.render .sample), []⟩) := ⟨_, rfl⟩
  have hrun : (run sameFile (pure (.ok "")) creation : Run (StateM FaultyTree) _).run.run
      ⟨onlyFile "posts.tmp" ({} : Settings).render, []⟩ =
        (.ok output, ⟨onlyFile "posts.json" (Store.render .sample), []⟩) := by
    unfold run
    rw [hopen, pure_bind, run_bind_ok (run_orFail Failure.settings hload)]
    exact hcreate
  exact ⟨output, run_runArguments hparse hrun⟩

end Weblog
