import Mathlib.Tactic.Common
import Weblog.Proofs.Config.Changes
/-!
# One setting at a time

A change that succeeds concerns one setting, and a change that fails concerns none, unless writing
the settings file stops halfway: it is written in place.

* `KeepsFiles`: whether all files keep their content.
* `Settings.found`, `ChangeLeft`: what a change finds, and what it leaves when it fails.
* `change_of_ok`, `changeLeft_of_error`: one change, whatever goes wrong.
* `ChangeRequest`, `Succeed`: changes in a row, each with faults of its own.
* `changeSettings_swap`: two changes under different keys in either order.
* **`one_setting_changes`**: what changes do to the settings in the file.
* `not_kept_by_failed_change`: changes that fail and leave something.
-/

namespace Weblog

open Files FileTree FaultyTree

variable {path key value other text : String} {root made after : FileTree} {s t : Settings}

/-! ## Files -/

/-- Whether all files keep their content, and a path the file that it leads to. -/
structure KeepsFiles (path : String) (root after : FileTree) : Prop where
  kind?_iff : ∀ names content,
    after.kind? names = some (.file content) ↔ root.kind? names = some (.file content)
  holds : ∀ content, root.Holds path content → after.Holds path content

theorem keepsFiles_of_changesOnly {paths : List String} (h : ChangesOnly paths [] root after) :
    KeepsFiles path root after := by
  have hfiles : ∀ names content,
      after.kind? names = some (.file content) ↔ root.kind? names = some (.file content) := by
    intro names content
    rcases h.elsewhere names (List.not_mem_nil) with hsame | ⟨hfree, hmade⟩
    · rw [hsame]
    · simp [hfree, hmade.kind?]
  refine ⟨hfiles, ?_⟩
  rintro content ⟨parent, name, hleads, hkind⟩
  exact ⟨parent, name, hleads.mono h.directories, (hfiles _ _).mpr hkind⟩

/-- Whether the file at a path is a settings file of the current version. -/
def HasCurrentVersion (path : String) (root : FileTree) : Prop :=
  ∃ text fields, root.read path = .ok text ∧ Toml.ofText text = some (.table fields) ∧
    fields.lookup "version" = some (.integer Settings.formatVersion)

theorem hasCurrentVersion_of_write (hmade : made.kind = .directory)
    (hwrite : made.write path s.render.toUTF8 = .ok after) (hwritable : s.isWritable = true) :
    HasCurrentVersion path after :=
  ⟨_, _, read_of_holds (holds_write hmade hwrite), Settings.toml_ofText_render hwritable, rfl⟩

/-! ## One change -/

section Faults

variable {faults : List (Option Fault)} {done : FaultyTree}

/-- The settings that a change finds: those in the file, and none if the system does not answer
whether there is a file. -/
def Settings.found (s : Settings) (faults : List (Option Fault)) : Settings :=
  if faults.head?.join.isSome then {} else s

theorem Settings.found_of_answered (s : Settings) {faults : List (Option Fault)}
    (h : faults.head?.join = none) : s.found faults = s := by
  rw [found, h]
  rfl

theorem found_of_load (hload : Loads path root s)
    (h : (loadSettings path : ExceptT _ (StateM FaultyTree) _).run.run ⟨root, faults⟩ =
      (.ok t, done)) : t = s.found faults := by
  unfold Settings.found
  rcases loadSettings_eq_ok h with ⟨hmissing, rfl⟩ | ⟨looked, text, hfound, hread, htext⟩
  · have hnone := congrArg Prod.fst ((run_pathExists path _).symm.trans hmissing)
    dsimp only at hnone
    split_ifs at hnone ⊢
    · rfl
    · rw [Loads, run_loadSettings, hnone] at hload
      exact Except.ok.inj (congrArg Prod.fst hload)
  · obtain ⟨hthere, rfl⟩ := Prod.mk.inj ((run_pathExists path _).symm.trans hfound)
    split_ifs at hthere with hanswered
    rw [if_neg hanswered]
    rw [Loads, run_loadSettings, if_pos hthere, read_of_readText hread] at hload
    dsimp only at hload
    rw [htext] at hload
    exact Except.ok.inj (congrArg Prod.fst hload)

/-- **A change that succeeds** changes the settings that it finds. -/
theorem change_of_ok (hroot : root.kind = .directory) (hload : Loads path root s)
    (h : (changeSetting path key value : ExceptT _ (StateM FaultyTree) _).run.run ⟨root, faults⟩ =
      (.ok (), done)) :
    ∃ t, (s.found faults).change key value = .ok t ∧ Loads path done.tree t ∧
      HasCurrentVersion path done.tree ∧ done.tree.kind = .directory := by
  rcases changeSetting_cases h with
    ⟨⟨_, herror⟩, -⟩ | ⟨t, changed, loaded, hloads, hlater, hchange, hsave⟩
  · cases herror
  obtain rfl := found_of_load hload hloads
  rcases saveSettings_cases hsave with ⟨-, hwritable, made, hmade, hwrite⟩ | ⟨_, herror, -⟩
  · have hkind := hmade.changesOnly.kind (hlater.1 ▸ hroot)
    obtain ⟨names, -, -, hwrites⟩ := changesOnly_write [] hkind hwrite
    exact ⟨changed, hchange, loads_of_write hkind hwrite hwritable,
      hasCurrentVersion_of_write hkind hwrite hwritable, hwrites.kind hkind⟩
  · cases herror

/-- What is left when a change of some settings has failed: every file has its content, and the path
shows what it showed if it is steady, or the settings file has some first bytes of its new text. -/
inductive ChangeLeft (path key value : String) (s : Settings) (root : FileTree) :
    SettingsError → FileTree → Prop
  | kept {after : FileTree} (e : SettingsError) (files : KeepsFiles path root after)
      (shows_eq : root.Steady path → after.shows path = root.shows path) :
      ChangeLeft path key value s root e after
  | cutOff {changed : Settings} {after : FileTree} (cause : FileError) (count : Nat)
      (change : s.change key value = .ok changed)
      (left : LeavesFile path path (changed.render.toUTF8.extract 0 count) root after) :
      ChangeLeft path key value s root (.write cause) after

/-- **What a change that fails leaves.** -/
theorem changeLeft_of_error {e : SettingsError} (hload : Loads path root s)
    (h : (changeSetting path key value : ExceptT _ (StateM FaultyTree) _).run.run ⟨root, faults⟩ =
      (.error e, done)) : ChangeLeft path key value (s.found faults) root e done.tree := by
  rcases changeSetting_cases h with
    ⟨-, hlater⟩ | ⟨t, changed, loaded, hloads, hlater, hchange, hsave⟩
  · have hsame : ChangesOnly [] [] root done.tree := by rw [hlater.1]; exact .refl root
    exact .kept e (keepsFiles_of_changesOnly hsame) fun _ => by rw [hlater.1]
  obtain rfl := found_of_load hload hloads
  rcases saveSettings_cases hsave with ⟨hok, -⟩ | ⟨_, herror, hleft⟩
  · cases hok
  cases herror
  rw [hlater.1] at hleft
  cases hleft with
  | directories e hmade =>
    exact .kept e (keepsFiles_of_changesOnly hmade.changesOnly) hmade.shows_eq
  | cutOff cause count hleft => exact .cutOff cause count hchange hleft

end Faults

/-! ## Changes in a row -/

/-- A change that is asked for, and the faults of its operations. -/
structure ChangeRequest where
  key : String
  value : String
  faults : List (Option Fault) := []

/-- Whether changes in a row succeed. The system answers each of them whether there is a file. -/
inductive Succeed (path : String) : List ChangeRequest → FileTree → FileTree → Prop
  | nil (root : FileTree) : Succeed path [] root root
  | cons {r : ChangeRequest} {requests : List ChangeRequest} {root after : FileTree}
      {done : FaultyTree} (answered : r.faults.head?.join = none)
      (changed : (changeSetting path r.key r.value : ExceptT _ (StateM FaultyTree) _).run.run
        ⟨root, r.faults⟩ = (.ok (), done))
      (rest : Succeed path requests done.tree after) : Succeed path (r :: requests) root after

/-- What is changed, in a row. -/
def changesOf (requests : List ChangeRequest) : List (String × String) :=
  requests.map fun r => (r.key, r.value)

/-- **Changes in a row** lead to the settings with all the changes. -/
theorem changeAll_of_succeed {requests : List ChangeRequest} (hroot : root.kind = .directory)
    (hload : Loads path root s) (h : Succeed path requests root after) :
    ∃ t, s.changeAll (changesOf requests) = .ok t ∧ Loads path after t := by
  induction h generalizing s with
  | nil root => exact ⟨s, rfl, hload⟩
  | cons hanswered hchanged _ ih =>
    obtain ⟨t, hchange, hloads, -, hkind⟩ := change_of_ok hroot hload hchanged
    obtain ⟨u, hchanges, hlast⟩ := ih hkind hloads
    refine ⟨u, ?_, hlast⟩
    rw [s.found_of_answered hanswered] at hchange
    rw [changesOf, List.map_cons, Settings.changeAll, List.foldlM_cons, hchange]
    exact hchanges

/-! ## Two changes -/

/-- **Two changes under different keys have the same effect in either order.** -/
theorem changeSettings_swap (hroot : root.kind = .directory) (hload : Loads path root s)
    (hne : key ≠ other)
    (h : (changeSettings path [(key, value), (other, text)]).run.run root = (.ok (), after)) :
    (changeSettings path [(other, text), (key, value)]).run.run root = (.ok (), after) := by
  obtain ⟨t, hchanges, -, hlast⟩ := changeSettings_eq_ok hroot hload h
  obtain ⟨hwritable, hsaves⟩ := hlast (by simp)
  obtain ⟨u, hfirst, hrest⟩ := bind_eq_ok.mp hchanges
  obtain ⟨_, hsecond, hpure⟩ := bind_eq_ok.mp hrest
  cases hpure
  obtain ⟨k, v, hk, hv, rfl⟩ := Settings.change_eq_ok_iff.mp hfirst
  obtain ⟨l, w, hl, hw, rfl⟩ := Settings.change_eq_ok_iff.mp hsecond
  have hkl : k ≠ l := by
    rintro rfl
    exact hne (hk.symm.trans hl)
  -- in the other order the settings between the changes can be written as well
  have hbetween : (s.put l w).isWritable = true := by
    rw [Settings.isWritable_put] at hwritable ⊢
    split_ifs at hwritable ⊢
    · exact hwritable
    · exact hload.isWritable
  obtain ⟨mid, hmid⟩ := hsaves.any (s.put l w)
  have hone : (changeSetting path other text : ExceptT _ (StateM FileTree) _).run.run root =
      (.ok (), mid) := (changeSetting_eq_ok_iff hload).mpr
    ⟨_, Settings.change_eq_ok_iff.mpr ⟨l, w, hl, hw, rfl⟩, hbetween, hmid⟩
  have htwo : (changeSetting path key value : ExceptT _ (StateM FileTree) _).run.run mid =
      (.ok (), after) := (changeSetting_eq_ok_iff (hmid.loads hroot hbetween)).mpr
    ⟨_, Settings.change_eq_ok_iff.mpr ⟨k, v, hk, hv, Settings.put_comm s hkl v w⟩, hwritable,
      (hmid.again_iff hroot).mpr hsaves⟩
  exact (run_bind_ok hone).trans ((run_bind_ok htwo).trans rfl)

/-! ## Changes -/

theorem lookup_swap {a b : ChangeRequest} (h : a.key ≠ b.key) (name : String) :
    (changesOf [a, b]).reverse.lookup name = (changesOf [b, a]).reverse.lookup name := by
  change [(b.key, b.value), (a.key, a.value)].lookup name =
    [(a.key, a.value), (b.key, b.value)].lookup name
  simp only [lookup_cons_ite]
  split_ifs with hb ha
  · exact absurd (ha.symm.trans hb) h
  · rfl
  · rfl
  · rfl

/-- **What changes do to the settings in a file**, whatever goes wrong. A change that succeeds puts
the value that its text stands for under its key, and a change that fails keeps all files, unless
the settings file could not be written to the end. After changes in a row each key has the value of
its last change, or what it had, and changes under different keys can be made in either order. -/
theorem one_setting_changes (hroot : root.kind = .directory) (hload : Loads path root s) :
    (∀ key value faults outcome done,
      (changeSetting path key value : ExceptT _ (StateM FaultyTree) _).run.run ⟨root, faults⟩ =
        (outcome, done) →
      match outcome with
      | .ok () => ∃ (k : SettingKey) (v : k.Value), k.name = key ∧ k.read value = .ok v ∧
          Loads path done.tree ((s.found faults).put k v) ∧ HasCurrentVersion path done.tree
      | .error e => ChangeLeft path key value (s.found faults) root e done.tree) ∧
    (∀ requests after, Succeed path requests root after →
      ∃ t, Loads path after t ∧ ∀ k : SettingKey,
        match (changesOf requests).reverse.lookup k.name with
        | some value => k.read value = .ok (t.get k)
        | none => t.get k = s.get k) ∧
    (∀ a b after after', a.key ≠ b.key → Succeed path [a, b] root after →
      Succeed path [b, a] root after' → ∃ t, Loads path after t ∧ Loads path after' t) ∧
    (∀ key value other text after, key ≠ other →
      (changeSettings path [(key, value), (other, text)]).run.run root = (.ok (), after) →
      (changeSettings path [(other, text), (key, value)]).run.run root = (.ok (), after)) := by
  have hrow : ∀ requests after, Succeed path requests root after →
      ∃ t, Loads path after t ∧ ∀ k : SettingKey,
        match (changesOf requests).reverse.lookup k.name with
        | some value => k.read value = .ok (t.get k)
        | none => t.get k = s.get k := by
    intro requests after h
    obtain ⟨t, hchanges, hloads⟩ := changeAll_of_succeed hroot hload h
    refine ⟨t, hloads, fun k => ?_⟩
    have hkey := Settings.get_of_changeAll hchanges k
    cases hfind : (changesOf requests).reverse.lookup k.name <;> simpa [hfind] using hkey
  refine ⟨fun key value faults outcome done h => ?_, hrow, fun a b after after' hne h h' => ?_,
    fun key value other text after hne h => changeSettings_swap hroot hload hne h⟩
  · cases outcome with
    | error e => exact changeLeft_of_error hload h
    | ok =>
      obtain ⟨t, hchange, hloads, hversion, -⟩ := change_of_ok hroot hload h
      obtain ⟨k, v, hk, hv, rfl⟩ := Settings.change_eq_ok_iff.mp hchange
      exact ⟨k, v, hk, hv, hloads, hversion⟩
  · obtain ⟨t, hloads, ht⟩ := hrow [a, b] after h
    obtain ⟨t', hloads', ht'⟩ := hrow [b, a] after' h'
    have heq : t = t' := Settings.ext_get fun k => by
      have hk := ht k
      have hk' := ht' k
      rw [lookup_swap hne] at hk
      cases hfind : (changesOf [b, a]).reverse.lookup k.name with
      | none =>
        rw [hfind] at hk hk'
        exact hk.trans hk'.symm
      | some value =>
        rw [hfind] at hk hk'
        exact Except.ok.inj (hk.symm.trans hk')
    exact ⟨t, hloads, heq ▸ hloads'⟩

/-- Settings with quotes, a backslash, a line feed, a control character and letters beyond ASCII. -/
def strangeSettings : Settings where
  dataFile := some "C:\\blog's\n\"\"\"datos\".json"
  searchFields := ["título", "\x01autor"]

/-- A directory with a settings file. -/
def settingsDirectory (s : Settings) : FileTree :=
  .directory [("config.toml", .file s.render.toUTF8)]

theorem holds_settingsDirectory (s : Settings) :
    (settingsDirectory s).Holds "config.toml" s.render.toUTF8 :=
  ⟨[], "config.toml", ⟨rfl, by decide⟩, rfl⟩

theorem loads_settingsDirectory (h : s.isWritable = true) :
    Loads "config.toml" (settingsDirectory s) s :=
  loads_of_holds (holds_settingsDirectory s) (Settings.ofText_render h)

theorem saves_settingsDirectory (s t : Settings) :
    Saves "config.toml" t (settingsDirectory s) (settingsDirectory t) :=
  ⟨settingsDirectory s, rfl, rfl⟩

theorem run_changeSetting_settingsDirectory (s t : Settings) (key value : String)
    (hs : s.isWritable = true) (ht : t.isWritable = true) (h : s.change key value = .ok t) :
    (changeSetting "config.toml" key value : ExceptT _ (StateM FaultyTree) _).run.run
      ⟨settingsDirectory s, []⟩ = (.ok (), ⟨settingsDirectory t, []⟩) := by
  have hchange := (changeSetting_eq_ok_iff (loads_settingsDirectory hs)).mpr
    ⟨t, h, ht, saves_settingsDirectory s t⟩
  rw [faultless_changeSetting, hchange]

/-- The settings after two changes. -/
def changedSettings : Settings :=
  { strangeSettings with pageSize := some 25, colors := some false }

/-! ## A full disk -/

def noSpace : FileError := .other "No space left on device (os error 28)"

/-- After some operations the disk is full when five bytes of a text have been written. -/
def fullDisk (operations : Nat) : List (Option Fault) :=
  List.replicate operations none ++ [some ⟨noSpace, some 5⟩]

/-- A directory with the beginning of a settings file. -/
def cutOffDirectory (s : Settings) : FileTree :=
  .directory [("config.toml", .file (s.render.toUTF8.extract 0 5))]

theorem read_cutOffDirectory :
    (cutOffDirectory { pageSize := some 25 }).read "config.toml" = .ok "versi" := by
  decide +kernel

theorem load_settingsDirectory (hs : s.isWritable = true) (faults : List (Option Fault)) :
    (loadSettings "config.toml" : ExceptT _ (StateM FaultyTree) _).run.run
      ⟨settingsDirectory s, none :: none :: faults⟩ = (.ok s, ⟨settingsDirectory s, faults⟩) := by
  have hfound : (FileSystem.pathExists "config.toml" : StateM FaultyTree _).run
      ⟨settingsDirectory s, none :: none :: faults⟩ =
        (true, ⟨settingsDirectory s, none :: faults⟩) := rfl
  have hread : (FileSystem.readText "config.toml" : StateM FaultyTree _).run
      ⟨settingsDirectory s, none :: faults⟩ = (.ok s.render, ⟨settingsDirectory s, faults⟩) :=
    congrArg (·, _) (read_of_holds (holds_settingsDirectory s))
  refine (run_lift_bind hfound).trans ((run_lift_bind hread).trans ?_)
  dsimp only
  rw [Settings.ofText_render hs]
  rfl

theorem run_changeSetting_full_disk (s t : Settings) (key value : String)
    (hs : s.isWritable = true) (ht : t.isWritable = true) (h : s.change key value = .ok t) :
    (changeSetting "config.toml" key value : ExceptT _ (StateM FaultyTree) _).run.run
      ⟨settingsDirectory s, fullDisk 2⟩ = (.error (.write noSpace), ⟨cutOffDirectory t, []⟩) := by
  have hmake : (makeSettingsDirectory "config.toml" : ExceptT _ (StateM FaultyTree) _).run.run
      ⟨settingsDirectory s, fullDisk 0⟩ = (.ok (), ⟨settingsDirectory s, fullDisk 0⟩) := rfl
  have hwrite : (FileSystem.writeText "config.toml" t.render : StateM FaultyTree _).run
      ⟨settingsDirectory s, fullDisk 0⟩ = (.error noSpace, ⟨cutOffDirectory t, []⟩) := rfl
  refine (run_bind_ok (load_settingsDirectory hs (fullDisk 0))).trans ?_
  rw [h]
  dsimp only
  rw [run_saveSettings, run_bind_ok hmake, writeSettings, if_pos ht]
  exact (run_lift_bind hwrite).trans rfl

theorem one_setting_changes_strange :
    let root := settingsDirectory strangeSettings
    Loads "config.toml" root strangeSettings ∧
    (∃ t, Succeed "config.toml" [⟨"listing.limit", "25", []⟩, ⟨"output.color", "OFF", []⟩] root
        (settingsDirectory changedSettings) ∧
      Loads "config.toml" (settingsDirectory changedSettings) t ∧
      t.dataFile = strangeSettings.dataFile ∧ t.searchFields = strangeSettings.searchFields) ∧
    ((changeSetting "config.toml" "listing.limit" "0" :
        ExceptT _ (StateM FaultyTree) _).run.run ⟨root, []⟩ =
      (.error (.change (.noPageSize "0")), ⟨root, []⟩) ∧
      ChangeLeft "config.toml" "listing.limit" "0" strangeSettings root
        (.change (.noPageSize "0")) root) ∧
    ((changeSetting "config.toml" "listing.limit" "25" :
        ExceptT _ (StateM FaultyTree) _).run.run ⟨root, fullDisk 2⟩ =
      (.error (.write noSpace),
        ⟨cutOffDirectory { strangeSettings with pageSize := some 25 }, []⟩) ∧
      ChangeLeft "config.toml" "listing.limit" "25" strangeSettings root (.write noSpace)
        (cutOffDirectory { strangeSettings with pageSize := some 25 })) := by
  intro root
  have hload : Loads "config.toml" root strangeSettings := loads_settingsDirectory (by decide)
  have hlimit : strangeSettings.change "listing.limit" "25" =
      .ok { strangeSettings with pageSize := some 25 } := by decide +kernel
  have hsucceed : Succeed "config.toml"
      [⟨"listing.limit", "25", []⟩, ⟨"output.color", "OFF", []⟩] root
      (settingsDirectory changedSettings) :=
    .cons rfl (run_changeSetting_settingsDirectory strangeSettings _ _ _ (by decide) (by decide)
      hlimit) <| .cons rfl (run_changeSetting_settingsDirectory _ changedSettings _ _ (by decide)
        (by decide) (by decide +kernel)) <| .nil _
  have hzero : strangeSettings.change "listing.limit" "0" = .error (.noPageSize "0") := by
    decide +kernel
  have hrefused : (changeSetting "config.toml" "listing.limit" "0" :
      ExceptT _ (StateM FaultyTree) _).run.run ⟨root, []⟩ =
        (.error (.change (.noPageSize "0")), ⟨root, []⟩) := by
    rw [faultless_changeSetting, run_changeSetting hload, hzero]
  have hfull := run_changeSetting_full_disk strangeSettings _ "listing.limit" "25" (by decide)
    (by decide) hlimit
  obtain ⟨hchange, hrow, -⟩ := one_setting_changes rfl hload
  obtain ⟨t, hloads, hkeys⟩ := hrow _ _ hsucceed
  exact ⟨hload, ⟨t, hsucceed, hloads, hkeys .dataFile, hkeys .searchFields⟩,
    ⟨hrefused, hchange _ _ _ _ _ hrefused⟩, hfull, hchange _ _ _ _ _ hfull⟩

/-- A directory with a settings file, and perhaps a new one beside it. -/
def besideSettings (s : Settings) (others : List (String × FileTree)) : FileTree :=
  .directory (("config.toml", .file s.render.toUTF8) :: others)

/-- A change that fails can leave the beginning of a text in place of the settings, and where the
path goes through a missing directory and back, a directory through which it finds a file. -/
theorem not_kept_by_failed_change :
    (Loads "config.toml" (settingsDirectory {}) {} ∧
      (changeSetting "config.toml" "listing.limit" "25" :
          ExceptT _ (StateM FaultyTree) _).run.run ⟨settingsDirectory {}, fullDisk 2⟩ =
        (.error (.write noSpace), ⟨cutOffDirectory { pageSize := some 25 }, []⟩) ∧
      (settingsDirectory {}).read "config.toml" = .ok ({} : Settings).render ∧
      (cutOffDirectory { pageSize := some 25 }).read "config.toml" = .ok "versi") ∧
    (Loads "new/../config.toml" (settingsDirectory { pageSize := some 7 }) {} ∧
      (changeSetting "new/../config.toml" "listing.limit" "9223372036854775808" :
          ExceptT _ (StateM FaultyTree) _).run.run ⟨settingsDirectory { pageSize := some 7 }, []⟩ =
        (.error .outOfRange,
          ⟨besideSettings { pageSize := some 7 } [("new", .emptyDirectory)], []⟩) ∧
      (settingsDirectory { pageSize := some 7 }).read "new/../config.toml" = .error .notFound ∧
      (besideSettings { pageSize := some 7 } [("new", .emptyDirectory)]).read
        "new/../config.toml" = .ok ({ pageSize := some 7 } : Settings).render) := by
  have hsize : ({} : Settings).change "listing.limit" "25" = .ok { pageSize := some 25 } := by
    decide +kernel
  have hlarge : ({} : Settings).change "listing.limit" "9223372036854775808" =
      .ok { pageSize := some 9223372036854775808 } := by decide +kernel
  have hload : Loads "new/../config.toml" (settingsDirectory { pageSize := some 7 }) {} := rfl
  have hmake : (makeSettingsDirectory "new/../config.toml" :
      ExceptT _ (StateM FileTree) _).run.run (settingsDirectory { pageSize := some 7 }) =
        (.ok (), besideSettings { pageSize := some 7 } [("new", .emptyDirectory)]) := rfl
  refine ⟨⟨loads_settingsDirectory rfl, run_changeSetting_full_disk {} _ _ _ rfl rfl hsize,
    read_of_holds (holds_settingsDirectory {}), read_cutOffDirectory⟩, hload, ?_, rfl, ?_⟩
  · rw [faultless_changeSetting, run_changeSetting hload, hlarge]
    dsimp only
    rw [run_saveSettings, run_bind_ok hmake, writeSettings, if_neg (by decide)]
    rfl
  · exact read_of_holds ⟨[], "config.toml", ⟨rfl, by decide⟩, rfl⟩

end Weblog
