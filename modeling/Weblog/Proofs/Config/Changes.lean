import Mathlib.Tactic.Common
import Weblog.Proofs.Blog.Stored
import Weblog.Proofs.Config.Keys
import Weblog.Proofs.Config.Saving
import Weblog.Proofs.Files.Again
/-!
# Saving and changing settings

Settings that have been loaded can be written, and what has been written is loaded again. Saving
settings twice is saving the last ones, so what a row of changes does to the files is what saving
its result does.

* `Loads`, `Loads.isWritable`: settings that are loaded.
* `Saves`, `Saves.loads`: settings that are saved are loaded; **`Saves.again_iff`**: when settings
  are saved again the last ones count.
* `changeSetting_eq_ok_iff`: one change; **`changeSettings_eq_ok`**: changes in a row.
* **`Settings.get_of_changeAll`**: each key has the value of its last change.
-/

namespace Weblog

open Files FileTree

variable {path key value : String} {root made after mid : FileTree} {s s' t : Settings}

/-! ## Loading -/

/-- Whether some settings are loaded. -/
def Loads (path : String) (root : FileTree) (s : Settings) : Prop :=
  (loadSettings path : ExceptT _ (StateM FileTree) _).run.run root = (.ok s, root)

theorem run_loadSettings (path : String) (root : FileTree) :
    (loadSettings path : ExceptT _ (StateM FileTree) _).run.run root =
      (if (root.find path).toBool then
        match root.read path with
        | .error e => .error (.read e)
        | .ok text => (Settings.ofText text).elim (.error .parse) .ok
      else .ok {}, root) := by
  have hexists : (FileSystem.pathExists path : StateM FileTree Bool).run root =
      ((root.find path).toBool, root) := rfl
  have hread : (FileSystem.readText path : StateM FileTree _).run root =
      (root.read path, root) := rfl
  refine (run_lift_bind hexists).trans ?_
  cases (root.find path).toBool with
  | false => rfl
  | true =>
    refine (run_lift_bind hread).trans ?_
    cases root.read path with
    | error e => rfl
    | ok text =>
      dsimp only
      cases Settings.ofText text <;> rfl

theorem Loads.isWritable (h : Loads path root s) : s.isWritable = true :=
  isWritable_of_loadSettings h

theorem loads_of_holds {text : String} (h : root.Holds path text.toUTF8)
    (htext : Settings.ofText text = some s) : Loads path root s := by
  have hfound : (root.find path).toBool = true := by
    obtain ⟨parent, name, hleads, hkind⟩ := h
    rw [find_of_leads hleads hkind]
    rfl
  rw [Loads, run_loadSettings, hfound, if_pos rfl, read_of_holds h]
  simp only [htext]
  rfl

/-- **Settings that have been written are loaded.** -/
theorem loads_of_write (hmade : made.kind = .directory)
    (hwrite : made.write path s.render.toUTF8 = .ok after) (hwritable : s.isWritable = true) :
    Loads path after s :=
  loads_of_holds (holds_write hmade hwrite) (Settings.ofText_render hwritable)

/-! ## Saving -/

/-- Whether saving some settings turns one tree into another one. -/
def Saves (path : String) (s : Settings) (root after : FileTree) : Prop :=
  ∃ made,
    (makeSettingsDirectory path : ExceptT _ (StateM FileTree) _).run.run root = (.ok (), made) ∧
      made.write path s.render.toUTF8 = .ok after

theorem run_makeSettingsDirectory_again (hroot : root.kind = .directory)
    (h : (makeSettingsDirectory path : ExceptT _ (StateM FileTree) _).run.run root = (.ok (), made))
    (hmore : ∀ names, made.kind? names = some .directory → after.kind? names = some .directory) :
    (makeSettingsDirectory path : ExceptT _ (StateM FileTree) _).run.run after =
      (.ok (), after) := by
  unfold makeSettingsDirectory at h ⊢
  cases hparent : parent? path with
  | none => rfl
  | some up =>
    rw [hparent] at h
    dsimp only at h ⊢
    have hdirs : (createDirs up : StateM FileTree _).run root = (.ok (), made) := by
      rcases hrun : (createDirs up : StateM FileTree _).run root with ⟨outcome, between⟩
      have hrest := (run_lift_bind hrun).symm.trans h
      cases outcome with
      | error e => cases congrArg Prod.fst hrest
      | ok => exact congrArg (Prod.mk _) (congrArg Prod.snd hrest)
    refine (run_lift_bind (run_createDirs_of_directory fun dir hdir => ?_)).trans rfl
    cases hpaths : ancestors up with
    | nil => simp [hpaths] at hdir
    | cons first parents =>
      obtain rfl : first = dir := by simpa [hpaths] using hdir
      rw [createDirs, hpaths] at hdirs
      exact (hasDirectory_of_createDirsOf hroot hdirs).mono hmore

namespace Saves

variable (hroot : root.kind = .directory) (h : Saves path s root mid)

include hroot h

theorem kind_made : ∃ made, made.kind = .directory ∧
    (makeSettingsDirectory path : ExceptT _ (StateM FileTree) _).run.run root = (.ok (), made) ∧
    made.write path s.render.toUTF8 = .ok mid := by
  obtain ⟨made, hmade, hwrite⟩ := h
  exact ⟨made, (changesOnly_makeSettingsDirectory hmade).kind hroot, hmade, hwrite⟩

theorem kind : mid.kind = .directory := by
  obtain ⟨made, hkind, hmade, hwrite⟩ := h.kind_made hroot
  obtain ⟨names, -, -, hwrites⟩ := changesOnly_write [] hkind hwrite
  exact hwrites.kind hkind

/-- **Settings that have been saved are loaded.** -/
theorem loads (hwritable : s.isWritable = true) : Loads path mid s := by
  obtain ⟨made, hkind, -, hwrite⟩ := h.kind_made hroot
  exact loads_of_write hkind hwrite hwritable

omit hroot in
theorem any (t : Settings) : ∃ after, Saves path t root after := by
  obtain ⟨made, hmade, hwrite⟩ := h
  obtain ⟨after, hafter⟩ := write_any hwrite t.render.toUTF8
  exact ⟨after, made, hmade, hafter⟩

/-- **When settings are saved again the last ones count.** -/
theorem again_iff : Saves path t mid after ↔ Saves path t root after := by
  obtain ⟨made, hkind, hmade, hwrite⟩ := h.kind_made hroot
  obtain ⟨names, -, -, hwrites⟩ := changesOnly_write [] hkind hwrite
  have hagain := run_makeSettingsDirectory_again hroot hmade hwrites.directories
  have hsame := write_again hkind hwrite t.render.toUTF8
  constructor
  · rintro ⟨between, hbetween, hafter⟩
    obtain rfl : mid = between := congrArg Prod.snd (hagain.symm.trans hbetween)
    exact ⟨made, hmade, hsame ▸ hafter⟩
  · rintro ⟨between, hbetween, hafter⟩
    obtain rfl : made = between := congrArg Prod.snd (hmade.symm.trans hbetween)
    exact ⟨mid, hagain, hsame.trans hafter⟩

end Saves

theorem run_writeSettings (path : String) (s : Settings) (root : FileTree) :
    (writeSettings path s : ExceptT _ (StateM FileTree) _).run.run root =
      if s.isWritable then
        match root.write path s.render.toUTF8 with
        | .ok after => (.ok (), after)
        | .error e => (.error (.write e), root)
      else (.error .outOfRange, root) := by
  unfold writeSettings
  split_ifs
  · have hrun := Store.run_writeText path s.render root
    cases hwrite : root.write path s.render.toUTF8 with
    | ok after =>
      rw [hwrite] at hrun
      exact (run_lift_bind hrun).trans rfl
    | error e =>
      rw [hwrite] at hrun
      exact (run_lift_bind hrun).trans rfl
  · rfl

/-- **How saving settings succeeds.** -/
theorem saveSettings_eq_ok_iff :
    (saveSettings path s : ExceptT _ (StateM FileTree) _).run.run root = (.ok (), after) ↔
      s.isWritable = true ∧ Saves path s root after := by
  rw [run_saveSettings]
  constructor
  · intro h
    rcases run_bind_cases h with ⟨e, -, herror⟩ | ⟨_, made, hmade, hwrite⟩
    · cases herror
    · rw [run_writeSettings] at hwrite
      split_ifs at hwrite with hwritable
      · split at hwrite
        · rename_i written hwritten
          obtain rfl : written = after := congrArg Prod.snd hwrite
          exact ⟨hwritable, made, hmade, hwritten⟩
        · cases congrArg Prod.fst hwrite
      · cases congrArg Prod.fst hwrite
  · rintro ⟨hwritable, made, hmade, hwritten⟩
    rw [run_bind_ok hmade, run_writeSettings, if_pos hwritable, hwritten]

/-! ## Changing -/

/-- Changes settings of the file one after another, each with its key and its value as text. -/
def changeSettings (path : String) (changes : List (String × String)) :
    ExceptT SettingsError (StateM FileTree) Unit :=
  changes.forM fun change => changeSetting path change.1 change.2

/-- Changes settings one after another. -/
def Settings.changeAll (s : Settings) (changes : List (String × String)) :
    Except ChangeError Settings :=
  changes.foldlM (fun s change => s.change change.1 change.2) s

variable {changes : List (String × String)}

theorem run_changeSetting (h : Loads path root s) :
    (changeSetting path key value : ExceptT _ (StateM FileTree) _).run.run root =
      match s.change key value with
      | .error e => (.error (.change e), root)
      | .ok t => (saveSettings path t : ExceptT _ (StateM FileTree) _).run.run root := by
  refine (run_bind_ok h).trans ?_
  cases s.change key value <;> rfl

/-- **How changing a setting succeeds.** -/
theorem changeSetting_eq_ok_iff (h : Loads path root s) :
    (changeSetting path key value : ExceptT _ (StateM FileTree) _).run.run root = (.ok (), after) ↔
      ∃ t, s.change key value = .ok t ∧ t.isWritable = true ∧ Saves path t root after := by
  rw [run_changeSetting h]
  cases s.change key value with
  | error e => exact ⟨fun h => (nomatch congrArg Prod.fst h), fun ⟨_, h, _⟩ => nomatch h⟩
  | ok t => simp [saveSettings_eq_ok_iff]

/-- **How changing settings one after another succeeds**: the files end as if the last settings
alone had been saved. -/
theorem changeSettings_eq_ok (hroot : root.kind = .directory) (h : Loads path root s)
    (hrun : (changeSettings path changes).run.run root = (.ok (), after)) :
    ∃ t, s.changeAll changes = .ok t ∧ Loads path after t ∧
      (changes ≠ [] → t.isWritable = true ∧ Saves path t root after) := by
  induction changes generalizing root s with
  | nil =>
    obtain rfl : root = after := congrArg Prod.snd hrun
    exact ⟨s, rfl, h, fun hne => absurd rfl hne⟩
  | cons change changes ih =>
    rcases run_bind_cases hrun with ⟨e, -, herror⟩ | ⟨_, mid, hfirst, hrest⟩
    · cases herror
    obtain ⟨t, hchange, hwritable, hsaves⟩ := (changeSetting_eq_ok_iff h).mp hfirst
    obtain ⟨u, hchanges, hloads, hlast⟩ :=
      ih (hsaves.kind hroot) (hsaves.loads hroot hwritable) hrest
    refine ⟨u, ?_, hloads, fun _ => ?_⟩
    · rw [Settings.changeAll, List.foldlM_cons, hchange]
      exact hchanges
    · cases changes with
      | nil =>
        obtain rfl : t = u := Except.ok.inj hchanges
        obtain rfl : mid = after := congrArg Prod.snd hrest
        exact ⟨hwritable, hsaves⟩
      | cons next changes =>
        obtain ⟨hu, hsaved⟩ := hlast (by simp)
        exact ⟨hu, (hsaves.again_iff hroot).mp hsaved⟩

/-! ## Keys -/

namespace Settings

/-- **Each key has the value of its last change**, or what it had. -/
theorem get_of_changeAll (h : s.changeAll changes = .ok t) (k : SettingKey) :
    match changes.reverse.lookup k.name with
    | none => t.get k = s.get k
    | some value => k.read value = .ok (t.get k) := by
  induction changes generalizing s with
  | nil =>
    obtain rfl : s = t := Except.ok.inj h
    rfl
  | cons change changes ih =>
    obtain ⟨key, value⟩ := change
    obtain ⟨u, hchange, hchanges⟩ := bind_eq_ok.mp (by rwa [changeAll, List.foldlM_cons] at h)
    have hlast := ih hchanges
    obtain ⟨l, v, hl, hread, rfl⟩ := change_eq_ok_iff.mp hchange
    rw [List.reverse_cons, List.lookup_append]
    cases hfind : changes.reverse.lookup k.name with
    | some value => simpa [hfind] using hlast
    | none =>
      rw [hfind] at hlast
      rw [Option.none_or, lookup_cons_ite]
      by_cases hk : k = l
      · subst hk
        rw [if_pos hl]
        dsimp only at hlast ⊢
        rw [hread, hlast, get_put_self]
      · rw [if_neg fun hname => hk (SettingKey.name_injective (hname.trans hl.symm))]
        exact hlast.trans (get_put_of_ne s v hk)

theorem isWritable_put (k : SettingKey) (v : k.Value) :
    (s.put k v).isWritable = if k = .pageSize then (({} : Settings).put k v).isWritable
      else s.isWritable := by
  cases k <;> rfl

end Settings

end Weblog
