import Mathlib.Tactic.Common
import Weblog.Proofs.Config.Updates
/-!
# Which settings can be saved

A settings file holds integers of 64 bits with a sign, and a page size may be larger. Such a page
size passes as a value, and then it cannot be saved; every other value can.

* `IsOversized`: the one value that cannot be saved; `isWritable_iff_of_change`: where settings
  become such that no file can hold them.
* `CanSave`: whether a settings file can be made and written.
* **`saved_unless_oversized`**: which changes succeed; `not_saved_oversized`: one that does not.
-/

namespace Weblog

open Files FileTree

variable {path key value : String} {root after : FileTree} {s t : Settings}

/-- Whether a change sets a page size that is no integer of 64 bits with a sign. -/
def IsOversized (key value : String) : Prop :=
  key = "listing.limit" ∧ ∃ n : UInt64, Number.readCount value = some n ∧ 2 ^ 63 ≤ n.toNat

theorem readCount_of_readPageSize {n : UInt64} (h : readPageSize value = .ok n) :
    Number.readCount value = some n := by
  unfold readPageSize at h
  split at h
  · rename_i m hm
    split_ifs at h
    cases h
    exact hm
  · cases h

theorem isWritable_pageSize (n : UInt64) :
    ({ pageSize := some n } : Settings).isWritable = true ↔ n.toNat < 2 ^ 63 := by
  rw [Settings.isWritable, Option.all_some, decide_eq_true_iff, Toml.lastInteger]
  omega

/-- **Which changes lead to settings that a file can hold.** -/
theorem isWritable_iff_of_change (hs : s.isWritable = true) (h : s.change key value = .ok t) :
    t.isWritable = true ↔ ¬ IsOversized key value := by
  obtain ⟨k, v, rfl, hread, rfl⟩ := Settings.change_eq_ok_iff.mp h
  rw [Settings.isWritable_put]
  by_cases hk : k = .pageSize
  · subst hk
    cases hsize : readPageSize value with
    | error e => rw [SettingKey.read, hsize] at hread; cases hread
    | ok n =>
      rw [SettingKey.read, hsize] at hread
      cases hread
      have hcount := readCount_of_readPageSize hsize
      rw [if_pos rfl]
      refine (isWritable_pageSize n).trans ?_
      simp [IsOversized, SettingKey.name, hcount]
  · rw [if_neg hk]
    refine iff_of_true hs fun hover => hk (SettingKey.name_injective hover.1)

/-- Whether a settings file can be made and written: its directory can be made, and then some
content can be written. -/
def CanSave (path : String) (root : FileTree) : Prop :=
  ∃ made content written,
    (makeSettingsDirectory path : ExceptT _ (StateM FileTree) _).run.run root = (.ok (), made) ∧
      made.write path content = .ok written

theorem CanSave.saves (h : CanSave path root) (t : Settings) :
    ∃ after, Saves path t root after := by
  obtain ⟨made, content, written, hmade, hwrite⟩ := h
  obtain ⟨after, hafter⟩ := write_any hwrite t.render.toUTF8
  exact ⟨after, made, hmade, hafter⟩

theorem run_saveSettings_outOfRange (h : CanSave path root) (ht : t.isWritable = false) :
    ∃ after, (saveSettings path t : ExceptT _ (StateM FileTree) _).run.run root =
      (.error .outOfRange, after) ∧ KeepsFiles path root after := by
  obtain ⟨made, content, written, hmade, -⟩ := h
  refine ⟨made, ?_, keepsFiles_of_changesOnly (changesOnly_makeSettingsDirectory hmade)⟩
  rw [run_saveSettings, run_bind_ok hmade, run_writeSettings, if_neg (by simp [ht])]

/-- **Which changes succeed** where a settings file can be written: all whose value is one of the
setting, but for a page size from `2 ^ 63` on. With such a page size all files stay as they are. -/
theorem saved_unless_oversized (hroot : root.kind = .directory) (hload : Loads path root s)
    (hchange : s.change key value = .ok t) (hpath : CanSave path root) :
    (¬ IsOversized key value → ∃ after,
      (changeSetting path key value : ExceptT _ (StateM FileTree) _).run.run root =
        (.ok (), after) ∧ Loads path after t) ∧
    (IsOversized key value → ∃ after,
      (changeSetting path key value : ExceptT _ (StateM FileTree) _).run.run root =
        (.error .outOfRange, after) ∧ KeepsFiles path root after) := by
  have hiff := isWritable_iff_of_change hload.isWritable hchange
  constructor
  · intro hsmall
    have hwritable := hiff.mpr hsmall
    obtain ⟨after, hsaves⟩ := hpath.saves t
    exact ⟨after, (changeSetting_eq_ok_iff hload).mpr ⟨t, hchange, hwritable, hsaves⟩,
      hsaves.loads hroot hwritable⟩
  · intro hover
    have hnot : t.isWritable = false := by
      rw [← Bool.not_eq_true]
      exact fun hwritable => hiff.mp hwritable hover
    obtain ⟨after, hsave, hkeeps⟩ := run_saveSettings_outOfRange hpath hnot
    have hrun : (changeSetting path key value : ExceptT _ (StateM FileTree) _).run.run root =
        (.error .outOfRange, after) := by
      rw [run_changeSetting hload, hchange]
      exact hsave
    exact ⟨after, hrun, hkeeps⟩

theorem loads_emptyDirectory : Loads "config.toml" emptyDirectory {} := rfl

theorem canSave_emptyDirectory : CanSave "config.toml" emptyDirectory :=
  ⟨emptyDirectory, .empty, _, rfl, rfl⟩

theorem saved_unless_oversized_small : ∃ after,
    (changeSetting "config.toml" "listing.limit" "9223372036854775807" :
      ExceptT _ (StateM FileTree) _).run.run emptyDirectory = (.ok (), after) ∧
    Loads "config.toml" after { pageSize := some 9223372036854775807 } := by
  refine (saved_unless_oversized rfl loads_emptyDirectory (by decide +kernel)
    canSave_emptyDirectory).1 ?_
  rintro ⟨-, n, hn, hlarge⟩
  have hcount : Number.readCount "9223372036854775807" = some 9223372036854775807 := by
    decide +kernel
  obtain rfl := Option.some.inj (hcount.symm.trans hn)
  exact absurd hlarge (by decide)

/-- **A page size that passes as a value and cannot be saved.** -/
theorem not_saved_oversized :
    Loads "config.toml" emptyDirectory {} ∧
    ({} : Settings).change "listing.limit" "9223372036854775808" =
      .ok { pageSize := some 9223372036854775808 } ∧
    CanSave "config.toml" emptyDirectory ∧
    (changeSetting "config.toml" "listing.limit" "9223372036854775808" :
      ExceptT _ (StateM FileTree) _).run.run emptyDirectory =
        (.error .outOfRange, emptyDirectory) := by
  have hchange : ({} : Settings).change "listing.limit" "9223372036854775808" =
      .ok { pageSize := some 9223372036854775808 } := by decide +kernel
  have hmade : (makeSettingsDirectory "config.toml" :
      ExceptT _ (StateM FileTree) _).run.run emptyDirectory = (.ok (), emptyDirectory) := rfl
  refine ⟨loads_emptyDirectory, hchange, canSave_emptyDirectory, ?_⟩
  rw [run_changeSetting loads_emptyDirectory, hchange]
  dsimp only
  rw [run_saveSettings, run_bind_ok hmade, run_writeSettings, if_neg (by decide)]

end Weblog
