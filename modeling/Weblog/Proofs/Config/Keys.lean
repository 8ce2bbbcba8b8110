import Mathlib.Tactic.Common
import Weblog.Config.Change
import Weblog.Proofs.Outcomes
/-!
# Settings one by one

A setting has a key, and the settings are known when it is known what each key has. Changing one of
them is putting a value under its key.

* `SettingKey.Value`, `Settings.get`, `Settings.put`: what the settings have under a key.
* `Settings.get_put_self`, `Settings.get_put_of_ne`, `Settings.put_comm`: **one key does not concern
  another one**; `Settings.ext_get`: the keys determine the settings.
* `SettingKey.read`: the value that a text stands for; **`Settings.change_eq_ok_iff`**: what a
  change does.
-/

namespace Weblog

namespace SettingKey

/-- What the settings have under a key. -/
def Value : SettingKey → Type
  | dataFile | order => Option String
  | colors => Option Bool
  | pageSize => Option UInt64
  | searchFields => List String

/-- The value of a setting that a text stands for. -/
def read : (k : SettingKey) → String → Except ChangeError k.Value
  | dataFile, value => .ok (some value)
  | colors, value => (readFlag value).map some
  | pageSize, value => (readPageSize value).map some
  | order, value => (readOrderName value).map some
  | searchFields, value => .ok (readNames value)

theorem name_injective {k l : SettingKey} (h : k.name = l.name) : k = l := by
  revert h
  cases k <;> cases l <;> decide

theorem ofName?_eq_some_iff {name : String} {k : SettingKey} :
    ofName? name = some k ↔ k.name = name := by
  constructor
  · exact fun h => by simpa using List.find?_some h
  · rintro rfl
    cases k <;> rfl

end SettingKey

namespace Settings

variable {s s' : Settings} {k l : SettingKey} {key value : String}

/-- What is set under a key. -/
def get (s : Settings) : (k : SettingKey) → k.Value
  | .dataFile => s.dataFile
  | .colors => s.colors
  | .pageSize => s.pageSize
  | .order => s.order
  | .searchFields => s.searchFields

/-- The settings with another value under a key. -/
def put (s : Settings) : (k : SettingKey) → k.Value → Settings
  | .dataFile, v => { s with dataFile := v }
  | .colors, v => { s with colors := v }
  | .pageSize, v => { s with pageSize := v }
  | .order, v => { s with order := v }
  | .searchFields, v => { s with searchFields := v }

@[simp]
theorem get_put_self (s : Settings) (k : SettingKey) (v : k.Value) : (s.put k v).get k = v := by
  cases k <;> rfl

/-- **Another key has what it had.** -/
theorem get_put_of_ne (s : Settings) (v : k.Value) (h : l ≠ k) : (s.put k v).get l = s.get l := by
  cases k <;> cases l <;> first | rfl | exact absurd rfl h

/-- **The keys determine the settings.** -/
theorem ext_get (h : ∀ k, s.get k = s'.get k) : s = s' := by
  obtain ⟨dataFile, colors, pageSize, order, searchFields⟩ := s
  obtain ⟨dataFile', colors', pageSize', order', searchFields'⟩ := s'
  obtain rfl : dataFile = dataFile' := h .dataFile
  obtain rfl : colors = colors' := h .colors
  obtain rfl : pageSize = pageSize' := h .pageSize
  obtain rfl : order = order' := h .order
  obtain rfl : searchFields = searchFields' := h .searchFields
  rfl

/-- **Values under different keys are put in any order.** -/
theorem put_comm (s : Settings) (h : k ≠ l) (v : k.Value) (w : l.Value) :
    (s.put k v).put l w = (s.put l w).put k v := by
  refine ext_get fun m => ?_
  by_cases hl : m = l
  · subst hl
    rw [get_put_self, get_put_of_ne _ _ (Ne.symm h), get_put_self]
  · rw [get_put_of_ne _ _ hl]
    by_cases hk : m = k
    · subst hk
      rw [get_put_self, get_put_self]
    · rw [get_put_of_ne _ _ hk, get_put_of_ne _ _ hk, get_put_of_ne _ _ hl]

theorem set_eq (s : Settings) (value : String) (k : SettingKey) :
    s.set value k = (k.read value).map (s.put k) := by
  cases k with
  | dataFile | searchFields => rfl
  | colors => exact bind_pure_eq_map (readFlag value) some (s.put .colors)
  | pageSize => exact bind_pure_eq_map (readPageSize value) some (s.put .pageSize)
  | order => exact bind_pure_eq_map (readOrderName value) some (s.put .order)

/-- **What a change does**: it puts the value that the text stands for under the key with the
name. -/
theorem change_eq_ok_iff :
    s.change key value = .ok s' ↔
      ∃ (k : SettingKey) (v : k.Value), k.name = key ∧ k.read value = .ok v ∧ s' = s.put k v := by
  unfold change
  constructor
  · intro h
    split at h
    · rename_i k hk
      rw [set_eq] at h
      cases hread : k.read value with
      | error e => rw [hread] at h; cases h
      | ok v =>
        rw [hread] at h
        cases h
        exact ⟨k, v, SettingKey.ofName?_eq_some_iff.mp hk, hread, rfl⟩
    · cases h
  · rintro ⟨k, v, hk, hread, rfl⟩
    rw [SettingKey.ofName?_eq_some_iff.mpr hk]
    dsimp only
    rw [set_eq, hread]
    rfl

end Settings

end Weblog
