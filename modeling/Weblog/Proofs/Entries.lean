import Mathlib.Tactic.Common
import Weblog.Entries
/-!
# Looking up entries

* `lookup_eq_none_of_not_mem`, `mem_of_lookup`: entries and their names.
* `lookup_setEntry`: **a set entry is found**, and all other names are as they were.
* `setEntry_of_lookup_eq_none`, `setEntry_append`, `setEntry_setEntry`: where an entry is set.
* `lookup_eraseEntry`: an erased entry is not found, and all other names are as they were.
-/

namespace Weblog

variable {α : Type}

theorem lookup_cons_ite (other name : String) (value : α) (entries : List (String × α)) :
    ((name, value) :: entries).lookup other =
      if other = name then some value else entries.lookup other := by
  rw [List.lookup_cons]
  by_cases h : other = name
  · rw [if_pos h, beq_iff_eq.mpr h]
  · rw [if_neg h, beq_eq_false_iff_ne.mpr h]

theorem lookup_eq_none_of_not_mem {name : String} {entries : List (String × α)}
    (h : name ∉ entries.map (·.1)) : entries.lookup name = none := by
  rw [List.lookup_eq_none_iff]
  intro entry hentry
  rw [bne_iff_ne]
  rintro rfl
  exact h (List.mem_map_of_mem hentry)

theorem mem_of_lookup {name : String} {a : α} {entries : List (String × α)}
    (h : entries.lookup name = some a) : (name, a) ∈ entries := by
  obtain ⟨before, after, rfl, -⟩ := List.lookup_eq_some_iff.mp h
  exact List.mem_append_right before List.mem_cons_self

/-! ## Setting entries -/

theorem mem_setEntry {name : String} {a : α} {entries : List (String × α)} {entry : String × α}
    (h : entry ∈ setEntry name a entries) : entry = (name, a) ∨ entry ∈ entries := by
  induction entries with
  | nil => exact .inl (List.mem_singleton.mp h)
  | cons first entries ih =>
    rw [setEntry] at h
    split_ifs at h
    · rcases List.mem_cons.mp h with heq | hmem
      · exact .inl heq
      · exact .inr (List.mem_cons_of_mem _ hmem)
    · rcases List.mem_cons.mp h with rfl | hmem
      · exact .inr List.mem_cons_self
      · exact (ih hmem).imp id (List.mem_cons_of_mem _)

theorem setEntry_append {name : String} {a : α} {entries more : List (String × α)}
    (h : entries.lookup name = none) :
    setEntry name a (entries ++ more) = entries ++ setEntry name a more := by
  induction entries with
  | nil => rfl
  | cons entry entries ih =>
    obtain ⟨n, b⟩ := entry
    rw [lookup_cons_ite] at h
    split_ifs at h with hn
    rw [List.cons_append, setEntry, if_neg (Ne.symm hn), ih h, List.cons_append]

theorem setEntry_of_lookup_eq_none {name : String} {a : α} {entries : List (String × α)}
    (h : entries.lookup name = none) : setEntry name a entries = entries ++ [(name, a)] := by
  have hlast : setEntry name a (entries ++ []) = entries ++ setEntry name a [] := setEntry_append h
  rwa [List.append_nil, setEntry] at hlast

theorem setEntry_setEntry (name : String) (a b : α) (entries : List (String × α)) :
    setEntry name b (setEntry name a entries) = setEntry name b entries := by
  induction entries with
  | nil => simp [setEntry]
  | cons entry entries ih =>
    obtain ⟨n, c⟩ := entry
    by_cases hn : n = name
    · simp [setEntry, hn]
    · simp [setEntry, hn, ih]

theorem lookup_setEntry (name other : String) (value : α) (entries : List (String × α)) :
    (setEntry name value entries).lookup other =
      if other = name then some value else entries.lookup other := by
  induction entries with
  | nil => rw [setEntry, lookup_cons_ite]
  | cons entry entries ih =>
    obtain ⟨n, v⟩ := entry
    by_cases hn : n = name
    · subst hn
      rw [setEntry, if_pos rfl, lookup_cons_ite, lookup_cons_ite]
      split_ifs <;> rfl
    · rw [setEntry, if_neg hn, lookup_cons_ite, lookup_cons_ite, ih]
      by_cases hother : other = n
      · rw [if_pos hother, if_neg (by rwa [hother]), if_pos hother]
      · rw [if_neg hother, if_neg hother]

theorem lookup_eraseEntry (name other : String) (entries : List (String × α)) :
    (eraseEntry name entries).lookup other =
      if other = name then none else entries.lookup other := by
  unfold eraseEntry
  induction entries with
  | nil => simp
  | cons entry entries ih =>
    obtain ⟨n, v⟩ := entry
    by_cases hn : n = name
    · subst hn
      rw [List.filter_cons_of_neg (by simp), ih, lookup_cons_ite]
      split_ifs <;> rfl
    · rw [List.filter_cons_of_pos (by simpa using hn), lookup_cons_ite, lookup_cons_ite, ih]
      by_cases hother : other = n
      · rw [if_pos hother, if_neg (by rwa [hother]), if_pos hother]
      · rw [if_neg hother, if_neg hother]

end Weblog
