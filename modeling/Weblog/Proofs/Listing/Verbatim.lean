import Weblog.Proofs.Listing.SimpleFilters
/-!
# Verbatim terms

Search takes the lower-case forms of a term and of a text, each on its own, and looks for the one in
the other. The form of a term does not always stand in the form of a text with the term in it: a
capital sigma at the end of the term is a final sigma there, but not in the text if the word goes
on. Such a term is not found where it is written.

* `FoundInFields`, `FoundInPosts`: whether a term is found wherever a searched field, or the title
  or the body of a post, contains it as it is written.
* **`found_verbatim_iff`**: the terms that are always found are those that settle which of their
  sigmas end a word.
* `found_of_not_mem`: terms without a capital sigma are always found.
* `not_found_open_sigma`: a term that is not found where it is written.
-/

namespace Weblog.Listing

open Query Text

/-- Whether a term is found in every record that has it, as it is written, in a searched field. Only
fields that are truthy are searched. -/
def FoundInFields (t : String) : Prop :=
  ∀ (α : Type) [Record α] (fields : List String) (record : α),
    (∃ name ∈ fields, (Record.field record name).isTruthy = true ∧
      t.toList <:+: (Record.field record name).text.toList) →
    (Clause.text t).holds fields record = true

/-- Whether a listing that searches for a term shows every post that has it, as it is written, in
title or body. -/
def FoundInPosts (t : String) : Prop :=
  ∀ (posts : List Post), ∀ p ∈ posts, t.toList <:+: p.title.toList ∨ t.toList <:+: p.body.toList →
    p ∈ ({ search := some t } : PostOptions).sequence posts

theorem isSettled_iff_lower {t : String} :
    IsSettled t.toList ↔
      ∀ s : String, t.toList <:+: s.toList → (lower t).toList <:+: (lower s).toList := by
  rw [isSettled_iff]
  constructor
  · intro h s hs
    rw [toList_lower, toList_lower]
    exact h _ hs
  · intro h s hs
    have hlower := h (String.ofList s) (by rwa [String.toList_ofList])
    rwa [toList_lower, toList_lower, String.toList_ofList] at hlower

theorem mem_sequence_search_iff {t : String} {posts : List Post} {p : Post} :
    p ∈ ({ search := some t } : PostOptions).sequence posts ↔
      p ∈ posts ∧ ((lower t).toList <:+: (lower p.title).toList ∨
        (lower t).toList <:+: (lower p.body).toList) := by
  have hnone : ({} : PostFilter).Admits p := ⟨nofun, nofun, nofun, nofun, nofun, nofun⟩
  rw [PostOptions.mem_sequence_iff, PostFilter.admits_search_iff {} t p, and_iff_right hnone,
    PostFilter.titleOrBodyContains_iff]

theorem foundInFields_iff {t : String} : FoundInFields t ↔ IsSettled t.toList := by
  rw [isSettled_iff_lower]
  constructor
  · intro hfound s hs
    by_cases hne : t = ""
    · have hnil : (lower t).toList = [] := toList_lower_eq_nil_iff.mpr hne
      rw [hnil]
      exact List.nil_infix
    · let p : Post := { BlogData.samplePost with title := s }
      have hs' : s ≠ "" := by
        rintro rfl
        exact hne (String.toList_eq_nil_iff.mp (List.infix_nil.mp hs))
      have htruthy : (Value.string s).isTruthy = true := by simpa [Value.isTruthy] using hs'
      have htext : t.toList <:+: (Value.string s).text.toList := (text_string s).symm ▸ hs
      have hholds := hfound Post ["titulo"] p ⟨_, List.mem_singleton_self _, htruthy, htext⟩
      obtain ⟨name, hname, hsearched⟩ := searchFinds_iff.mp hholds
      have hfield : Record.field p "titulo" = .string s := rfl
      rw [List.mem_singleton.mp hname, hfield] at hsearched
      exact (searched_string_iff hne s).mp hsearched
  · rintro h α _ fields record ⟨name, hname, htruthy, hwithin⟩
    exact searchFinds_iff.mpr ⟨name, hname, htruthy, h _ hwithin⟩

theorem foundInPosts_iff {t : String} : FoundInPosts t ↔ IsSettled t.toList := by
  rw [isSettled_iff_lower]
  constructor
  · intro hfound s hs
    let p : Post := { BlogData.samplePost with title := s, body := s }
    have hshown := hfound [p] p (List.mem_singleton_self p) (.inl hs)
    exact or_self_iff.mp (mem_sequence_search_iff.mp hshown).2
  · intro h posts p hp hwritten
    exact mem_sequence_search_iff.mpr ⟨hp, hwritten.imp (h _) (h _)⟩

/-- **Terms without a capital sigma are always found** where they are written. -/
theorem found_of_not_mem {t : String} (h : capitalSigma ∉ t.toList) :
    FoundInFields t ∧ FoundInPosts t :=
  have hsettled : IsSettled t.toList := settles_of_not_mem h []
  ⟨foundInFields_iff.mpr hsettled, foundInPosts_iff.mpr hsettled⟩

/-- **The terms that are always found** where they are written, in fields and in posts, are those
that settle which of their sigmas end a word. -/
theorem found_verbatim_iff (t : String) :
    (FoundInFields t ↔ IsSettled t.toList) ∧ (FoundInPosts t ↔ IsSettled t.toList) :=
  ⟨foundInFields_iff, foundInPosts_iff⟩

/-- **A term that is not found where it is written**: its sigma ends a word, and that of the text
does not. -/
theorem not_found_open_sigma :
    let record : Json := .object [("titulo", .string "ΟΣΟ")]
    let p : Post := { BlogData.samplePost with title := "ΟΣΟ" }
    "ΟΣ" ≠ "" ∧ (Record.field record "titulo").isTruthy = true ∧
      "ΟΣ".toList <:+: (Record.field record "titulo").text.toList ∧
      (Clause.text "ΟΣ").holds ["titulo"] record = false ∧
      "ΟΣ".toList <:+: p.title.toList ∧
      ({ search := some "ΟΣ" } : PostOptions).sequence [p] = [] := by
  decide +kernel

end Weblog.Listing
