import Mathlib.Data.List.Basic
import Mathlib.Tactic.Common
import Weblog.Query.Match
/-!
# Records that queries cannot tell apart

A query sees a record through the fields that it names. Two records that agree in these fields are
kept together or not at all.

* `Record.SameFields`: two records with the same fields, up to one.
* `Query.namedFields`: the fields that a query looks at.
* `Query.keptPlaces`: the places of the records that a query keeps, and
  `Query.filter_eq_at_keptPlaces`: the records at these places are the filtered ones.
* `Query.holds_congr`: **records with the same fields satisfy the same queries**.
* `Query.keptPlaces_forms`: two forms of the same records are kept at the same places.
-/

namespace Weblog

variable {α β : Type} [Record α] [Record β]

/-- Whether two records have the same fields, those with the given names, up to one that is
hidden. -/
structure Record.SameFields (names : List String) (hidden : String) (a : α) (b : β) : Prop where
  alike : ∀ name, name ≠ hidden → field a name = field b name
  absent : ∀ name, name ∉ names → name ≠ hidden → field a name = .absent ∧ field b name = .absent

namespace Query

open Record

variable {fields : List String} {q : Query} {names : List String} {hidden : String}

/-- The fields that a query looks at: those that are searched, and those that it compares. -/
def namedFields (fields : List String) (q : Query) : List String :=
  fields ++ q.comparisons.map Prod.fst

theorem mem_namedFields_of_compared {name literal : String} {operator : Operator}
    (h : .field name operator literal ∈ q.clauses) : name ∈ q.namedFields fields := by
  have hcompared : (name, operator, literal) ∈ q.comparisons :=
    List.mem_filterMap.mpr ⟨_, h, rfl⟩
  exact List.mem_append_right fields (List.mem_map_of_mem hcompared)

/-! ## One record -/

theorem holds_clause_congr {a : α} {b : β} (h : SameFields names hidden a b)
    (hq : hidden ∉ q.namedFields fields) {c : Clause} (hc : c ∈ q.clauses) :
    c.holds fields a = c.holds fields b := by
  cases c with
  | field name operator literal =>
    have hname : name ≠ hidden := by
      rintro rfl
      exact hq (mem_namedFields_of_compared hc)
    rw [Clause.holds, Clause.holds, h.alike name hname]
  | text term =>
    rw [Clause.holds, Clause.holds, searchFinds, searchFinds, Bool.eq_iff_iff, List.any_eq_true,
      List.any_eq_true]
    refine exists_congr fun name => and_congr_right fun hsearched => ?_
    have hname : name ≠ hidden := by
      rintro rfl
      exact hq (List.mem_append_left _ hsearched)
    rw [h.alike name hname]

/-- **Records with the same fields satisfy the same queries**, those that name the hidden field
apart. -/
theorem holds_congr {a : α} {b : β} (h : SameFields names hidden a b)
    (hq : hidden ∉ q.namedFields fields) : q.holds fields a = q.holds fields b := by
  rw [holds, holds, Bool.eq_iff_iff, List.all_eq_true, List.all_eq_true]
  refine forall₂_congr fun c hc => ?_
  rw [holds_clause_congr h hq hc]

/-! ## Many records -/

/-- The places of the records that a query keeps, counted from zero. -/
def keptPlaces (fields : List String) (q : Query) (records : List α) : List Nat :=
  records.findIdxs (q.holds fields)

theorem filter_eq_at_keptPlaces (records : List α) :
    q.filter fields records = (q.keptPlaces fields records).filterMap (records[·]?) := by
  unfold filter keptPlaces
  induction records with
  | nil => rfl
  | cons r rs ih =>
    have hnext : (rs.findIdxs (q.holds fields) 1).filterMap ((r :: rs)[·]?) =
        rs.filter (q.holds fields) := by
      rw [List.findIdxs_start, List.filterMap_map, ih]
      rfl
    rw [List.findIdxs_cons, List.filter_cons]
    split_ifs
    · exact congrArg (r :: ·) hnext.symm
    · exact hnext.symm

theorem keptPlaces_forms {γ : Type} {record : γ → α} {form : γ → β} {items : List γ}
    (h : ∀ item ∈ items, SameFields names hidden (record item) (form item))
    (hq : hidden ∉ q.namedFields fields) :
    q.keptPlaces fields (items.map form) = q.keptPlaces fields (items.map record) := by
  unfold keptPlaces
  rw [List.findIdxs_map, List.findIdxs_map]
  generalize 0 = first
  induction items generalizing first with
  | nil => rfl
  | cons item items ih =>
    have hitem := holds_congr (h item List.mem_cons_self) hq
    have hitems := fun first => ih (fun i hi => h i (List.mem_cons_of_mem item hi)) first
    simp only [List.findIdxs_cons, Function.comp_apply, ← hitem, hitems]

theorem keptPlaces_map {form : α → β} (records : List α)
    (h : ∀ a ∈ records, SameFields names hidden a (form a))
    (hq : hidden ∉ q.namedFields fields) :
    q.keptPlaces fields (records.map form) = q.keptPlaces fields records := by
  have hforms : q.keptPlaces fields (records.map form) =
      q.keptPlaces fields (records.map fun a => a) := keptPlaces_forms h hq
  rwa [List.map_id'] at hforms

end Query

end Weblog
