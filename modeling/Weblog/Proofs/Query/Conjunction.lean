import Mathlib.Data.List.Basic
import Weblog.Blog.Data
import Weblog.Proofs.Query.Words
import Weblog.Query.Match
/-!
# Queries as conjunctions

A query with balanced quotes, a blank and another query ask for what both queries ask for.

* `Query.clauses_parse_append`: **the clauses of two queries with a blank between them**.
* `Query.filter_append_clauses`: clauses one after the other filter one after the other.
* `Query.stream_eq_filter`: searching for one record after the other finds all that match.
* **`Query.filter_blank_cut`**: filters of joined queries.
-/

namespace Weblog

namespace Query

open Text

variable {α : Type} [Record α] {fields : List String}

/-! ## Clauses of joined queries -/

theorem clauses_parse_append {a : String} (ha : Even (a.toList.count '"')) {w : Char}
    (hw : isBlank w = true) (b : String) :
    (parse (a ++ String.singleton w ++ b)).clauses = (parse a).clauses ++ (parse b).clauses := by
  have htext : (a ++ String.singleton w ++ b).toList = a.toList ++ w :: b.toList := by simp
  rw [clauses_parse, clauses_parse, clauses_parse, htext, words_append_blank ha hw,
    List.map_append]

/-! ## Filters -/

theorem holds_append_clauses {q q₁ q₂ : Query} (h : q.clauses = q₁.clauses ++ q₂.clauses)
    (record : α) : q.holds fields record = (q₁.holds fields record && q₂.holds fields record) := by
  rw [holds, h, List.all_append]
  rfl

theorem filter_append_clauses {q q₁ q₂ : Query} (h : q.clauses = q₁.clauses ++ q₂.clauses)
    (records : List α) : q.filter fields records = q₂.filter fields (q₁.filter fields records) := by
  rw [filter, filter, filter, List.filter_filter]
  exact List.filter_congr fun record _ => by rw [holds_append_clauses h, Bool.and_comm]

theorem mem_filter {q : Query} {records : List α} {record : α} :
    record ∈ q.filter fields records ↔ record ∈ records ∧ q.holds fields record = true :=
  List.mem_filter

theorem filter_filter_self (q : Query) (records : List α) :
    q.filter fields (q.filter fields records) = q.filter fields records := by
  rw [filter, filter, List.filter_filter]
  simp only [Bool.and_self]

theorem filter_comm (q₁ q₂ : Query) (records : List α) :
    q₂.filter fields (q₁.filter fields records) = q₁.filter fields (q₂.filter fields records) :=
  List.filter_comm _ _ _

open scoped Classical in
theorem filter_filter_eq_inter (q₁ q₂ : Query) (records : List α) :
    q₂.filter fields (q₁.filter fields records) = records.filter fun record =>
      record ∈ q₁.filter fields records ∧ record ∈ q₂.filter fields records := by
  have hboth : q₂.filter fields (q₁.filter fields records) =
      records.filter fun record => q₂.holds fields record && q₁.holds fields record :=
    List.filter_filter
  rw [hboth]
  refine List.filter_congr fun record hr => ?_
  rw [Bool.eq_iff_iff, Bool.and_eq_true, decide_eq_true_iff, mem_filter, mem_filter]
  exact ⟨fun ⟨h₂, h₁⟩ => ⟨⟨hr, h₁⟩, hr, h₂⟩, fun ⟨⟨_, h₁⟩, _, h₂⟩ => ⟨h₂, h₁⟩⟩

/-! ## One record after the other -/

theorem filter_eq_next? (q : Query) (records : List α) :
    q.filter fields records = match q.next? fields records with
      | none => []
      | some (record, rest) => record :: q.filter fields rest := by
  induction records with
  | nil => rfl
  | cons r rs ih =>
    rw [filter, List.filter_cons, next?]
    split_ifs with h
    · rfl
    · exact ih

/-- **Searching for one record after the other finds all that match.** -/
theorem stream_eq_filter (q : Query) (records : List α) :
    q.stream fields records = q.filter fields records := by
  fun_induction stream fields q records with
  | case1 records h => rw [filter_eq_next?, h]
  | case2 records record rest h ih => rw [filter_eq_next? q records, h, ih]

/-! ## Joined queries -/

open scoped Classical in
/-- **A query with balanced quotes, a blank and another query keep what both queries keep**, in
the order of the records and one after the other. Balanced queries may change places, a query may
be repeated, and searching for one record after the other gives the same list. -/
theorem filter_blank_cut (fields : List String) (records : List α) {a : String}
    (ha : Even (a.toList.count '"')) {w : Char} (hw : isBlank w = true) (b : String) :
    (parse (a ++ String.singleton w ++ b)).filter fields records =
        (parse b).filter fields ((parse a).filter fields records) ∧
      ((parse (a ++ String.singleton w ++ b)).filter fields records = records.filter fun record =>
        record ∈ (parse a).filter fields records ∧ record ∈ (parse b).filter fields records) ∧
      (Even (b.toList.count '"') →
        (parse (b ++ String.singleton w ++ a)).filter fields records =
          (parse (a ++ String.singleton w ++ b)).filter fields records) ∧
      (parse (a ++ String.singleton w ++ a)).filter fields records =
        (parse a).filter fields records ∧
      (∀ s : String, (parse s).filter fields ((parse s).filter fields records) =
        (parse s).filter fields records) ∧
      ∀ s : String, (parse s).stream fields records = (parse s).filter fields records := by
  have hab : (parse (a ++ String.singleton w ++ b)).filter fields records =
      (parse b).filter fields ((parse a).filter fields records) :=
    filter_append_clauses (clauses_parse_append ha hw b) records
  refine ⟨hab, ?_, fun hb => ?_, ?_, fun s => filter_filter_self _ _,
    fun s => stream_eq_filter _ _⟩
  · rw [hab, filter_filter_eq_inter]
  · rw [hab, filter_append_clauses (clauses_parse_append hb hw a), filter_comm]
  · rw [filter_append_clauses (clauses_parse_append ha hw a), filter_filter_self]

theorem filter_blank_cut_phrase :
    Even ("\"al blog\"".toList.count '"') ∧ isBlank ' ' = true ∧
      Even ("autor:Admin".toList.count '"') ∧
      (parse ("\"al blog\"" ++ String.singleton ' ' ++ "autor:Admin")).filter Post.searchFields
          [BlogData.samplePost] =
        (parse "autor:Admin").filter Post.searchFields
          ((parse "\"al blog\"").filter Post.searchFields [BlogData.samplePost]) ∧
      (parse ("autor:Admin" ++ String.singleton ' ' ++ "\"al blog\"")).filter Post.searchFields
          [BlogData.samplePost] =
        (parse ("\"al blog\"" ++ String.singleton ' ' ++ "autor:Admin")).filter Post.searchFields
          [BlogData.samplePost] :=
  have h := filter_blank_cut Post.searchFields [BlogData.samplePost]
    (show Even ("\"al blog\"".toList.count '"') by decide) (show isBlank ' ' = true by decide)
    "autor:Admin"
  ⟨by decide, by decide, by decide, h.1, h.2.2.1 (by decide)⟩

end Query

end Weblog
