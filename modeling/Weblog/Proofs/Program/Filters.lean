import Weblog.Proofs.Json.Ordered
import Weblog.Proofs.Program.ReadsOnly
import Weblog.Proofs.Query.Conjunction
/-!
# Filters one after the other

What a filter prints is an array that can be filtered again. Filtering with one query and then with
another one asks for what both queries ask for, so it prints what one filter with the joined query
prints.

* `FilterPrints`: whether filtering a text prints an output.
* `filterPrints_of_ofText`: what is printed for an array.
* `ofText_printed`: the printed items are read back.
* **`filters_in_a_row`**: filters compose as their queries do.
-/

namespace Weblog

open Files Query

/-! ## What a filter prints -/

/-- Whether filtering a text prints an output, wherever the text is read from. -/
def FilterPrints (c : Context) (fields : List String) (query text output : String) : Prop :=
  ∀ (input : StateM FileTree (Except FileError String)) (file : String) (root after : FileTree),
    (if isName "-" file then input else FileSystem.readText file).run root = (.ok text, after) →
    (runFilter c input file query fields : Run (StateM FileTree) String).run.run root =
      (.ok output, after)

theorem FilterPrints.unique {c : Context} {fields : List String} {query text : String}
    {output output' : String} (h : FilterPrints c fields query text output)
    (h' : FilterPrints c fields query text output') : output = output' := by
  have hrun := h (pure (.ok text)) "-" (.directory []) (.directory []) rfl
  rw [h' (pure (.ok text)) "-" (.directory []) (.directory []) rfl] at hrun
  cases hrun
  rfl

/-- What is printed for some items. -/
def printed (items : List Json) : String := (Json.array items).render ++ "\n"

variable {c : Context} {fields : List String} {text : String} {items : List Json}

/-- **A filter of an array prints the items that satisfy the query.** -/
theorem filterPrints_of_ofText (h : Json.ofText text = some (.array items)) (query : String) :
    FilterPrints c fields query text
      (printed ((parse query).filter (c.searchFields fields) items)) := by
  intro input file root after hread
  have hfilter : filterText (c.searchFields fields) query text =
      .ok ((parse query).filter (c.searchFields fields) items) := by
    rw [filterText, h, ← stream_eq_filter]
  have hsource : (orFail .read (ExceptT.mk (if isName "-" file then input
      else FileSystem.readText file)) : Run (StateM FileTree) String).run.run root =
        (.ok text, after) :=
    congrArg (fun r : Except FileError String × FileTree => (r.1.mapError Failure.read, r.2)) hread
  rw [runFilter, run_bind_ok hsource, hfilter]
  rfl

/-! ## Printed items -/

theorem integral_of_sublist {kept : List Json} (hkept : kept.Sublist items)
    (h : (Json.array items).Integral) : (Json.array kept).Integral := by
  cases h with
  | array hitems => exact .array fun item hitem => hitems item (hkept.mem hitem)

theorem ordered_of_sublist {kept : List Json} {depth : Nat} (hkept : kept.Sublist items)
    (h : (Json.array items).Ordered depth) : (Json.array kept).Ordered depth := by
  cases h with
  | array hitems => exact .array fun item hitem => hitems item (hkept.mem hitem)

/-- **Items of an array that was read are read back** from what is printed for them. -/
theorem ofText_printed (h : Json.ofText text = some (.array items))
    (hintegral : (Json.array items).Integral) {kept : List Json} (hkept : kept.Sublist items) :
    Json.ofText (printed kept) = some (.array kept) :=
  Json.ofText_render_line (integral_of_sublist hkept hintegral)
    (ordered_of_sublist hkept (Json.ordered_of_ofText h))

/-! ## Filters in a row -/

theorem filter_sublist (q : Query) (fields : List String) (items : List Json) :
    (q.filter fields items).Sublist items := List.filter_sublist

theorem filter_of_no_clauses {q : Query} (h : q.clauses = []) (fields : List String)
    (items : List Json) : q.filter fields items = items := by
  refine List.filter_eq_self.mpr fun item _ => ?_
  rw [holds, h]
  rfl

/-- **Filters compose as their queries do.** For the text of an array whose numbers are integers of
64 bits: what a filter prints is an array of some of the items, in order, and of all if the query
has no clauses; the same filter prints it again; and if the quotes of the query are balanced, a
filter with another query prints of it what a filter with the joined query prints of the text. -/
theorem filters_in_a_row (c : Context) (fields : List String) {text : String} {items : List Json}
    (h : Json.ofText text = some (.array items)) (hintegral : (Json.array items).Integral)
    (a : String) :
    ∃ first kept, FilterPrints c fields a text first ∧
      Json.ofText first = some (.array kept) ∧ kept.Sublist items ∧
      ((parse a).clauses = [] → kept = items) ∧
      FilterPrints c fields a first first ∧
      (Even (a.toList.count '"') → ∀ b, ∃ both, FilterPrints c fields (a ++ " " ++ b) text both ∧
        FilterPrints c fields b first both) := by
  have hkept := filter_sublist (parse a) (c.searchFields fields) items
  have hread := ofText_printed h hintegral hkept
  refine ⟨_, _, filterPrints_of_ofText h a, hread, hkept,
    fun hnone => filter_of_no_clauses hnone _ _, ?_, fun ha b => ?_⟩
  · have hagain : FilterPrints c fields a _ _ := filterPrints_of_ofText hread a
    rwa [filter_filter_self] at hagain
  · have hclauses : (parse (a ++ " " ++ b)).clauses = (parse a).clauses ++ (parse b).clauses :=
      clauses_parse_append ha (show Text.isBlank ' ' = true by decide) b
    refine ⟨_, filterPrints_of_ofText h _, ?_⟩
    rw [filter_append_clauses hclauses]
    exact filterPrints_of_ofText hread b

/-- An object and something that is none. -/
def sampleItems : List Json :=
  [.object [("n", .number (.int 2)), ("titulo", .string "In \"Lean\"")], .null]

def sampleArray : String :=
  "[\n  \x7b\n    \"n\": 2,\n    \"titulo\": \"In \\\"Lean\\\"\"\n  \x7d,\n  null\n]\n"

theorem integral_sampleItems : (Json.array sampleItems).Integral := by
  refine .array (List.forall_mem_cons.mpr ⟨.object ?_, List.forall_mem_singleton.mpr .null⟩)
  exact List.forall_mem_cons.mpr
    ⟨.int ⟨by decide, by decide⟩, List.forall_mem_singleton.mpr (.string _)⟩

theorem ofText_sampleArray : Json.ofText sampleArray = some (.array sampleItems) := by
  have hordered : (Json.array sampleItems).Ordered Json.depthLimit := by
    have hascending : Json.Ascending [("n", .number (.int 2)), ("titulo", .string "In \"Lean\"")] :=
      List.pairwise_pair.mpr (by decide)
    refine .array (List.forall_mem_cons.mpr
      ⟨.object hascending ?_, List.forall_mem_singleton.mpr .null⟩)
    exact List.forall_mem_cons.mpr ⟨.number _, List.forall_mem_singleton.mpr (.string _)⟩
  have htext : printed sampleItems = sampleArray := by decide +kernel
  exact htext ▸ Json.ofText_render_line integral_sampleItems hordered

/-- No options, no settings and no variables. -/
def bareContext : Context where
  environment := {}
  settings := {}
  json := false
  quiet := false
  noColor := false
  dataFile := none

theorem filters_in_a_row_phrase :
    Json.ofText sampleArray = some (.array sampleItems) ∧ (Json.array sampleItems).Integral ∧
      Even ("\"in\"".toList.count '"') ∧
      ∃ first kept both, FilterPrints bareContext ["titulo"] "\"in\"" sampleArray first ∧
        Json.ofText first = some (.array kept) ∧ kept.Sublist sampleItems ∧
        FilterPrints bareContext ["titulo"] "\"in\"" first first ∧
        FilterPrints bareContext ["titulo"] ("\"in\"" ++ " " ++ "n:<5") sampleArray both ∧
        FilterPrints bareContext ["titulo"] "n:<5" first both := by
  have heven : Even ("\"in\"".toList.count '"') := by decide
  obtain ⟨first, kept, hfirst, hread, hkept, -, hagain, hboth⟩ :=
    filters_in_a_row bareContext ["titulo"] ofText_sampleArray integral_sampleItems "\"in\""
  obtain ⟨both, hjoined, hsecond⟩ := hboth heven "n:<5"
  exact ⟨ofText_sampleArray, integral_sampleItems, heven, first, kept, both, hfirst, hread, hkept,
    hagain, hjoined, hsecond⟩

end Weblog
