import Weblog.Query.Comparison
import Weblog.Text.Search
/-!
# Matching records

* `Clause.holds`: whether a record satisfies a clause.
* `Query.holds`: a record satisfies a query if it satisfies all clauses.
* `Query.filter`: **the records that satisfy a query**, in order.
* `Query.next?`, `Query.stream`: the same records, searched for one after the other.
-/

namespace Weblog

open Text

variable {α : Type} [Record α]

/-- Whether the text of some field contains a term, in any letter case. Only values that are truthy
are searched. -/
def Query.searchFinds (fields : List String) (record : α) (term : String) : Bool :=
  fields.any fun name =>
    let value := Record.field record name
    value.isTruthy && occursIn (lower term).toList (lower value.text).toList

/-- Whether a record satisfies a clause, texts being searched in the given fields. -/
def Clause.holds (fields : List String) (record : α) : Clause → Bool
  | .field name operator literal => Query.compare (Record.field record name) literal operator
  | .text term => Query.searchFinds fields record term

/-- Whether a record satisfies all clauses of a query. -/
def Query.holds (fields : List String) (q : Query) (record : α) : Bool :=
  q.clauses.all fun clause => clause.holds fields record

/-- The records that satisfy a query, in order. -/
def Query.filter (fields : List String) (q : Query) (records : List α) : List α :=
  records.filter fun record => q.holds fields record

/-- The first record that satisfies a query, and the records after it. -/
def Query.next? (fields : List String) (q : Query) : List α → Option (α × List α)
  | [] => none
  | record :: rest => if q.holds fields record then some (record, rest) else q.next? fields rest

theorem Query.length_next?_lt {fields : List String} {q : Query} {records rest : List α}
    {record : α} (h : q.next? fields records = some (record, rest)) :
    rest.length < records.length := by
  induction records with
  | nil => simp [Query.next?] at h
  | cons r rs ih =>
    simp only [Query.next?] at h
    split at h
    · simp only [Option.some.injEq, Prod.mk.injEq] at h
      simp [h.2]
    · exact Nat.lt_succ_of_lt (ih h)

/-- The records that satisfy a query, each searched for after the one before it. -/
def Query.stream (fields : List String) (q : Query) (records : List α) : List α :=
  match _h : q.next? fields records with
  | none => []
  | some (record, rest) => record :: q.stream fields rest
termination_by records.length
decreasing_by exact Query.length_next?_lt _h

end Weblog
