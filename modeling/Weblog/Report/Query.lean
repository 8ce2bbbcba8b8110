import Weblog.Json.Value
import Weblog.Query.Clause
import Weblog.Report.Style
/-!
# Query reports

* `queryText`: the tokens and the clauses of a query.
* `queryJson`: the same as JSON, and the query in its normal form.
-/

namespace Weblog.Report

open Query Text

def tokenLine (t : Token) : String :=
  "  " ++ padLeft 4 (toString t.position) ++ "  " ++ t.text

def clauseLine : Clause → String
  | .field name operator literal => "  field  " ++ name ++ " " ++ operator.name ++ " " ++ literal
  | .text term => "  text   " ++ term

/-- The tokens and the clauses of a query. -/
def queryText (colors : Bool) (tokens : List Token) (q : Query) : String :=
  if q.clauses.isEmpty then block ["Empty query (matches everything)."]
  else block ([paint colors .bold "Tokens:"] ++ tokens.map tokenLine ++
    [paint colors .bold "\nClauses:"] ++ q.clauses.map clauseLine)

def tokenJson (t : Token) : Json :=
  .object [("text", .string t.text), ("position", .ofNat t.position)]

def clauseJson : Clause → Json
  | .field name operator literal =>
    .object [("kind", .string "field"), ("field", .string name),
      ("operator", .string operator.name), ("literal", .string literal)]
  | .text term => .object [("kind", .string "text"), ("term", .string term)]

/-- The tokens, the clauses and the normal form of a query. -/
def queryJson (tokens : List Token) (q : Query) : Json :=
  .object [
    ("tokens", .array (tokens.map tokenJson)),
    ("clauses", .array (q.clauses.map clauseJson)),
    ("normalized", .string q.render)]

end Weblog.Report
