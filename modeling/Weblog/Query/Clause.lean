import Weblog.Query.Token
/-!
# Clauses and queries

A query is a list of clauses, all of which have to hold. A clause compares a field with a literal,
or asks for a text in any of the searched fields.

* `Clause.ofToken`: the clause of a token. The first colon ends the name of the field, unless the
  token begins with it.
* `Query.parse`: **the query of a text**; every text is one.
* `Query.render`: a query as a text. A part with blanks is put between quotes.
-/

namespace Weblog

/-! ## Operators -/

/-- How a field is compared with a literal. -/
inductive Operator
  | equal
  | greater
  | atLeast
  | less
  | atMost
  deriving DecidableEq

namespace Operator

/-- The operators in the order of the table that the answers show. -/
def all : List Operator := [equal, greater, atLeast, less, atMost]

/-- What a query writes between the colon and the literal. -/
def symbol : Operator → String
  | equal => ""
  | greater => ">"
  | atLeast => ">="
  | less => "<"
  | atMost => "<="

/-- The name of an operator: its symbol, or an equals sign. -/
def name : Operator → String
  | equal => "="
  | op => op.symbol

/-- The operator at the beginning of a text, the longest one, and what follows it. -/
def split : List Char → Operator × List Char
  | '>' :: '=' :: rest => (atLeast, rest)
  | '>' :: rest => (greater, rest)
  | '<' :: '=' :: rest => (atMost, rest)
  | '<' :: rest => (less, rest)
  | rest => (equal, rest)

end Operator

/-! ## Clauses -/

/-- One condition of a query. -/
inductive Clause
  /-- The field with the name compares with the literal. -/
  | field (name : String) (operator : Operator) (literal : String)
  /-- Some searched field contains the term. -/
  | text (term : String)
  deriving DecidableEq

/-- The clauses of a query in order. -/
structure Query where
  clauses : List Clause
  deriving DecidableEq

namespace Clause

def ofChars (token : List Char) : Clause :=
  match token.takeWhile (· != ':'), token.dropWhile (· != ':') with
  | c :: name, _ :: rest =>
    let (operator, literal) := Operator.split rest
    .field (String.ofList (c :: name)) operator (String.ofList literal)
  | _, _ => .text (String.ofList token)

/-- The clause of a token. -/
def ofToken (token : String) : Clause := ofChars token.toList

/-- A part of a clause, between quotes if it contains blanks. -/
def quoteIfBlank (part : List Char) : List Char :=
  if part.any Text.isBlank then '"' :: part ++ ['"'] else part

def chars : Clause → List Char
  | field name operator literal =>
    quoteIfBlank name.toList ++ ':' :: operator.symbol.toList ++ quoteIfBlank literal.toList
  | text term => quoteIfBlank term.toList

def render (c : Clause) : String := String.ofList c.chars

end Clause

/-! ## Queries -/

namespace Query

/-- The query that a text stands for. -/
def parse (text : String) : Query :=
  ⟨(tokens text).map fun token => .ofToken token.text⟩

/-- The clauses in order with a blank between two of them. -/
def chars (q : Query) : List Char :=
  [' '].intercalate (q.clauses.map Clause.chars)

def render (q : Query) : String := String.ofList q.chars

/-- The fields that a query compares, with operators and literals. -/
def comparisons (q : Query) : List (String × Operator × String) :=
  q.clauses.filterMap fun
    | .field name operator literal => some (name, operator, literal)
    | .text _ => none

/-- The words and phrases of a query. -/
def terms (q : Query) : List String :=
  q.clauses.filterMap fun
    | .field .. => none
    | .text term => some term

end Query

end Weblog
