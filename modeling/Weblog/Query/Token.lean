import Weblog.Text.Blank
/-!
# Query tokens

A query is split at its blanks, except between quotes. Quotes are dropped from a token, and a quote
that is never closed runs to the end.

* `Token`: the text of a token and the place of its first character, counted in bytes of UTF-8.
* `tokens`: **the tokens of a query**. A run that holds nothing but quotes gives none.
-/

namespace Weblog.Query

open Text

/-- A token and where it begins, in bytes. -/
structure Token where
  text : String
  position : Nat
  deriving DecidableEq

/-- A token that is being read: where it began, its text so far, and whether a quote is open. -/
structure Run where
  position : Nat
  text : List Char
  quoted : Bool

namespace Run

def start (position : Nat) : Run := ⟨position, [], false⟩

/-- Takes one more character; a quote opens or closes. -/
def push (run : Run) (c : Char) : Run :=
  if c = '"' then { run with quoted := !run.quoted } else { run with text := run.text ++ [c] }

/-- The token of a run, if it holds a character. -/
def tokens (run : Run) : List Token :=
  if run.text.isEmpty then [] else [⟨String.ofList run.text, run.position⟩]

end Run

/-- The tokens of a text that begins at a position, inside a run or between two runs. -/
def tokensFrom (position : Nat) (run : Option Run) : List Char → List Token
  | [] =>
    match run with
    | none => []
    | some run => run.tokens
  | c :: cs =>
    let next := position + c.utf8Size
    match run with
    | none =>
      if isBlank c then tokensFrom next none cs
      else tokensFrom next (some ((Run.start position).push c)) cs
    | some run =>
      if isBlank c && !run.quoted then run.tokens ++ tokensFrom next none cs
      else tokensFrom next (some (run.push c)) cs

/-- The tokens of a query. -/
def tokens (query : String) : List Token :=
  tokensFrom 0 none query.toList

end Weblog.Query
