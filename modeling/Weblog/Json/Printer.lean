import Weblog.Json.Value
import Weblog.Json.Quote
/-!
# JSON text

* `Json.render`: a value with one item or member per line, each level indented by two blanks.
-/

namespace Weblog.Json

def newLine (depth : Nat) : List Char :=
  '\n' :: List.replicate (2 * depth) ' '

/-- The name of a member and what separates it from its value. -/
def memberName (name : String) : List Char :=
  quote name.toList ++ [':', ' ']

mutual

/-- The text of a value that begins on a line with the given indentation. -/
def renderAt (depth : Nat) : Json → List Char
  | .null => "null".toList
  | .bool true => "true".toList
  | .bool false => "false".toList
  | .number n => n.text
  | .string s => quote s.toList
  | .array [] => "[]".toList
  | .array (item :: items) =>
    '[' :: newLine (depth + 1) ++ renderAt (depth + 1) item ++ renderItems (depth + 1) items ++
      newLine depth ++ [']']
  | .object [] => ['\x7b', '\x7d']
  | .object ((name, value) :: members) =>
    '\x7b' :: newLine (depth + 1) ++ memberName name ++ renderAt (depth + 1) value ++
      renderMembers (depth + 1) members ++ newLine depth ++ ['\x7d']

def renderItems (depth : Nat) : List Json → List Char
  | [] => []
  | item :: items => ',' :: newLine depth ++ renderAt depth item ++ renderItems depth items

def renderMembers (depth : Nat) : List (String × Json) → List Char
  | [] => []
  | (name, value) :: members =>
    ',' :: newLine depth ++ memberName name ++ renderAt depth value ++ renderMembers depth members

end

/-- A value as text, on several lines. -/
def render (value : Json) : String :=
  String.ofList (renderAt 0 value)

end Weblog.Json
