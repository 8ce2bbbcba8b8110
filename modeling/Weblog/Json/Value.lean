import Weblog.Number.Decimal
/-!
# JSON values

* `Json`: a JSON value. The members of an object are in the order in which they are written.
* `Json.get?`: the member of an object with a given name.
* `Json.putMember`: members in ascending order of their names, each name once.
-/

namespace Weblog

open Number

/-- A number as JSON writes it: an integer, or a binary64 number. -/
inductive Json.Numeral
  | int (i : Int)
  | real (x : Binary64)
  deriving DecidableEq

/-- JSON values. Members keep their order. -/
inductive Json
  | null
  | bool (b : Bool)
  | number (n : Json.Numeral)
  | string (s : String)
  | array (items : List Json)
  | object (members : List (String × Json))
  deriving Inhabited

namespace Json

/-- How a number that is no integer is written: positional from `1e-5` to `1e15`, with a point
also when it is whole, and otherwise with an exponent that has a sign. -/
def realLayout : Layout where
  firstPlain := -5
  lastPlain := 15
  keepsPoint := true
  plusSign := true
  tie := .even

/-- A number as a float. -/
def Numeral.toBinary64 : Numeral → Binary64
  | int i => .ofInt i
  | real x => x

/-- An integer in decimal digits. -/
def intText (i : Int) : List Char :=
  (if i < 0 then ['-'] else []) ++ Nat.toDigits 10 i.natAbs

/-- The text of a numeral. What is not finite has none and is written as null. -/
def Numeral.text : Numeral → List Char
  | int i => intText i
  | real .nan => "null".toList
  | real (.signed negative rank) =>
    if rank.val = infinityRank then "null".toList
    else realLayout.signedText negative rank.val

def ofNat (n : Nat) : Json := .number (.int n)

def ofStrings (texts : List String) : Json := .array (texts.map .string)

/-- A value as JSON, null without one. -/
def ofOption {α : Type} (f : α → Json) : Option α → Json
  | none => .null
  | some a => f a

/-- The member of an object with a given name. -/
def get? (name : String) : Json → Option Json
  | .object members => members.lookup name
  | _ => none

/-! ## Sorted members -/

/-- Members in ascending order of their names with one more; a member of the same name is
replaced. -/
def putMember (name : String) (value : Json) : List (String × Json) → List (String × Json)
  | [] => [(name, value)]
  | (n, v) :: rest =>
    if name < n then (name, value) :: (n, v) :: rest
    else if n < name then (n, v) :: putMember name value rest
    else (name, value) :: rest

/-- The object of some members in ascending order; of members with one name the last counts. -/
def sortedObject (members : List (String × Json)) : Json :=
  .object (members.foldl (fun sorted m => putMember m.1 m.2 sorted) [])

end Json

end Weblog
