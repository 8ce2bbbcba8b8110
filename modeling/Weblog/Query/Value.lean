import Weblog.Json.Value
/-!
# Field values

A query sees a record through the values of its fields.

* `Value`: a field's value; `absent` is the value of a field that the record does not have.
* `Value.text`: the string form of a value.
* `Value.isTruthy`: whether a value takes part in text search.
* `Record`: types whose fields have values.
-/

namespace Weblog

open Number

/-- What a field of a record can have. -/
inductive Value
  | absent
  | null
  | bool (b : Bool)
  | number (x : Binary64)
  | string (s : String)
  | sequence (items : List Value)
  deriving Inhabited

namespace Value

/-- How a number is written: positional from `1e-6` to below `1e21`, and otherwise with a signed
exponent. -/
def numberLayout : Layout where
  firstPlain := -6
  lastPlain := 20
  keepsPoint := false
  plusSign := true
  tie := .up

/-- The string form of a number. The two zeros are written alike. -/
def numberText : Binary64 → List Char
  | .nan => "NaN".toList
  | .signed negative rank =>
    if rank.val = 0 then ['0']
    else if rank.val = infinityRank then (if negative then "-Infinity" else "Infinity").toList
    else numberLayout.signedText negative rank.val

def isAbsent : Value → Bool
  | absent => true
  | _ => false

/-- Absent and null values, false, zero, not-a-number and the empty string are not searched. -/
def isTruthy : Value → Bool
  | absent | null => false
  | bool b => b
  | number x => !x.isZero && x != .nan
  | string s => !s.isEmpty
  | sequence _ => true

mutual

/-- The string form of a value, null being written as `nullText`. -/
def charsWith (nullText : List Char) : Value → List Char
  | absent => []
  | null => nullText
  | bool true => "true".toList
  | bool false => "false".toList
  | number x => numberText x
  | string s => s.toList
  | sequence [] => []
  | sequence (item :: items) => charsWith [] item ++ moreChars items

/-- The string form of the items of a sequence after the first one. An item that is null is written
as nothing. -/
def moreChars : List Value → List Char
  | [] => []
  | item :: items => ',' :: charsWith [] item ++ moreChars items

end

def text (v : Value) : String := String.ofList (v.charsWith "null".toList)

def ofOption : Option String → Value
  | none => null
  | some s => string s

def ofStrings (texts : List String) : Value := sequence (texts.map string)

def ofNat (n : Nat) : Value := number (.ofNat n)

mutual

/-- The value of a JSON value. Objects within records cannot be queried. -/
def ofJson : Json → Value
  | .null => null
  | .bool b => bool b
  | .number n => number n.toBinary64
  | .string s => string s
  | .array items => sequence (ofJsonItems items)
  | .object _ => absent

def ofJsonItems : List Json → List Value
  | [] => []
  | item :: items => ofJson item :: ofJsonItems items

end

end Value

/-- Records with named fields. -/
class Record (α : Type) where
  /-- The value of the field with a name; absent if there is no such field. -/
  field : α → String → Value

/-- The fields of an object are its members; other JSON values have none. -/
instance : Record Json where
  field value name :=
    match value.get? name with
    | some member => .ofJson member
    | none => .absent

end Weblog
