import Weblog.Json.NumberText
import Weblog.Json.Quote
/-!
# JSON documents

A document is what a JSON text says up to its first fault. Strings with half a surrogate pair and
numbers beyond all finite numbers are faults only for a reader who wants their value, so a document
keeps them without one.

* `Document`: the outline of a text, faults included.
* `Document.ofText`: the outline of a text and whether anything follows it.
* `Document.toJson`: the value of a document without faults.
* `Document.ofJson`: a value as a document.
* `Json.ofText`: **the value that a text denotes**, objects in ascending order of their names.
-/

namespace Weblog.Json

/-- The outline of a JSON text. Arrays and objects tell whether they are closed. -/
inductive Document
  | null
  | bool (b : Bool)
  | number (value : Option Numeral)
  | string (value : Option String)
  | array (items : List Document) (closed : Bool)
  | object (members : List (Option String × Document)) (closed : Bool)
  | broken

/-! ## Scanning -/

def isSpace (c : Char) : Bool :=
  c == ' ' || c == '\n' || c == '\t' || c == '\r'

/-- A text without the white space at its beginning. -/
def skipSpace (s : List Char) : List Char :=
  s.dropWhile isSpace

/-- A string after its opening quote. -/
def scanString (s : List Char) : Option (Option String × List Char) :=
  (scanQuoted s).map fun p => ((joinPieces p.1).map String.ofList, p.2)

/-- A text without a word at its beginning. -/
def skipWord (word : String) (s : List Char) : Option (List Char) :=
  if word.toList.isPrefixOf s then some (s.drop word.toList.length) else none

/-- Reads a word that stands for a value. -/
def scanWord (word : String) (value : Document) (s : List Char) : Document × Option (List Char) :=
  match skipWord word s with
  | some rest => (value, some rest)
  | none => (.broken, none)

/-- A value that is neither a word nor a string nor has parts. -/
def scanNumeral (s : List Char) : Document × Option (List Char) :=
  match scanNumber s with
  | some (n, rest) => (.number n.value, some rest)
  | none => (.broken, none)

mutual

/-- The value at the beginning of a text and what follows it; after a fault nothing follows. -/
def scanValue : Nat → List Char → Document × Option (List Char)
  | 0, _ => (.broken, none)
  | fuel + 1, s =>
    match skipSpace s with
    | 'n' :: rest => scanWord "ull" .null rest
    | 't' :: rest => scanWord "rue" (.bool true) rest
    | 'f' :: rest => scanWord "alse" (.bool false) rest
    | '"' :: rest =>
      match scanString rest with
      | some (text, rest) => (.string text, some rest)
      | none => (.broken, none)
    | '[' :: rest =>
      match skipSpace rest with
      | ']' :: rest => (.array [] true, some rest)
      | rest =>
        let (items, rest) := scanItems fuel rest
        (.array items rest.isSome, rest)
    | '\x7b' :: rest =>
      match skipSpace rest with
      | '\x7d' :: rest => (.object [] true, some rest)
      | rest =>
        let (members, rest) := scanMembers fuel rest
        (.object members rest.isSome, rest)
    | rest => scanNumeral rest

/-- The items of an array from a place where one has to begin. -/
def scanItems : Nat → List Char → List Document × Option (List Char)
  | 0, _ => ([], none)
  | fuel + 1, s =>
    match scanValue fuel s with
    | (item, none) => ([item], none)
    | (item, some rest) =>
      match skipSpace rest with
      | ',' :: rest =>
        let (items, rest) := scanItems fuel rest
        (item :: items, rest)
      | ']' :: rest => ([item], some rest)
      | _ => ([item], none)

/-- The members of an object from a place where one has to begin. -/
def scanMembers : Nat → List Char → List (Option String × Document) × Option (List Char)
  | 0, _ => ([], none)
  | fuel + 1, s =>
    match skipSpace s with
    | '"' :: rest =>
      match scanString rest with
      | none => ([], none)
      | some (name, rest) =>
        match skipSpace rest with
        | ':' :: rest =>
          match scanValue fuel rest with
          | (value, none) => ([(name, value)], none)
          | (value, some rest) =>
            match skipSpace rest with
            | ',' :: rest =>
              let (members, rest) := scanMembers fuel rest
              ((name, value) :: members, rest)
            | '\x7d' :: rest => ([(name, value)], some rest)
            | _ => ([(name, value)], none)
        | _ => ([(name, .broken)], none)
    | _ => ([], none)

end

/-- The outline of a text, and whether the value ends the text up to white space. -/
def Document.ofText (text : String) : Document × Bool :=
  let s := text.toList
  match scanValue (2 * s.length + 1) s with
  | (value, some rest) => (value, (skipSpace rest).isEmpty)
  | (value, none) => (value, false)

/-! ## Values -/

/-- How many arrays and objects may lie within each other. -/
def depthLimit : Nat := 127

mutual

/-- The value of a document without faults that is nested at most `depth` levels deep. -/
def Document.toJson (depth : Nat) : Document → Option Json
  | .null => some .null
  | .bool b => some (.bool b)
  | .number value => value.map .number
  | .string value => value.map .string
  | .array items closed =>
    if depth = 0 ∨ closed = false then none
    else (itemsToJson (depth - 1) items).map .array
  | .object members closed =>
    if depth = 0 ∨ closed = false then none
    else (membersToJson (depth - 1) members).map sortedObject
  | .broken => none

def itemsToJson (depth : Nat) : List Document → Option (List Json)
  | [] => some []
  | item :: items => do
    return (← item.toJson depth) :: (← itemsToJson depth items)

def membersToJson (depth : Nat) : List (Option String × Document) → Option (List (String × Json))
  | [] => some []
  | (name, value) :: members => do
    return ((← name), (← value.toJson depth)) :: (← membersToJson depth members)

end

mutual

/-- A value as a document. -/
def Document.ofJson : Json → Document
  | .null => .null
  | .bool b => .bool b
  | .number n => .number (some n)
  | .string s => .string (some s)
  | .array items => .array (itemsOfJson items) true
  | .object members => .object (membersOfJson members) true

def itemsOfJson : List Json → List Document
  | [] => []
  | item :: items => Document.ofJson item :: itemsOfJson items

def membersOfJson : List (String × Json) → List (Option String × Document)
  | [] => []
  | (name, value) :: members => (some name, Document.ofJson value) :: membersOfJson members

end

mutual

/-- Whether a document has no fault for a reader who wants none of its values. -/
def Document.isIntact : Document → Bool
  | .array items closed => itemsIntact items && closed
  | .object members closed => membersIntact members && closed
  | .broken => false
  | _ => true

def itemsIntact : List Document → Bool
  | [] => true
  | item :: items => item.isIntact && itemsIntact items

def membersIntact : List (Option String × Document) → Bool
  | [] => true
  | (_, value) :: members => value.isIntact && membersIntact members

end

/-- The value of a JSON text. -/
def ofText (text : String) : Option Json :=
  match Document.ofText text with
  | (document, true) => document.toJson depthLimit
  | (_, false) => none

end Weblog.Json
