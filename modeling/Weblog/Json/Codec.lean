import Weblog.Json.Document
import Weblog.Text.Escaped
/-!
# Typed JSON

A codec reads values of a type from a document and writes them as JSON. A document is read in the
order of its text, so that of two faults the first one is reported.

* `ReadError`: why a document is not read, and `DataError.message`, the wording.
* `Codec`: reading and writing one type; `text`, `optional`, `list` and `count` are the simple ones.
* `Field`, `Row`: the fields of a record and their values.
* `Codec.record`: **records**, written as objects with all fields in order. They are read from
  objects, where unknown names are ignored, and from arrays of the values in order.
-/

namespace Weblog.Json

/-! ## Errors -/

/-- What a document has in a place where something else is expected. -/
inductive Found
  | null
  | bool (b : Bool)
  | number (n : Numeral)
  | string (s : String)
  | array
  | object

/-- A document that says something else than expected. -/
inductive DataError
  | type (found : Found) (expected : String)
  | range (found : Found) (expected : String)
  | length (length : Nat) (expected : String)
  | missing (field : String)
  | duplicate (field : String)

/-- A document that is not read: a fault in the text, or one in what it says. -/
inductive ReadError
  | malformed
  | data (error : DataError)

def Found.message : Found → String
  | null => "null"
  | bool b => s!"boolean `{b}`"
  | number (.int i) => "integer `" ++ String.ofList (intText i) ++ "`"
  | number (.real x) => "floating point `" ++ String.ofList (Numeral.real x).text ++ "`"
  | string s => "string " ++ Text.quoted s
  | array => "sequence"
  | object => "map"

def DataError.message : DataError → String
  | type found expected => "invalid type: " ++ found.message ++ ", expected " ++ expected
  | range found expected => "invalid value: " ++ found.message ++ ", expected " ++ expected
  | length n expected => s!"invalid length {n}, expected {expected}"
  | missing field => s!"missing field `{field}`"
  | duplicate field => s!"duplicate field `{field}`"

/-- The error of a document that is not of the expected type. -/
def Document.mismatch (expected : String) : Document → ReadError
  | null => .data (.type .null expected)
  | bool b => .data (.type (.bool b) expected)
  | number (some n) => .data (.type (.number n) expected)
  | string (some s) => .data (.type (.string s) expected)
  | array .. => .data (.type .array expected)
  | object .. => .data (.type .object expected)
  | number none | string none | broken => .malformed

/-! ## Codecs -/

/-- Where a document comes from: a text, or a value that has been read before. -/
inductive Origin
  | text
  | value
  deriving DecidableEq

/-- Reading and writing the values of a type. -/
structure Codec (α : Type) where
  read : Origin → Document → Except ReadError α
  write : α → Json

namespace Codec

def text : Codec String where
  read _
    | .string (some s) => .ok s
    | d => .error (d.mismatch "a string")
  write := .string

/-- A value, or null for none. -/
def optional {α : Type} (codec : Codec α) : Codec (Option α) where
  read origin
    | .null => .ok none
    | d => (codec.read origin d).map some
  write := ofOption codec.write

def list {α : Type} (codec : Codec α) : Codec (List α) where
  read origin
    | .array items closed => do
      let values ← items.mapM (codec.read origin)
      if closed then .ok values else .error .malformed
    | d => .error (d.mismatch "a sequence")
  write values := .array (values.map codec.write)

/-- A natural number below `2 ^ 64`, written as an integer. -/
def count : Codec UInt64 where
  read _
    | .number (some (.int i)) =>
      if 0 ≤ i ∧ i < UInt64.size then .ok (.ofNat i.toNat)
      else .error (.data (.range (.number (.int i)) "u64"))
    | d => .error (d.mismatch "u64")
  write n := ofNat n.toNat

end Codec

/-! ## Records -/

/-- A field of a record: its name, its codec, and its value when it is missing, if it may be. -/
structure Field where
  name : String
  {Carrier : Type}
  codec : Codec Carrier
  whenMissing : Option Carrier

/-- The values of some fields, in order. -/
@[reducible] def Row : List Field → Type
  | [] => Unit
  | f :: fs => f.Carrier × Row fs

/-- The values of fields as far as they have been read. -/
@[reducible] def Draft : List Field → Type
  | [] => Unit
  | f :: fs => Option f.Carrier × Draft fs

namespace Draft

def empty : (fields : List Field) → Draft fields
  | [] => ()
  | _ :: fs => (none, empty fs)

/-- Reads one member of an object. A member that names no field only has to be intact. -/
def put (origin : Origin) :
    (fields : List Field) → Draft fields → String → Document → Except ReadError (Draft fields)
  | [], _, _, value => if value.isIntact then .ok () else .error .malformed
  | f :: fs, (v, rest), name, value =>
    if name = f.name then
      match v with
      | some _ => .error (.data (.duplicate f.name))
      | none => do return (some (← f.codec.read origin value), rest)
    else do return (v, ← put origin fs rest name value)

/-- Reads one member of an object, if it has a name. -/
def putMember (origin : Origin) (fields : List Field) (draft : Draft fields)
    (member : Option String × Document) : Except ReadError (Draft fields) :=
  match member.1 with
  | some name => put origin fields draft name member.2
  | none => .error .malformed

/-- The values of all fields after the last member. -/
def finish : (fields : List Field) → Draft fields → Except ReadError (Row fields)
  | [], _ => .ok ()
  | f :: fs, (v, rest) => do
    let value ← match v.orElse fun _ => f.whenMissing with
      | some value => .ok value
      | none => .error (.data (.missing f.name))
    return (value, ← finish fs rest)

end Draft

namespace Row

/-- Reads a row from the members of an object. -/
def ofMembers (origin : Origin) (fields : List Field) (members : List (Option String × Document))
    (closed : Bool) : Except ReadError (Row fields) := do
  let draft ← members.foldlM (Draft.putMember origin fields) (Draft.empty fields)
  if closed then Draft.finish fields draft else .error .malformed

/-- Reads the values of fields from the items of an array, the first field having the given place,
and leaves the items after them. -/
def takeItems (origin : Origin) (expected : String) (closed : Bool) :
    (fields : List Field) → Nat → List Document → Except ReadError (Row fields × List Document)
  | [], _, items => .ok ((), items)
  | f :: fs, place, item :: items => do
    let value ← f.codec.read origin item
    let (row, left) ← takeItems origin expected closed fs (place + 1) items
    return ((value, row), left)
  | f :: fs, place, [] => do
    if !closed then .error .malformed
    let value ← match f.whenMissing with
      | some value => .ok value
      | none => .error (.data (.length place expected))
    let (row, left) ← takeItems origin expected closed fs (place + 1) []
    return ((value, row), left)

/-- Reads a row from the items of an array. -/
def ofItems (origin : Origin) (expected : String) (fields : List Field) (items : List Document)
    (closed : Bool) : Except ReadError (Row fields) := do
  let (row, left) ← takeItems origin expected closed fields 0 items
  match origin with
  | .text => if left.isEmpty && closed then .ok row else .error .malformed
  | .value =>
    if left.isEmpty then .ok row
    else .error (.data (.length items.length "fewer elements in array"))

/-- The members of the object that a row is written as. -/
def members : (fields : List Field) → Row fields → List (String × Json)
  | [], _ => []
  | f :: fs, (value, rest) => (f.name, f.codec.write value) :: members fs rest

end Row

/-- How an error describes an array of the values of a record. -/
def elementCount (name : String) (n : Nat) : String :=
  s!"struct {name} with {n} " ++ if n = 1 then "element" else "elements"

/-- Objects with some fields, or arrays of their values in order. -/
def Codec.record {α : Type} (name : String) (fields : List Field) (ofRow : Row fields → α)
    (toRow : α → Row fields) : Codec α where
  read origin
    | .object members closed => (Row.ofMembers origin fields members closed).map ofRow
    | .array items closed =>
      (Row.ofItems origin (elementCount name fields.length) fields items closed).map ofRow
    | d => .error (d.mismatch s!"struct {name}")
  write a := .object (Row.members fields (toRow a))

/-! ## Texts and values -/

/-- The value in a JSON text. -/
def Codec.ofText {α : Type} (codec : Codec α) (text : String) : Except ReadError α := do
  let (document, ends) := Document.ofText text
  let value ← codec.read .text document
  if ends then .ok value else .error .malformed

/-- The value in a JSON value. -/
def Codec.ofJson {α : Type} (codec : Codec α) (value : Json) : Except ReadError α :=
  codec.read .value (.ofJson value)

end Weblog.Json
