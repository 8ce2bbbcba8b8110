import Weblog.Json.Value
import Weblog.Listing.Order
import Weblog.Toml.Document
/-!
# Settings

What a user has set for all runs: where the data file is, whether reports have colors, how long and
in which order listings are, and where filters search. What is not set has no value.

* `Settings`: the settings.
* `Settings.ofText`: the settings in the text of a settings file.
* `Settings.render`: **the text of a settings file**. It cannot hold a page size from `2 ^ 63` on.
* `Settings.toJson`: the settings that have a value, as JSON.
-/

namespace Weblog

open Listing

/-- What a user has set for all runs. -/
structure Settings where
  dataFile : Option String := none
  colors : Option Bool := none
  pageSize : Option UInt64 := none
  /-- The name of an order. A name that is none counts as not set. -/
  order : Option String := none
  searchFields : List String := []
  deriving DecidableEq

def orderNames : List (String × PostOrder) :=
  [("titulo", .title), ("visitas", .views), ("fecha-creacion", .newest)]

namespace Settings

/-- The version of the file format. -/
def formatVersion : Nat := 1

/-- The order of post listings, if it is set. -/
def postOrder? (s : Settings) : Option PostOrder :=
  s.order.bind fun name => orderNames.lookup name

/-! ## Reading -/

/-- The settings in a TOML table. A value of the wrong kind is an error; names without a meaning are
ignored, and so is the version. -/
def ofToml (document : Toml) : Option Settings := do
  let root ← document.fields? [] 0
  let _ ← Toml.field? "version" (·.natBelow? UInt32.size) root
  let dataFile ← Toml.field? "data_file" (·.text?) root
  let section? (name : String) (names : List String) (required : Nat) :
      Option (List (String × Toml)) :=
    (Toml.field? name (·.fields? names required) root).map (·.getD [])
  let output ← section? "output" ["color"] 1
  let colors ← Toml.field? "color" (·.flag?) output
  let listing ← section? "listing" ["limit", "sort"] 2
  let pageSize ← Toml.field? "limit" (·.natBelow? UInt64.size) listing
  let order ← Toml.field? "sort" (·.text?) listing
  let search ← section? "search" ["fields"] 0
  let searchFields ← Toml.field? "fields" (·.texts?) search
  return ⟨dataFile, colors, pageSize.map .ofNat, order, searchFields.getD []⟩

/-- The settings in the text of a settings file. -/
def ofText (text : String) : Option Settings :=
  (Toml.ofText text).bind ofToml

/-! ## Writing -/

/-- A string with its quotes. -/
def quoted (text : String) : String :=
  String.ofList (Toml.quote text.toList)

/-- An array of strings, on one line if there is only one of them. -/
def quotedList : List String → String
  | [text] => "[" ++ quoted text ++ "]"
  | texts => "[\n" ++ String.join (texts.map fun text => "    " ++ quoted text ++ ",\n") ++ "]"

/-- The line of a setting, if it has a value. -/
def line {α : Type} (name : String) (text : α → String) : Option α → String
  | none => ""
  | some value => name ++ " = " ++ text value ++ "\n"

/-- The header of a section after an empty line. -/
def header (name : String) : String :=
  "\n[" ++ name ++ "]\n"

/-- The fields to search, if there are any. -/
def searchFields? (s : Settings) : Option (List String) :=
  if s.searchFields.isEmpty then none else some s.searchFields

def flagText (b : Bool) : String :=
  if b then "true" else "false"

/-- Whether a settings file can hold the settings: its integers lie below `2 ^ 63`. -/
def isWritable (s : Settings) : Bool :=
  s.pageSize.all (·.toNat ≤ Toml.lastInteger)

/-- The text of a settings file. -/
def render (s : Settings) : String :=
  "version = " ++ toString formatVersion ++ "\n" ++
    line "data_file" quoted s.dataFile ++
    header "output" ++ line "color" flagText s.colors ++
    header "listing" ++ line "limit" (toString ·.toNat) s.pageSize ++ line "sort" quoted s.order ++
    header "search" ++ line "fields" quotedList s.searchFields?

/-- The member of an object for a setting, if it has a value. -/
def member {α : Type} (name : String) (value : α → Json) (setting : Option α) :
    List (String × Json) :=
  setting.toList.map fun a => (name, value a)

/-- The settings that have a value, in sections. -/
def toJson (s : Settings) : Json :=
  .sortedObject (
    [("version", .ofNat formatVersion)] ++
    member "data_file" .string s.dataFile ++
    [("output", .object (member "color" .bool s.colors)),
      ("listing", .object (member "limit" (Json.ofNat ·.toNat) s.pageSize ++
        member "sort" .string s.order)),
      ("search", .object (member "fields" Json.ofStrings s.searchFields?))])

end Settings

end Weblog
