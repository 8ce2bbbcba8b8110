import Weblog.Number.Binary64
/-!
# TOML values

* `Toml`: a TOML value. The entries of a table are in the order in which they are written.
* `Toml.text?`, `Toml.flag?`, `Toml.natBelow?`, `Toml.texts?`: what a value of one kind says.
* `Toml.fields?`: the named fields of a value that stands for a record.
-/

namespace Weblog

open Number

inductive Toml
  | string (s : String)
  | integer (i : Int)
  | float (x : Binary64)
  | boolean (b : Bool)
  | datetime (text : String)
  | array (items : List Toml)
  | table (entries : List (String × Toml))
  deriving Inhabited

namespace Toml

/-- The string of a value that is one. -/
def text? : Toml → Option String
  | string s => some s
  | _ => none

def flag? : Toml → Option Bool
  | boolean b => some b
  | _ => none

/-- The natural number of a value that is one, if it lies below a bound. -/
def natBelow? (bound : Nat) : Toml → Option Nat
  | integer i => if 0 ≤ i ∧ i < bound then some i.toNat else none
  | _ => none

/-- The strings of an array that has no other items. -/
def texts? : Toml → Option (List String)
  | array items => items.mapM text?
  | _ => none

/-- The fields of a record, by name. A table may lack some of them and have others; an array gives
the values of the fields in order and has at least as many as are required. A date and time has no
fields at all. -/
def fields? (names : List String) (required : Nat) : Toml → Option (List (String × Toml))
  | table entries => some entries
  | array items => if items.length < required then none else some (names.zip items)
  | datetime _ => some []
  | _ => none

/-- The value of an optional field: none if it is missing, a failure if it is not of its kind. -/
def field? {α : Type} (name : String) (kind : Toml → Option α)
    (fields : List (String × Toml)) : Option (Option α) :=
  match fields.lookup name with
  | none => some none
  | some value => (kind value).map some

end Toml

end Weblog
