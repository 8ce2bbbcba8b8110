import Weblog.Json.Codec
import Weblog.Query.Value
/-!
# Categories

* `Category`: a category of posts.
* `Category.codec`: a category as JSON. Only the description may be missing.
-/

namespace Weblog

open Json

/-- A category of posts. -/
structure Category where
  id : String
  name : String
  description : String
  created : String
  deriving DecidableEq

namespace Category

/-- The fields of a category in JSON, in order. -/
def fields : List Field := [
  { name := "id", codec := .text, whenMissing := none },
  { name := "nombre", codec := .text, whenMissing := none },
  { name := "descripcion", codec := .text, whenMissing := some "" },
  { name := "fechaCreacion", codec := .text, whenMissing := none }]

def ofRow : Row fields → Category
  | (id, name, description, created, ()) => ⟨id, name, description, created⟩

def toRow (c : Category) : Row fields :=
  (c.id, c.name, c.description, c.created, ())

def codec : Codec Category := .record "Category" fields ofRow toRow

instance : Record Category where
  field c
    | "id" => .string c.id
    | "nombre" => .string c.name
    | "descripcion" => .string c.description
    | "fechaCreacion" => .string c.created
    | _ => .absent

end Category

end Weblog
