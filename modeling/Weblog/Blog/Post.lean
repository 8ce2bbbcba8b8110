import Weblog.Json.Codec
import Weblog.Query.Value
/-!
# Posts

* `Post`: a post of the blog.
* `Post.codec`: a post as JSON. Text, tags, likes and views may be missing, and so may the state of
  a post, which then is a draft.
* the fields of a post that queries see: those of its JSON form, and the number of likes.
-/

namespace Weblog

open Json

/-- A post of the blog. -/
structure Post where
  id : String
  title : String
  body : String
  author : String
  tags : List String
  categoryId : Option String
  state : String
  created : String
  updated : Option String
  views : UInt64
  likes : List String
  deriving DecidableEq

namespace Post

/-- The state of a post that does not tell its own. -/
def defaultState : String := "borrador"

/-- The fields of a post in JSON, in order. -/
def fields : List Field := [
  { name := "id", codec := .text, whenMissing := none },
  { name := "titulo", codec := .text, whenMissing := none },
  { name := "contenido", codec := .text, whenMissing := some "" },
  { name := "autor", codec := .text, whenMissing := none },
  { name := "etiquetas", codec := .list .text, whenMissing := some [] },
  { name := "categoriaId", codec := .optional .text, whenMissing := some none },
  { name := "estado", codec := .text, whenMissing := some defaultState },
  { name := "fechaCreacion", codec := .text, whenMissing := none },
  { name := "fechaActualizacion", codec := .optional .text, whenMissing := some none },
  { name := "visitas", codec := .count, whenMissing := some 0 },
  { name := "likes", codec := .list .text, whenMissing := some [] }]

def ofRow : Row fields → Post
  | (id, title, body, author, tags, categoryId, state, created, updated, views, likes, ()) =>
    ⟨id, title, body, author, tags, categoryId, state, created, updated, views, likes⟩

def toRow (p : Post) : Row fields :=
  (p.id, p.title, p.body, p.author, p.tags, p.categoryId, p.state, p.created, p.updated, p.views,
    p.likes, ())

def codec : Codec Post := .record "Post" fields ofRow toRow

def likesCount (p : Post) : Nat := p.likes.length

def isLikedBy (p : Post) (user : String) : Bool := p.likes.contains user

instance : Record Post where
  field p
    | "id" => .string p.id
    | "titulo" => .string p.title
    | "contenido" => .string p.body
    | "autor" => .string p.author
    | "etiquetas" => .ofStrings p.tags
    | "categoriaId" => .ofOption p.categoryId
    | "estado" => .string p.state
    | "fechaCreacion" => .string p.created
    | "fechaActualizacion" => .ofOption p.updated
    | "visitas" => .ofNat p.views.toNat
    | "likes" => .ofStrings p.likes
    | "likesCount" => .ofNat p.likesCount
    | _ => .absent

/-- The fields in which a listing searches for text. -/
def searchFields : List String := ["titulo", "contenido", "autor"]

end Post

end Weblog
