import Weblog.Json.Codec
import Weblog.Query.Value
/-!
# Comments

* `Comment`: a comment on a post.
* `Comment.codec`: a comment as JSON. A comment that does not tell its state is pending.
* the fields of a comment that queries see: those of its JSON form, and the number of likes.
-/

namespace Weblog

open Json

/-- A comment on a post. -/
structure Comment where
  id : String
  postId : String
  author : String
  email : Option String
  body : String
  state : String
  created : String
  likes : List String
  deriving DecidableEq

namespace Comment

/-- The state of a comment that waits for moderation, also if it does not tell its state. -/
def pendingState : String := "pendiente"

def approvedState : String := "aprobado"

def rejectedState : String := "rechazado"

/-- The fields of a comment in JSON, in order. -/
def fields : List Field := [
  { name := "id", codec := .text, whenMissing := none },
  { name := "postId", codec := .text, whenMissing := none },
  { name := "autor", codec := .text, whenMissing := none },
  { name := "email", codec := .optional .text, whenMissing := some none },
  { name := "contenido", codec := .text, whenMissing := none },
  { name := "estado", codec := .text, whenMissing := some pendingState },
  { name := "fechaCreacion", codec := .text, whenMissing := none },
  { name := "likes", codec := .list .text, whenMissing := some [] }]

def ofRow : Row fields → Comment
  | (id, postId, author, email, body, state, created, likes, ()) =>
    ⟨id, postId, author, email, body, state, created, likes⟩

def toRow (c : Comment) : Row fields :=
  (c.id, c.postId, c.author, c.email, c.body, c.state, c.created, c.likes, ())

def codec : Codec Comment := .record "Comment" fields ofRow toRow

def likesCount (c : Comment) : Nat := c.likes.length

def isLikedBy (c : Comment) (user : String) : Bool := c.likes.contains user

instance : Record Comment where
  field c
    | "id" => .string c.id
    | "postId" => .string c.postId
    | "autor" => .string c.author
    | "email" => .ofOption c.email
    | "contenido" => .string c.body
    | "estado" => .string c.state
    | "fechaCreacion" => .string c.created
    | "likes" => .ofStrings c.likes
    | "likesCount" => .ofNat c.likesCount
    | _ => .absent

end Comment

end Weblog
