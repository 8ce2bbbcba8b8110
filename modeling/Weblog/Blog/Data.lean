import Weblog.Blog.Category
import Weblog.Blog.Comment
import Weblog.Blog.Post
/-!
# The data of a blog

* `BlogData`: posts, comments and categories in storage order. Names may repeat.
* `BlogData.codec`: the data as JSON. A collection that is missing is empty.
* `BlogData.sample`: the data a fresh blog starts with.
-/

namespace Weblog

open Json

/-- All that is stored about a blog. -/
structure BlogData where
  posts : List Post
  comments : List Comment
  categories : List Category
  deriving DecidableEq

namespace BlogData

def empty : BlogData := ⟨[], [], []⟩

/-- The fields of the data in JSON, in order. -/
def fields : List Field := [
  { name := "posts", codec := .list Post.codec, whenMissing := some [] },
  { name := "comments", codec := .list Comment.codec, whenMissing := some [] },
  { name := "categories", codec := .list Category.codec, whenMissing := some [] }]

def ofRow : Row fields → BlogData
  | (posts, comments, categories, ()) => ⟨posts, comments, categories⟩

def toRow (d : BlogData) : Row fields :=
  (d.posts, d.comments, d.categories, ())

def codec : Codec BlogData := .record "BlogData" fields ofRow toRow

/-- The comments on a post, in storage order. -/
def commentsFor (d : BlogData) (postId : String) : List Comment :=
  d.comments.filter (·.postId == postId)

/-- The first category with an id. -/
def category? (d : BlogData) (id : String) : Option Category :=
  d.categories.find? (·.id == id)

/-! ## The sample -/

def sampleCreated : String := "2024-01-01T00:00:00.000Z"

def samplePost : Post where
  id := "post-1"
  title := "Bienvenido al Blog"
  body := "Este es el primer post de nuestro blog..."
  author := "admin"
  tags := ["bienvenida", "blog"]
  categoryId := none
  state := "publicado"
  created := sampleCreated
  updated := some sampleCreated
  views := 0
  likes := []

def sampleComment : Comment where
  id := "comment-1"
  postId := "post-1"
  author := "Usuario Anónimo"
  email := some "usuario@example.com"
  body := "Excelente primer post!"
  state := Comment.approvedState
  created := sampleCreated
  likes := []

def sampleCategories : List Category :=
  [⟨"cat-1", "Tecnología", "Noticias y tutoriales sobre desarrollo y tech", sampleCreated⟩,
    ⟨"cat-2", "Lifestyle", "Estilo de vida, viajes y salud", sampleCreated⟩]

/-- A welcome post with one comment, and two categories. -/
def sample : BlogData := ⟨[samplePost], [sampleComment], sampleCategories⟩

end BlogData

end Weblog
