import Weblog.Blog.Data
/-!
# Repositories

The listings do not own the data of a blog. They ask a repository for the collections they need, one
at a time, and the data may change between two questions.

* `Repository`: reading access to a blog, in any monad.
* `Repository.ofData`: the repository of data held in memory.
* `Repository.ofSnapshots`: the repository that takes a fresh snapshot for every question.
-/

namespace Weblog

/-- Where posts, comments and categories come from. -/
structure Repository (m : Type → Type) where
  posts : m (List Post)
  comments : m (List Comment)
  commentsFor : String → m (List Comment)
  categories : m (List Category)
  category? : String → m (Option Category)

namespace Repository

variable {m : Type → Type} [Monad m]

/-- The repository of data that does not change. -/
def ofData (data : BlogData) : Repository m where
  posts := pure data.posts
  comments := pure data.comments
  commentsFor postId := pure (data.commentsFor postId)
  categories := pure data.categories
  category? id := pure (data.category? id)

/-- The repository that takes a fresh snapshot for every question. -/
def ofSnapshots (snapshot : m BlogData) : Repository m where
  posts := return (← snapshot).posts
  comments := return (← snapshot).comments
  commentsFor postId := return (← snapshot).comments.filter (·.postId == postId)
  categories := return (← snapshot).categories
  category? id := return (← snapshot).categories.find? (·.id == id)

end Repository

end Weblog
