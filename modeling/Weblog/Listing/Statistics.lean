import Weblog.Blog.Repository
import Weblog.Listing.Order
/-!
# Statistics

The figures of a dashboard.

* `Statistics`: sizes of the collections, comments by state, the newest posts, posts by category.
* `statistics`: **the figures of a repository**.
-/

namespace Weblog.Listing

/-- How many comments have each state of moderation. Other states are not counted. -/
structure CommentCounts where
  approved : Nat
  pending : Nat
  rejected : Nat
  deriving DecidableEq

/-- A recent post and how many comments it has. -/
structure RecentPost where
  id : String
  title : String
  author : String
  created : String
  views : UInt64
  comments : Nat
  deriving DecidableEq

/-- A category and how many posts it has. -/
structure CategoryCount where
  id : String
  name : String
  posts : Nat
  deriving DecidableEq

/-- The figures of the dashboard. -/
structure Statistics where
  posts : Nat
  comments : Nat
  categories : Nat
  states : CommentCounts
  recent : List RecentPost
  perCategory : List CategoryCount
  deriving DecidableEq

/-! ## Counting -/

/-- The counts with one more comment. A comment in another state does not count. -/
def CommentCounts.add (counts : CommentCounts) (c : Comment) : CommentCounts :=
  if c.state = Comment.approvedState then { counts with approved := counts.approved + 1 }
  else if c.state = Comment.pendingState then { counts with pending := counts.pending + 1 }
  else if c.state = Comment.rejectedState then { counts with rejected := counts.rejected + 1 }
  else counts

/-- How many of some comments are in each state. -/
def CommentCounts.of (comments : List Comment) : CommentCounts :=
  comments.foldl CommentCounts.add ⟨0, 0, 0⟩

def recentPosts : Nat := 5

/-- A post with the number of its comments in any state. -/
def RecentPost.of (comments : List Comment) (p : Post) : RecentPost :=
  ⟨p.id, p.title, p.author, p.created, p.views, comments.countP (·.postId == p.id)⟩

/-- A category with the number of its posts. -/
def CategoryCount.of (posts : List Post) (c : Category) : CategoryCount :=
  ⟨c.id, c.name, posts.countP (·.categoryId == some c.id)⟩

/-- The figures of some data. -/
def Statistics.of (posts : List Post) (comments : List Comment) (categories : List Category) :
    Statistics where
  posts := posts.length
  comments := comments.length
  categories := categories.length
  states := .of comments
  recent := ((PostOrder.newest.sort posts).take recentPosts).map (RecentPost.of comments)
  perCategory := categories.map (CategoryCount.of posts)

def statistics {m : Type → Type} [Monad m] (repo : Repository m) : m Statistics := do
  let posts ← repo.posts
  let comments ← repo.comments
  let categories ← repo.categories
  return Statistics.of posts comments categories

/-! ## JSON -/

def CommentCounts.toJson (c : CommentCounts) : Json :=
  .object [
    ("approved", .ofNat c.approved),
    ("pending", .ofNat c.pending),
    ("rejected", .ofNat c.rejected)]

def RecentPost.toJson (p : RecentPost) : Json :=
  .object [
    ("id", .string p.id),
    ("titulo", .string p.title),
    ("autor", .string p.author),
    ("fechaCreacion", .string p.created),
    ("visitas", .ofNat p.views.toNat),
    ("comentarios", .ofNat p.comments)]

def CategoryCount.toJson (c : CategoryCount) : Json :=
  .object [("id", .string c.id), ("nombre", .string c.name), ("postsCount", .ofNat c.posts)]

def Statistics.toJson (s : Statistics) : Json :=
  .object [
    ("stats", .object [
      ("totalPosts", .ofNat s.posts),
      ("totalComments", .ofNat s.comments),
      ("totalCategories", .ofNat s.categories)]),
    ("commentsBreakdown", s.states.toJson),
    ("recentPosts", .array (s.recent.map RecentPost.toJson)),
    ("categoriesStats", .array (s.perCategory.map CategoryCount.toJson))]

end Weblog.Listing
