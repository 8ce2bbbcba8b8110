import Weblog.Blog.Repository
import Weblog.Listing.Order
import Weblog.Listing.Page
import Weblog.Query.Match
/-!
# Post listings

A listing takes the posts in storage order through the exact filters, the search in title and body
and the query, sorts what is left, and shows one page of it.

* `PostFilter`, `PostFilter.select`: the conditions, and the posts that satisfy all of them.
* `PostOptions.sequence`: the posts of a listing before it is cut into pages.
* `listPosts`: **one page of the posts** of a repository.
-/

namespace Weblog.Listing

open Text

/-- Conditions on posts. What is not given is no condition, and neither are an empty search and an
empty query. -/
structure PostFilter where
  author : Option String := none
  state : Option String := none
  tag : Option String := none
  category : Option String := none
  search : Option String := none
  query : Option String := none
  deriving DecidableEq

/-- What a listing shows: conditions, order, page, and for whom. -/
structure PostOptions extends PostFilter where
  order : PostOrder := .newest
  page : UInt64 := 1
  size : UInt64 := defaultSize
  viewer : Option String := none
  deriving DecidableEq

/-! ## Selecting -/

/-- The items that satisfy a condition, if there is one. -/
def keep {α β : Type} (condition : Option β) (holds : β → α → Bool) (items : List α) : List α :=
  match condition with
  | none => items
  | some b => items.filter (holds b)

/-- A text that is given and not empty. -/
def nonempty (text : Option String) : Option String :=
  text.filter (· != "")

/-- Whether title or body of a post contain a term, in any letter case. -/
def titleOrBodyContains (term : String) (p : Post) : Bool :=
  let term := (lower term).toList
  occursIn term (lower p.title).toList || occursIn term (lower p.body).toList

namespace PostFilter

/-- The posts that pass the conditions on single fields. -/
def selectExact (f : PostFilter) (posts : List Post) : List Post :=
  posts
    |> keep f.author (fun author p => p.author == author)
    |> keep f.state (fun state p => p.state == state)
    |> keep f.tag (fun tag p => p.tags.contains tag)
    |> keep f.category (fun category p => p.categoryId == some category)

/-- The posts with the searched text in the title or the body. -/
def selectFound (f : PostFilter) (posts : List Post) : List Post :=
  keep (nonempty f.search) titleOrBodyContains posts

/-- The posts that satisfy the query. -/
def selectQueried (f : PostFilter) (posts : List Post) : List Post :=
  match nonempty f.query with
  | none => posts
  | some q => (Query.parse q).filter Post.searchFields posts

/-- The posts that pass all conditions, in storage order. -/
def select (f : PostFilter) (posts : List Post) : List Post :=
  f.selectQueried (f.selectFound (f.selectExact posts))

end PostFilter

/-! ## Listing -/

/-- A post with what a listing computes for it. -/
structure ListedPost where
  post : Post
  likesCount : Nat
  isLiked : Bool
  deriving DecidableEq

/-- A post as a viewer sees it. -/
def ListedPost.of (viewer : Option String) (p : Post) : ListedPost :=
  ⟨p, p.likesCount, viewer.any p.isLikedBy⟩

/-- The members of a listed post: those of the post, and what is computed. -/
def ListedPost.members (l : ListedPost) : List (String × Json) :=
  Json.Row.members Post.fields l.post.toRow ++
    [("likesCount", .ofNat l.likesCount), ("isLiked", .bool l.isLiked)]

def ListedPost.toJson (l : ListedPost) : Json := .object l.members

structure PostPage where
  posts : List ListedPost
  info : PageMeta
  deriving DecidableEq

def PostPage.toJson (page : PostPage) : Json :=
  .object [("posts", .array (page.posts.map ListedPost.toJson)), ("meta", page.info.toJson)]

/-- The posts of a listing before it is cut into pages. -/
def PostOptions.sequence (opts : PostOptions) (posts : List Post) : List Post :=
  opts.order.sort (opts.select posts)

/-- The page of a listing that is asked for. -/
def PostPage.of (opts : PostOptions) (posts : List Post) : PostPage :=
  let (page, info) := pageOf (opts.sequence posts) opts.page opts.size
  ⟨page.map (ListedPost.of opts.viewer), info⟩

/-- One page of the posts of a repository. -/
def listPosts {m : Type → Type} [Monad m] (repo : Repository m) (opts : PostOptions) :
    m PostPage := do
  return PostPage.of opts (← repo.posts)

end Weblog.Listing
