import Weblog.Listing.Posts
/-!
# Comment listings

* `CommentOptions.sequence`: the comments of a listing, newest first, before it is cut into pages.
* `listComments`: **one page of the comments on a post**.
-/

namespace Weblog.Listing

/-- Which comments on a post are listed, and which page of them. -/
structure CommentOptions where
  state : Option String := none
  page : UInt64 := 1
  size : UInt64 := defaultSize
  viewer : Option String := none
  deriving DecidableEq

/-- A comment with what a listing computes for it. -/
structure ListedComment where
  comment : Comment
  likesCount : Nat
  isLiked : Bool
  deriving DecidableEq

/-- A comment as a viewer sees it. -/
def ListedComment.of (viewer : Option String) (c : Comment) : ListedComment :=
  ⟨c, c.likesCount, viewer.any c.isLikedBy⟩

/-- The members of a listed comment: those of the comment, and what is computed. -/
def ListedComment.toJson (l : ListedComment) : Json :=
  .object (Json.Row.members Comment.fields l.comment.toRow ++
    [("likesCount", .ofNat l.likesCount), ("isLiked", .bool l.isLiked)])

structure CommentPage where
  comments : List ListedComment
  info : PageMeta
  deriving DecidableEq

def CommentPage.toJson (page : CommentPage) : Json :=
  .object
    [("comments", .array (page.comments.map ListedComment.toJson)), ("meta", page.info.toJson)]

/-- The comments of a listing before it is cut into pages. -/
def CommentOptions.sequence (opts : CommentOptions) (comments : List Comment) : List Comment :=
  (keep opts.state (fun state c => c.state == state) comments).mergeSort
    fun a b => (newestFirst a.created b.created).isLE

/-- The page of a listing that is asked for. -/
def CommentPage.of (opts : CommentOptions) (comments : List Comment) : CommentPage :=
  let (page, info) := pageOf (opts.sequence comments) opts.page opts.size
  ⟨page.map (ListedComment.of opts.viewer), info⟩

/-- One page of the comments on a post, if there is a post with that id. -/
def listComments {m : Type → Type} [Monad m] (repo : Repository m) (postId : String)
    (opts : CommentOptions) : m (Option CommentPage) := do
  if (← repo.posts).any (·.id == postId) then
    return some (CommentPage.of opts (← repo.commentsFor postId))
  else return none

end Weblog.Listing
