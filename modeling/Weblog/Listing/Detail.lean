import Weblog.Listing.Posts
/-!
# Post details

* `PostDetail`: one post with its category.
* `getPost`: **the first post with an id**.
-/

namespace Weblog.Listing

/-- The category of a post: none, one that no category has the id of, or a known one. -/
inductive PostCategory
  | none
  | unknown (id : String)
  | known (category : Category)
  deriving DecidableEq

/-- A post with its category. -/
structure PostDetail where
  listed : ListedPost
  category : PostCategory
  deriving DecidableEq

/-- The member that tells the category, if the post has one. -/
def PostCategory.members : PostCategory → List (String × Json)
  | none => []
  | unknown _ => [("categoria", .null)]
  | known c => [("categoria", Category.codec.write c)]

def PostDetail.toJson (d : PostDetail) : Json :=
  .object (d.listed.members ++ d.category.members)

variable {m : Type → Type} [Monad m]

/-- The category of a post, if it has one and that exists. -/
def categoryOf (repo : Repository m) (p : Post) : m PostCategory := do
  match p.categoryId with
  | .none => return .none
  | .some id =>
    match ← repo.category? id with
    | .none => return .unknown id
    | .some c => return .known c

/-- The first post with an id, as a viewer sees it. -/
def getPost (repo : Repository m) (id : String) (viewer : Option String) :
    m (Option PostDetail) := do
  match (← repo.posts).find? (·.id == id) with
  | .none => return .none
  | .some p =>
    let category ← categoryOf repo p
    return some ⟨ListedPost.of viewer p, category⟩

end Weblog.Listing
