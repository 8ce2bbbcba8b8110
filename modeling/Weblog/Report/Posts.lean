import Weblog.Listing.Detail
import Weblog.Report.Style
import Weblog.Text.Search
/-!
# Post reports

* `postsTable`: a page of posts, one per line between a header and a footer.
* `postText`: one post as labeled lines, followed by its body.
-/

namespace Weblog.Report

open Listing Text

/-! ## Tables -/

def postsHeader : String :=
  row [padRight 8 "ID", padRight 10 "Date", padRight 10 "State", padRight 12 "Author",
    padLeft 7 "Views", padLeft 5 "Likes", padRight 16 "Tags", "Title"]

def postLine (colors : Bool) (l : ListedPost) : String :=
  row [idCell l.post.id, dateCell l.post.created, stateCell colors 10 l.post.state,
    nameCell 12 l.post.author, padLeft 7 (toString l.post.views.toNat),
    padLeft 5 (likesText l.likesCount l.isLiked), padRight 16 (tagsText 16 l.post.tags),
    l.post.title]

/-- Which page a table shows. -/
def footer (items : String) (info : PageMeta) : String :=
  s!"Page {info.page} of {info.pageCount} ({info.total} {items})"

/-- What stands in place of a table without lines. -/
def noLines (items : String) (info : PageMeta) : String :=
  if info.total = 0 then s!"No {items} found."
  else s!"No {items} on page {info.page} ({info.total} {items} in {info.pageCount} pages)."

/-- A page of posts as a table. -/
def postsTable (colors : Bool) (page : PostPage) : String :=
  if page.posts.isEmpty then block [noLines "posts" page.info]
  else block ([paint colors .dimmed postsHeader] ++ page.posts.map (postLine colors) ++
    [paint colors .dimmed (footer "posts" page.info)])

/-! ## Details -/

/-- The line of a category, if the post has one. -/
def categoryLines : PostCategory → List String
  | .none => []
  | .unknown id => ["Category: " ++ id ++ " (unknown)"]
  | .known c => ["Category: " ++ c.name]

/-- The line of the tags, if there are any. -/
def tagLines (tags : List String) : List String :=
  if tags.isEmpty then [] else ["Tags: " ++ tagList tags]

/-- The line of the last change, if the post has been changed. -/
def updateLines : Option String → List String
  | none => []
  | some updated => ["Updated: " ++ Calendar.displayDate updated]

/-- The lines of the body after an empty one. -/
def bodyLines (body : String) : List String :=
  if body.isEmpty then [] else "" :: (lines body.toList).map fun l => "  " ++ String.ofList l

/-- A post with all that is known about it. -/
def postText (colors : Bool) (d : PostDetail) : String :=
  let p := d.listed.post
  block (
    [paint colors .bold "Post:" ++ " " ++ p.title,
      "ID: " ++ p.id,
      "Author: " ++ p.author,
      "State: " ++ stateCell colors 0 p.state] ++
    categoryLines d.category ++
    tagLines p.tags ++
    ["Created: " ++ Calendar.displayDate p.created] ++
    updateLines p.updated ++
    ["Views: " ++ toString p.views.toNat ++ "  Likes: " ++ toString d.listed.likesCount ++
      if d.listed.isLiked then " (liked)" else ""] ++
    bodyLines p.body)

end Weblog.Report
