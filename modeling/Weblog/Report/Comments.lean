import Weblog.Listing.Comments
import Weblog.Report.Posts
/-!
# Comment reports

* `commentsTable`: a page of comments, one per line between a header and a footer.
-/

namespace Weblog.Report

open Listing Text

def commentsHeader : String :=
  row [padRight 8 "ID", padRight 10 "Date", padRight 10 "State", padRight 16 "Author",
    padLeft 5 "Likes", "Comment"]

def firstLine (text : String) : String :=
  String.ofList ((lines text.toList).headD [])

def commentLine (colors : Bool) (l : ListedComment) : String :=
  row [idCell l.comment.id, dateCell l.comment.created, stateCell colors 10 l.comment.state,
    nameCell 16 l.comment.author, padLeft 5 (likesText l.likesCount l.isLiked),
    truncate 60 (firstLine l.comment.body)]

/-- A page of comments as a table. -/
def commentsTable (colors : Bool) (page : CommentPage) : String :=
  if page.comments.isEmpty then block [noLines "comments" page.info]
  else block ([paint colors .dimmed commentsHeader] ++ page.comments.map (commentLine colors) ++
    [paint colors .dimmed (footer "comments" page.info)])

end Weblog.Report
