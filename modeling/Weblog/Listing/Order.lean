import Weblog.Blog.Post
import Weblog.Calendar.Instant
import Weblog.Text.LowerCase
/-!
# Sort orders

Sorting is stable: posts of the same rank stay in storage order.

* `PostOrder`: by title, by views or by date.
* `newestFirst`: the order of creation dates; texts that are no dates come last.
* `PostOrder.sort`: **posts in an order**.
-/

namespace Weblog.Listing

/-- The orders of a listing. -/
inductive PostOrder
  | title
  | views
  | newest
  deriving DecidableEq

/-- The later instant comes first, and what is no instant last. -/
def newestFirst (a b : String) : Ordering :=
  match Calendar.readInstant a, Calendar.readInstant b with
  | some a, some b => compare b a
  | some _, none => .lt
  | none, some _ => .gt
  | none, none => .eq

/-- Titles in alphabetical order, letter case counting only between titles that are otherwise
equal. -/
def byTitle (a b : String) : Ordering :=
  (compare (Text.lower a) (Text.lower b)).then (compare a b)

/-- How an order compares two posts. -/
def PostOrder.compare (order : PostOrder) (a b : Post) : Ordering :=
  match order with
  | title => byTitle a.title b.title
  | views => Ord.compare b.views.toNat a.views.toNat
  | newest => newestFirst a.created b.created

def PostOrder.sort (order : PostOrder) (posts : List Post) : List Post :=
  posts.mergeSort fun a b => (order.compare a b).isLE

end Weblog.Listing
