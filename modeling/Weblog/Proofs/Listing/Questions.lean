import Mathlib.Tactic.Common
import Weblog.Listing.Comments
import Weblog.Listing.Detail
import Weblog.Listing.Statistics
import Weblog.Proofs.Files.Faults
/-!
# Listings over related repositories

A listing asks a repository and computes with the answers. What relates the answers of two
repositories relates the listings over them.

* `Repository.Related`: two repositories whose answers are related.
* `Repository.related_ofSnapshots`: repositories that take related snapshots.
* **`Related.listPosts`**, `Related.getPost`, `Related.listComments`, `Related.statistics`: the
  listings over related repositories are related.
-/

namespace Weblog

open Files Listing

namespace Repository

variable {m n : Type → Type} [Monad m] [Monad n]

/-- Whether whatever two repositories are asked, their answers are related. -/
structure Related (R : (α : Type) → m α → n α → Prop) (repo : Repository m)
    (other : Repository n) : Prop where
  posts : R _ repo.posts other.posts
  comments : R _ repo.comments other.comments
  commentsFor : ∀ postId, R _ (repo.commentsFor postId) (other.commentsFor postId)
  categories : R _ repo.categories other.categories
  category? : ∀ id, R _ (repo.category? id) (other.category? id)

variable {R : (α : Type) → m α → n α → Prop} (h : Respects R)

include h

theorem related_ofSnapshots {snapshot : m BlogData} {other : n BlogData}
    (hsnapshot : R _ snapshot other) : Related R (ofSnapshots snapshot) (ofSnapshots other) where
  posts := h.bind hsnapshot fun _ => h.pure _
  comments := h.bind hsnapshot fun _ => h.pure _
  commentsFor _ := h.bind hsnapshot fun _ => h.pure _
  categories := h.bind hsnapshot fun _ => h.pure _
  category? _ := h.bind hsnapshot fun _ => h.pure _

namespace Related

variable {repo : Repository m} {other : Repository n} (hrepo : Related R repo other)

include hrepo

theorem listPosts (opts : PostOptions) :
    R _ (Listing.listPosts repo opts) (Listing.listPosts other opts) :=
  h.bind hrepo.posts fun _ => h.pure _

theorem categoryOf (p : Post) : R _ (Listing.categoryOf repo p) (Listing.categoryOf other p) := by
  unfold Listing.categoryOf
  cases p.categoryId with
  | none => exact h.pure _
  | some id =>
    refine h.bind (hrepo.category? id) fun category => ?_
    cases category <;> exact h.pure _

theorem getPost (id : String) (viewer : Option String) :
    R _ (Listing.getPost repo id viewer) (Listing.getPost other id viewer) := by
  refine h.bind hrepo.posts fun posts => ?_
  cases posts.find? (·.id == id) with
  | none => exact h.pure _
  | some p => exact h.bind (hrepo.categoryOf h p) fun _ => h.pure _

theorem listComments (postId : String) (opts : CommentOptions) :
    R _ (Listing.listComments repo postId opts) (Listing.listComments other postId opts) := by
  refine h.bind hrepo.posts fun posts => ?_
  split_ifs
  · exact h.bind (hrepo.commentsFor postId) fun _ => h.pure _
  · exact h.pure _

theorem statistics : R _ (Listing.statistics repo) (Listing.statistics other) :=
  h.bind hrepo.posts fun _ => h.bind hrepo.comments fun _ =>
    h.bind hrepo.categories fun _ => h.pure _

end Related

end Repository

end Weblog
