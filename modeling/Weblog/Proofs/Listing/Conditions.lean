import Weblog.Proofs.Listing.Ties
import Weblog.Proofs.Listing.Views
/-!
# Conditions on listings

A listing takes the posts through one stage for each condition, and sorts what is left. The stages
are filters, so they ask for all conditions at once, in whatever order they come; and the posts that
pass are sorted in the one way that keeps ties in the order of storage.

* `PostFilter.Admits`: whether a post satisfies all conditions that are given.
* `PostFilter.stages`: the stages in the order of a listing; `PostFilter.foldl_stages`: **stages in
  any order select the posts that the conditions admit**.
* **`pages_of_sorted_conjunction`**: post listings and comment listings show the pages of what the
  conditions admit, sorted.
-/

namespace Weblog.Listing

open Text

theorem keep_eq_filter {α β : Type} (condition : Option β) (holds : β → α → Bool) :
    keep condition holds = List.filter fun a => condition.all fun b => holds b a := by
  funext items
  cases condition with
  | none => exact (List.filter_eq_self.mpr fun _ _ => rfl).symm
  | some b => rfl

/-! ## Conditions on posts -/

namespace PostFilter

/-- Whether a post satisfies all conditions that are given. An empty search and an empty query are
none. -/
structure Admits (f : PostFilter) (p : Post) : Prop where
  author : ∀ author ∈ f.author, p.author = author
  state : ∀ state ∈ f.state, p.state = state
  tag : ∀ tag ∈ f.tag, tag ∈ p.tags
  category : ∀ category ∈ f.category, p.categoryId = some category
  search : ∀ term ∈ f.search, term ≠ "" →
    (lower term).toList <:+: (lower p.title).toList ∨ (lower term).toList <:+: (lower p.body).toList
  query : ∀ q ∈ f.query, q ≠ "" → (Query.parse q).holds Post.searchFields p = true

theorem admits_iff {f : PostFilter} {p : Post} : f.Admits p ↔
    (∀ author ∈ f.author, p.author = author) ∧ (∀ state ∈ f.state, p.state = state) ∧
      (∀ tag ∈ f.tag, tag ∈ p.tags) ∧ (∀ category ∈ f.category, p.categoryId = some category) ∧
      (∀ term ∈ f.search, term ≠ "" → (lower term).toList <:+: (lower p.title).toList ∨
        (lower term).toList <:+: (lower p.body).toList) ∧
      ∀ q ∈ f.query, q ≠ "" → (Query.parse q).holds Post.searchFields p = true :=
  ⟨fun h => ⟨h.author, h.state, h.tag, h.category, h.search, h.query⟩,
    fun ⟨hauthor, hstate, htag, hcategory, hsearch, hquery⟩ =>
      ⟨hauthor, hstate, htag, hcategory, hsearch, hquery⟩⟩

/-- The tests of a post, one for each condition. -/
def tests (f : PostFilter) : List (Post → Bool) := [
  fun p => f.author.all fun author => p.author == author,
  fun p => f.state.all fun state => p.state == state,
  fun p => f.tag.all fun tag => p.tags.contains tag,
  fun p => f.category.all fun category => p.categoryId == some category,
  fun p => (nonempty f.search).all fun term => titleOrBodyContains term p,
  fun p => (nonempty f.query).all fun q => (Query.parse q).holds Post.searchFields p]

theorem all_iff {condition : Option String} {holds : String → Bool} :
    condition.all holds = true ↔ ∀ text ∈ condition, holds text = true := by
  simp [Option.all_eq_true]

theorem mem_nonempty_iff {condition : Option String} {text : String} :
    text ∈ nonempty condition ↔ text ∈ condition ∧ text ≠ "" := by
  simp [nonempty, Option.mem_def, Option.filter_eq_some_iff]

theorem titleOrBodyContains_iff {term : String} {p : Post} :
    titleOrBodyContains term p = true ↔ (lower term).toList <:+: (lower p.title).toList ∨
      (lower term).toList <:+: (lower p.body).toList := by
  simp only [titleOrBodyContains, Bool.or_eq_true, occursIn_iff_isInfix]

theorem all_tests_iff (f : PostFilter) (p : Post) :
    (f.tests.all fun test => test p) = true ↔ f.Admits p := by
  simp only [tests, List.all_cons, List.all_nil, Bool.and_true, Bool.and_eq_true, all_iff,
    mem_nonempty_iff, and_imp, titleOrBodyContains_iff, beq_iff_eq, List.contains_iff_mem,
    admits_iff]

instance (f : PostFilter) : DecidablePred f.Admits := fun p =>
  decidable_of_iff _ (f.all_tests_iff p)

/-! ## Stages -/

/-- The stages that a listing takes the posts through, in its order. -/
def stages (f : PostFilter) : List (List Post → List Post) := [
  keep f.author fun author p => p.author == author,
  keep f.state fun state p => p.state == state,
  keep f.tag fun tag p => p.tags.contains tag,
  keep f.category fun category p => p.categoryId == some category,
  f.selectFound,
  f.selectQueried]

theorem select_eq_foldl_stages (f : PostFilter) (posts : List Post) :
    f.select posts = f.stages.foldl (fun posts stage => stage posts) posts := rfl

theorem stages_eq (f : PostFilter) : f.stages = f.tests.map List.filter := by
  have hqueried : f.selectQueried =
      keep (nonempty f.query) fun q => (Query.parse q).holds Post.searchFields := by
    funext posts
    unfold selectQueried
    cases nonempty f.query <;> rfl
  have hfound : f.selectFound = keep (nonempty f.search) titleOrBodyContains := rfl
  simp only [stages, hfound, hqueried, keep_eq_filter]
  rfl

theorem foldl_filter {α : Type} (tests : List (α → Bool)) : ∀ items : List α,
    (tests.map List.filter).foldl (fun items stage => stage items) items =
      items.filter fun a => tests.all fun test => test a := by
  induction tests with
  | nil => intro items; simp
  | cons test tests ih =>
    intro items
    rw [List.map_cons, List.foldl_cons, ih, List.filter_filter]
    simp only [List.all_cons, Bool.and_comm]

/-- **Stages in any order select the posts that the conditions admit.** -/
theorem foldl_stages (f : PostFilter) {stages : List (List Post → List Post)}
    (h : stages.Perm f.stages) (posts : List Post) :
    stages.foldl (fun posts stage => stage posts) posts = posts.filter f.Admits := by
  have hcomm : ∀ stage ∈ stages, ∀ stage' ∈ stages, ∀ posts : List Post,
      stage' (stage posts) = stage (stage' posts) := by
    intro stage hstage stage' hstage' posts
    rw [h.mem_iff, stages_eq] at hstage hstage'
    obtain ⟨test, -, rfl⟩ := List.mem_map.mp hstage
    obtain ⟨test', -, rfl⟩ := List.mem_map.mp hstage'
    exact List.filter_comm _ _ posts
  rw [h.foldl_eq' hcomm, stages_eq, foldl_filter]
  refine List.filter_congr fun p _ => ?_
  rw [Bool.eq_iff_iff, all_tests_iff, decide_eq_true_iff]

theorem select_eq_filter (f : PostFilter) (posts : List Post) :
    f.select posts = posts.filter f.Admits := by
  rw [select_eq_foldl_stages, f.foldl_stages (List.Perm.refl _)]

end PostFilter

/-! ## Sequences -/

theorem PostOptions.isStableSort_iff (opts : PostOptions) {posts sorted : List Post} :
    IsStableSort opts.order.Precedes (posts.filter opts.Admits) sorted ↔
      sorted = opts.sequence posts := by
  rw [isStableSort_iff_of_transCmp opts.order.compare opts.order.isLE_compare, sequence,
    PostFilter.select_eq_filter]
  rfl

theorem CommentOptions.isStableSort_iff (opts : CommentOptions) {comments sorted : List Comment} :
    IsStableSort (fun a b => IsNotEarlier a.created b.created)
        (comments.filter fun c => ∀ state ∈ opts.state, c.state = state) sorted ↔
      sorted = opts.sequence comments := by
  have hkeep : keep opts.state (fun state (c : Comment) => c.state == state) comments =
      comments.filter fun c => ∀ state ∈ opts.state, c.state = state := by
    rw [keep_eq_filter]
    refine List.filter_congr fun c _ => ?_
    rw [Bool.eq_iff_iff, decide_eq_true_iff]
    simp [Option.all_eq_true]
  have : Std.TransCmp fun a b : Comment => newestFirst a.created b.created :=
    transCmp_on newestFirst Comment.created
  have hle := fun a b : Comment => isLE_newestFirst a.created b.created
  rw [sequence, hkeep, isStableSort_iff_of_transCmp _ hle]

/-- **Listings show the pages of what the conditions admit, sorted.** The stages of a post listing
can come in any order; what is left of the posts has one stable sort, and the pages are cut out of
that. The comments on a post that is there are those with the state, newest first. All orders can be
sorted by. -/
theorem pages_of_sorted_conjunction (data : BlogData) :
    (∀ opts : PostOptions,
      (∀ stages : List (List Post → List Post), stages.Perm opts.stages →
        stages.foldl (fun posts stage => stage posts) data.posts =
          data.posts.filter opts.Admits) ∧
      ∃ sequence : List Post,
        (∀ sorted, IsStableSort opts.order.Precedes (data.posts.filter opts.Admits) sorted ↔
          sorted = sequence) ∧
        ∀ page size, data.postPage { opts with page, size } =
          ⟨(pageOf sequence page size).1.map (ListedPost.of opts.viewer),
            (pageOf sequence page size).2⟩) ∧
    (∀ postId, (∃ p ∈ data.posts, p.id = postId) → ∀ opts : CommentOptions,
      ∃ sequence : List Comment,
        (∀ sorted, IsStableSort (fun a b => IsNotEarlier a.created b.created)
          (data.comments.filter fun c =>
            c.postId = postId ∧ ∀ state ∈ opts.state, c.state = state) sorted ↔
          sorted = sequence) ∧
        ∀ page size, data.commentPage? postId { opts with page, size } =
          some ⟨(pageOf sequence page size).1.map (ListedComment.of opts.viewer),
            (pageOf sequence page size).2⟩) ∧
    (∀ order : PostOrder, IsTotalPreorder order.compare ∧
      ∀ a b, (order.compare a b).isLE = true ↔ order.Precedes a b) ∧
    IsTotalPreorder newestFirst ∧ ∀ a b, (newestFirst a b).isLE = true ↔ IsNotEarlier a b := by
  refine ⟨fun opts => ⟨fun stages h => opts.foldl_stages h data.posts, opts.sequence data.posts,
      fun sorted => opts.isStableSort_iff, fun page size => rfl⟩, fun postId hpost opts => ?_,
    fun order => ⟨.of_transCmp order.compare, order.isLE_compare⟩, .of_transCmp newestFirst,
    isLE_newestFirst⟩
  refine ⟨opts.sequence (data.commentsFor postId), fun sorted => ?_, fun page size =>
    BlogData.commentPage?_eq_some hpost _⟩
  rw [← opts.isStableSort_iff, BlogData.commentsFor, List.filter_filter]
  simp only [Bool.decide_and, Bool.and_comm, beq_eq_decide]

/-- Two posts of which the first one has no date, with the stages in the opposite order. -/
theorem pages_of_sorted_conjunction_undated :
    let data : BlogData := { BlogData.sample with posts :=
      [{ BlogData.samplePost with created := "someday" }, BlogData.samplePost] }
    let opts : PostOptions := { author := some "admin", search := some "BLOG" }
    opts.stages.reverse.Perm opts.stages ∧ (∃ p ∈ data.posts, p.id = "post-1") ∧
      opts.stages.reverse.foldl (fun posts stage => stage posts) data.posts =
        data.posts.filter opts.Admits ∧
      ∃ sequence : List Comment,
        (∀ sorted, IsStableSort (fun a b => IsNotEarlier a.created b.created)
          (data.comments.filter fun c =>
            c.postId = "post-1" ∧ ∀ state ∈ some "aprobado", c.state = state) sorted ↔
          sorted = sequence) ∧
        ∀ page size, data.commentPage? "post-1" { state := some "aprobado", page, size } =
          some ⟨(pageOf sequence page size).1.map (ListedComment.of none),
            (pageOf sequence page size).2⟩ := by
  intro data opts
  have hstages : opts.stages.reverse.Perm opts.stages := List.reverse_perm _
  have hpost : ∃ p ∈ data.posts, p.id = "post-1" := ⟨_, List.mem_cons_self, rfl⟩
  obtain ⟨hposts, hcomments, -⟩ := pages_of_sorted_conjunction data
  exact ⟨hstages, hpost, (hposts opts).1 _ hstages,
    hcomments "post-1" hpost { state := some "aprobado" }⟩

end Weblog.Listing
