import Mathlib.Algebra.BigOperators.Group.Finset.Piecewise
import Weblog.Listing.Detail
import Weblog.Listing.Statistics
import Weblog.Proofs.Listing.Pages
/-!
# The views of one blog

The dashboard counts and sorts on its own, a listing filters, sorts and cuts into pages, and the
detail view searches. All of them show the same blog.

* `BlogData.postPage`, `BlogData.commentPage?`, `BlogData.detail?`, `BlogData.figures`: the views.
* `CommentCounts.of_eq`: the counts of the dashboard are counts of comments.
* `sum_commentTotal`: **the comments of all posts are the comments of the blog**.
* `FiguresAgree`: the dashboard shows what listings show.
* `DetailAgrees`: a post has a detail view, comments and a place in the listing, or none of them.
* **`views_agree`**: the views of every blog agree.
-/

namespace Weblog

open Listing

namespace BlogData

def postPage (data : BlogData) (opts : PostOptions) : PostPage :=
  (listPosts (.ofData data) opts : Id PostPage).run

def commentPage? (data : BlogData) (postId : String) (opts : CommentOptions) :
    Option CommentPage :=
  (listComments (.ofData data) postId opts : Id (Option CommentPage)).run

def detail? (data : BlogData) (id : String) (viewer : Option String) : Option PostDetail :=
  (getPost (.ofData data) id viewer : Id (Option PostDetail)).run

def figures (data : BlogData) : Statistics :=
  (statistics (.ofData data) : Id Statistics).run

/-- How many comments on a post a listing has, if there is such a post. -/
def commentTotal? (data : BlogData) (postId : String) (opts : CommentOptions) : Option Nat :=
  (data.commentPage? postId opts).map fun page => page.info.total

/-- The ids of the posts, each of them once. -/
def postIds (data : BlogData) : Finset String := (data.posts.map (·.id)).toFinset

variable {data : BlogData}

theorem mem_postIds {id : String} : id ∈ data.postIds ↔ ∃ p ∈ data.posts, p.id = id := by
  simp [postIds]

theorem any_posts_iff {id : String} :
    data.posts.any (·.id == id) = true ↔ ∃ p ∈ data.posts, p.id = id := by
  simp

theorem commentPage?_eq_some {id : String} (h : ∃ p ∈ data.posts, p.id = id)
    (opts : CommentOptions) :
    data.commentPage? id opts = some (CommentPage.of opts (data.commentsFor id)) := by
  unfold commentPage?
  rw [run_listComments, if_pos (any_posts_iff.mpr h)]

theorem commentPage?_isSome_iff {id : String} {opts : CommentOptions} :
    (data.commentPage? id opts).isSome = true ↔ ∃ p ∈ data.posts, p.id = id := by
  unfold commentPage?
  rw [run_listComments, ← any_posts_iff]
  split_ifs with h <;> simp [h]

end BlogData

namespace Listing

variable {data : BlogData}

/-! ## Comments -/

theorem total_commentPage (opts : CommentOptions) (comments : List Comment) :
    (CommentPage.of opts comments).info.total =
      (keep opts.state (fun state c => c.state == state) comments).length := by
  simp [CommentPage.of, pageOf, CommentOptions.sequence]

theorem foldl_add (comments : List Comment) : ∀ counts : CommentCounts,
    comments.foldl CommentCounts.add counts =
      ⟨counts.approved + comments.countP (·.state == "aprobado"),
        counts.pending + comments.countP (·.state == "pendiente"),
        counts.rejected + comments.countP (·.state == "rechazado")⟩ := by
  induction comments with
  | nil => intro counts; rfl
  | cons c cs ih =>
    intro counts
    rw [List.foldl_cons, ih]
    unfold CommentCounts.add Comment.approvedState Comment.pendingState Comment.rejectedState
    split_ifs with ha hp hr <;> simp [*] <;> omega

/-- **The counts of the dashboard are counts of comments.** -/
theorem CommentCounts.of_eq (comments : List Comment) : CommentCounts.of comments =
    ⟨comments.countP (·.state == "aprobado"), comments.countP (·.state == "pendiente"),
      comments.countP (·.state == "rechazado")⟩ := by
  rw [CommentCounts.of, foldl_add]
  simp

theorem commentTotal?_eq {id : String} (h : ∃ p ∈ data.posts, p.id = id) (state : String) :
    data.commentTotal? id { state := some state } =
      some (data.comments.countP fun c => c.postId == id && c.state == state) := by
  rw [BlogData.commentTotal?, BlogData.commentPage?_eq_some h, Option.map_some, total_commentPage,
    keep, BlogData.commentsFor, List.filter_filter, List.countP_eq_length_filter]
  simp only [Bool.and_comm]

/-- Comments that are all on some of the posts are counted by counting those on each post. -/
theorem sum_countP_postId {ids : Finset String} (holds : Comment → Bool) {comments : List Comment}
    (h : ∀ c ∈ comments, c.postId ∈ ids) :
    ∑ id ∈ ids, comments.countP (fun c => c.postId == id && holds c) = comments.countP holds := by
  induction comments with
  | nil => simp
  | cons c cs ih =>
    have hone : ∑ id ∈ ids, (if (c.postId == id && holds c) = true then 1 else 0) =
        if holds c = true then 1 else 0 := by
      cases holds c <;> simp [h c List.mem_cons_self]
    simp only [List.countP_cons, Finset.sum_add_distrib, hone,
      ih fun c' hc' => h c' (List.mem_cons_of_mem c hc')]

/-- **The comments of all posts are the comments of the blog**, if every comment is on a post. -/
theorem sum_commentTotal (h : ∀ c ∈ data.comments, ∃ p ∈ data.posts, p.id = c.postId)
    (state : String) :
    ∑ id ∈ data.postIds, (data.commentTotal? id { state := some state }).getD 0 =
      data.comments.countP (·.state == state) := by
  have hids : ∀ c ∈ data.comments, c.postId ∈ data.postIds :=
    fun c hc => BlogData.mem_postIds.mpr (h c hc)
  rw [← sum_countP_postId (·.state == state) hids]
  refine Finset.sum_congr rfl fun id hid => ?_
  rw [commentTotal?_eq (BlogData.mem_postIds.mp hid) state, Option.getD_some]

theorem countP_states (comments : List Comment) :
    comments.countP (·.state == "aprobado") + comments.countP (·.state == "pendiente") +
        comments.countP (·.state == "rechazado") =
      comments.countP fun c =>
        c.state == "aprobado" || c.state == "pendiente" || c.state == "rechazado" := by
  induction comments with
  | nil => rfl
  | cons c cs ih =>
    simp only [List.countP_cons, ← ih]
    by_cases ha : c.state = "aprobado"
    · simp [ha]; omega
    by_cases hp : c.state = "pendiente"
    · simp [hp]; omega
    by_cases hr : c.state = "rechazado"
    · simp [hr]; omega
    · simp [ha, hp, hr]

/-! ## Posts -/

theorem total_postPage_category (id : String) (posts : List Post) :
    (PostPage.of { category := some id } posts).info.total =
      posts.countP (·.categoryId == some id) := by
  have hselect : ({ category := some id } : PostFilter).select posts =
      posts.filter (·.categoryId == some id) := rfl
  simp [PostPage.of, pageOf, PostOptions.sequence, PostOrder.sort, hselect,
    List.countP_eq_length_filter]

theorem select_unfiltered {f : PostFilter} (h : f = {}) (posts : List Post) :
    f.select posts = posts := by
  rw [h]
  rfl

theorem pageOf_first {α : Type} (items : List α) (size : UInt64) :
    (pageOf items 1 size).1 = items.take (max size.toNat 1) := by
  have hstart : ∀ n, saturatingMul (max 1 1 - 1) n = 0 := by
    intro n
    have hzero : (max 1 1 - 1 : UInt64).toNat = 0 := by decide
    rw [← UInt64.toNat_inj, toNat_saturatingMul, hzero, Nat.zero_mul]
    rfl
  rw [pageOf, hstart, toNat_max_one]
  rfl

theorem recent_eq (data : BlogData) :
    data.figures.recent = (data.postPage { size := 5 }).posts.map fun l =>
      RecentPost.of data.comments l.post := by
  have hpage : (data.postPage { size := 5 }).posts =
      ((PostOrder.newest.sort data.posts).take 5).map (ListedPost.of none) :=
    congrArg (List.map (ListedPost.of none)) (pageOf_first _ 5)
  rw [hpage, List.map_map]
  rfl

theorem mem_of_mem_postPage {opts : PostOptions} {l : ListedPost}
    (h : l ∈ (data.postPage opts).posts) :
    l.post ∈ data.posts ∧ l = ListedPost.of opts.viewer l.post := by
  obtain ⟨p, hp, rfl⟩ := List.mem_map.mp h
  have hsequence : p ∈ opts.sequence data.posts :=
    List.mem_of_mem_drop (List.mem_of_mem_take hp)
  rw [PostOptions.sequence, PostOrder.sort, List.mem_mergeSort] at hsequence
  exact ⟨(opts.select_sublist data.posts).mem hsequence, rfl⟩

theorem exists_page_of_mem (hlen : data.posts.length < 2 ^ 63) {opts : PostOptions}
    (hopts : opts.toPostFilter = {}) {p : Post} (hp : p ∈ data.posts) :
    ∃ page, ListedPost.of opts.viewer p ∈ (data.postPage { opts with page }).posts := by
  have hsequence : p ∈ opts.sequence data.posts := by
    rw [PostOptions.sequence, PostOrder.sort, List.mem_mergeSort, select_unfiltered hopts]
    exact hp
  have hpages := pagesOf_pageOf ((opts.length_sequence_le data.posts).trans_lt hlen)
  rw [← hpages.all opts.size, List.mem_flatMap] at hsequence
  obtain ⟨k, -, hk⟩ := hsequence
  exact ⟨.ofNat (k + 1), List.mem_map_of_mem hk⟩

/-! ## Details -/

theorem detail?_eq (data : BlogData) (id : String) (viewer : Option String) :
    data.detail? id viewer = (data.posts.find? (·.id == id)).map fun p =>
      ⟨ListedPost.of viewer p, (categoryOf (.ofData data) p : Id PostCategory).run⟩ := by
  unfold BlogData.detail? getPost
  have hposts : (Repository.ofData data : Repository Id).posts = pure data.posts := rfl
  rw [hposts, pure_bind]
  cases data.posts.find? (·.id == id) <;> rfl

theorem detail?_isSome_iff {id : String} {viewer : Option String} :
    (data.detail? id viewer).isSome = true ↔ ∃ p ∈ data.posts, p.id = id := by
  simp [detail?_eq]

/-! ## Agreement -/

/-- Whether the dashboard shows what listings show. -/
structure FiguresAgree (data : BlogData) : Prop where
  /-- The recent posts are the first five posts of the listing. -/
  recent : data.figures.recent.map (fun r => (r.id, r.title, r.author, r.created, r.views)) =
    (data.postPage { size := 5 }).posts.map fun l =>
      (l.post.id, l.post.title, l.post.author, l.post.created, l.post.views)
  recentComments : ∀ r ∈ data.figures.recent, data.commentTotal? r.id {} = some r.comments
  perCategory : ∀ c ∈ data.figures.perCategory,
    (data.postPage { category := some c.id }).info.total = c.posts
  /-- Comments in a state are on some post each, so they are counted post by post. -/
  perPost : (∀ c ∈ data.comments, ∃ p ∈ data.posts, p.id = c.postId) →
    ∑ id ∈ data.postIds, (data.commentTotal? id { state := some "aprobado" }).getD 0 =
        data.figures.states.approved ∧
      ∑ id ∈ data.postIds, (data.commentTotal? id { state := some "pendiente" }).getD 0 =
        data.figures.states.pending ∧
      ∑ id ∈ data.postIds, (data.commentTotal? id { state := some "rechazado" }).getD 0 =
        data.figures.states.rejected
  statesLe : data.figures.states.approved + data.figures.states.pending +
    data.figures.states.rejected ≤ data.figures.comments
  statesEqIff : data.figures.states.approved + data.figures.states.pending +
      data.figures.states.rejected = data.figures.comments ↔
    ∀ c ∈ data.comments, c.state = "aprobado" ∨ c.state = "pendiente" ∨ c.state = "rechazado"

/-- Whether an id has a detail view, comments and a place in the unfiltered listing, or none of
them, and whether the detail view shows the first post with the id as the listing does. -/
structure DetailAgrees (data : BlogData) (id : String) (viewer : Option String) : Prop where
  commentsIff : ∀ opts, (data.detail? id viewer).isSome = (data.commentPage? id opts).isSome
  listedIff : ∀ opts : PostOptions, opts.toPostFilter = {} →
    ((data.detail? id viewer).isSome = true ↔
      ∃ page, ∃ l ∈ (data.postPage { opts with page }).posts, l.post.id = id)
  listed : ∀ d, data.detail? id viewer = some d → ∃ before first after,
    data.posts = before ++ first :: after ∧ first.id = id ∧ (∀ p ∈ before, p.id ≠ id) ∧
      ∀ opts : PostOptions, opts.toPostFilter = {} → opts.viewer = viewer →
        (∃ page, d.listed ∈ (data.postPage { opts with page }).posts) ∧
          ∀ page, ∀ l ∈ (data.postPage { opts with page }).posts, l.post = first → d.listed = l

theorem figuresAgree (data : BlogData) : FiguresAgree data := by
  have hstates : data.figures.states.approved + data.figures.states.pending +
      data.figures.states.rejected = data.comments.countP fun c =>
        c.state == "aprobado" || c.state == "pendiente" || c.state == "rechazado" := by
    rw [← countP_states]
    exact congrArg (fun s : CommentCounts => s.approved + s.pending + s.rejected)
      (CommentCounts.of_eq data.comments)
  refine ⟨?_, fun r hr => ?_, fun c hc => ?_, fun h => ?_, ?_, ?_⟩
  · rw [recent_eq, List.map_map]
    rfl
  · rw [recent_eq] at hr
    obtain ⟨l, hl, rfl⟩ := List.mem_map.mp hr
    have hpost : ∃ p ∈ data.posts, p.id = l.post.id := ⟨_, (mem_of_mem_postPage hl).1, rfl⟩
    rw [RecentPost.of, BlogData.commentTotal?, BlogData.commentPage?_eq_some hpost,
      Option.map_some, total_commentPage, keep, BlogData.commentsFor,
      List.countP_eq_length_filter]
  · obtain ⟨category, -, rfl⟩ := List.mem_map.mp hc
    exact total_postPage_category category.id data.posts
  · rw [sum_commentTotal h, sum_commentTotal h, sum_commentTotal h]
    have hcounts := CommentCounts.of_eq data.comments
    exact ⟨(congrArg CommentCounts.approved hcounts).symm,
      (congrArg CommentCounts.pending hcounts).symm,
      (congrArg CommentCounts.rejected hcounts).symm⟩
  · rw [hstates]
    exact List.countP_le_length
  · rw [hstates]
    refine List.countP_eq_length.trans (forall₂_congr fun c _ => ?_)
    simp [or_assoc]

theorem detailAgrees {data : BlogData} (hlen : data.posts.length < 2 ^ 63) (id : String)
    (viewer : Option String) : DetailAgrees data id viewer := by
  refine ⟨fun opts => ?_, fun opts hopts => ?_, fun d hd => ?_⟩
  · rw [Bool.eq_iff_iff, detail?_isSome_iff, BlogData.commentPage?_isSome_iff]
  · rw [detail?_isSome_iff]
    constructor
    · rintro ⟨p, hp, rfl⟩
      obtain ⟨page, hpage⟩ := exists_page_of_mem hlen hopts hp
      exact ⟨page, _, hpage, rfl⟩
    · rintro ⟨page, l, hl, rfl⟩
      exact ⟨l.post, (mem_of_mem_postPage hl).1, rfl⟩
  · rw [detail?_eq, Option.map_eq_some_iff] at hd
    obtain ⟨first, hfirst, rfl⟩ := hd
    obtain ⟨hid, before, after, hposts, hbefore⟩ := List.find?_eq_some_iff_append.mp hfirst
    refine ⟨before, first, after, hposts, by simpa using hid, fun p hp => ?_,
      fun opts hopts hviewer => ⟨?_, fun page l hl hpost => ?_⟩⟩
    · simpa using hbefore p hp
    · have hmem : first ∈ data.posts := List.mem_of_find?_eq_some hfirst
      obtain ⟨page, hpage⟩ := exists_page_of_mem hlen hopts hmem
      exact ⟨page, hviewer ▸ hpage⟩
    · rw [(mem_of_mem_postPage hl).2, hpost, hviewer]

/-- **The views of every blog agree**: the dashboard shows what listings show, and ids have detail
views, comments and places in the listing together. For the listing to show every post on some
page, there have to be fewer than `2 ^ 63` posts. -/
theorem views_agree (data : BlogData) :
    FiguresAgree data ∧
      (data.posts.length < 2 ^ 63 → ∀ id viewer, DetailAgrees data id viewer) :=
  ⟨figuresAgree data, fun hlen id viewer => detailAgrees hlen id viewer⟩

/-- Two posts with one id and another one, and comments on them. -/
def repeatedPosts : BlogData where
  posts := [BlogData.samplePost, { BlogData.samplePost with views := 7 },
    { BlogData.samplePost with id := "post-2" }]
  comments := [BlogData.sampleComment, { BlogData.sampleComment with postId := "post-2" },
    { BlogData.sampleComment with postId := "post-2", state := "pendiente" }]
  categories := []

theorem views_agree_repeated :
    let orphaned : BlogData :=
      { repeatedPosts with comments := [{ BlogData.sampleComment with postId := "post-3" }] }
    (FiguresAgree repeatedPosts ∧
      (∀ c ∈ repeatedPosts.comments, ∃ p ∈ repeatedPosts.posts, p.id = c.postId) ∧
      ∑ id ∈ repeatedPosts.postIds,
        (repeatedPosts.commentTotal? id { state := some "aprobado" }).getD 0 = 2) ∧
    FiguresAgree orphaned ∧ repeatedPosts.posts.length < 2 ^ 63 ∧
      DetailAgrees repeatedPosts "post-1" (some "maria") ∧ DetailAgrees orphaned "post-3" none := by
  intro orphaned
  have hlen : repeatedPosts.posts.length < 2 ^ 63 := by decide
  obtain ⟨hfigures, hdetails⟩ := views_agree repeatedPosts
  obtain ⟨horphaned, hmissing⟩ := views_agree orphaned
  have hposts : ∀ c ∈ repeatedPosts.comments, ∃ p ∈ repeatedPosts.posts, p.id = c.postId := by
    decide
  exact ⟨⟨hfigures, hposts, (hfigures.perPost hposts).1⟩, horphaned, hlen,
    hdetails hlen "post-1" (some "maria"), hmissing hlen "post-3" none⟩

end Listing

end Weblog
