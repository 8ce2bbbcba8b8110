import Mathlib.Algebra.Order.Floor.Semiring
import Mathlib.Data.Rat.Floor
import Mathlib.Tactic.Common
import Weblog.Listing.Comments
/-!
# Pages as slices of a listing

Page `p` of size `l` holds the items from index `(p - 1) * l` to below index `p * l`. The product is
cut at the greatest number of 64 bits, which no listing reaches, so the cut cannot be seen.

* `pageCount_le_iff`: the number of pages is the least one that has room for all items.
* `pageOf_slice`: **a page is the slice of exact indices**.
* `PagesOf`: how the pages of a sequence lie; `pagesOf_pageOf`: pages lie so.
* `length_sequence_le`: a listing has no more items than the collection it is taken from.
* **`listings_in_pages`**: post listings and comment listings show a sequence in pages.
-/

namespace Weblog.Listing

/-! ## Counting pages -/

theorem pageCount_le_iff {size : Nat} (hs : 0 < size) (total count : Nat) :
    pageCount total size ≤ count ↔ total ≤ count * size := by
  have hdiv := Nat.div_add_mod total size
  have hmod := Nat.mod_lt total hs
  have hle := Nat.div_mul_le_self total size
  unfold pageCount
  constructor
  · intro h
    split_ifs at h with hz
    · calc total = size * (total / size) := by omega
        _ ≤ size * count := Nat.mul_le_mul_left size h
        _ = count * size := Nat.mul_comm ..
    · calc total ≤ size * (total / size) + size := by omega
        _ = size * (total / size + 1) := by ring
        _ ≤ size * count := Nat.mul_le_mul_left size h
        _ = count * size := Nat.mul_comm ..
  · intro h
    have hq : total / size ≤ count := Nat.div_le_of_le_mul (by rwa [Nat.mul_comm])
    split_ifs with hz
    · exact hq
    · refine Nat.lt_of_le_of_ne hq fun e => ?_
      rw [e] at hdiv
      rw [Nat.mul_comm] at h
      omega

theorem pageCount_le_total {size : Nat} (hs : 0 < size) (total : Nat) :
    pageCount total size ≤ total :=
  (pageCount_le_iff hs total total).mpr (Nat.le_mul_of_pos_right total hs)

/-- **The number of pages is the quotient, rounded up.** -/
theorem pageCount_eq_ceil {size : Nat} (hs : 0 < size) (total : Nat) :
    pageCount total size = ⌈(total : ℚ) / size⌉₊ := by
  refine eq_of_forall_ge_iff fun count => ?_
  have hpos : (0 : ℚ) < size := by exact_mod_cast hs
  rw [pageCount_le_iff hs, Nat.ceil_le, div_le_iff₀ hpos]
  exact_mod_cast Iff.rfl

/-! ## Slices -/

section Slices

variable {α : Type}

theorem map_filter_zipIdx (start stop : Nat) (items : List α) : ∀ first : Nat,
    ((items.zipIdx first).filter fun p => start ≤ p.2 ∧ p.2 < stop).map Prod.fst =
      (items.drop (start - first)).take (stop - max start first) := by
  induction items with
  | nil => simp
  | cons x xs ih =>
    intro first
    rw [List.zipIdx_cons, List.filter_cons]
    by_cases hbefore : first < start
    · have hdrop : start - first = start - (first + 1) + 1 := by omega
      rw [if_neg (by simp; omega), ih (first + 1), hdrop, List.drop_succ_cons,
        show max start (first + 1) = max start first by omega]
    · rw [show start - first = 0 by omega, List.drop_zero]
      by_cases hstop : first < stop
      · rw [if_pos (by simp; omega), List.map_cons, ih (first + 1),
          show start - (first + 1) = 0 by omega, List.drop_zero,
          show stop - max start first = stop - max start (first + 1) + 1 by omega,
          List.take_succ_cons]
      · rw [if_neg (by simp; omega), ih (first + 1),
          show stop - max start first = 0 by omega,
          show stop - max start (first + 1) = 0 by omega, List.take_zero, List.take_zero]

theorem flatMap_slices (items : List α) (size count : Nat) :
    (List.range count).flatMap (fun k => (items.drop (k * size)).take size) =
      items.take (count * size) := by
  induction count with
  | zero => simp
  | succ count ih =>
    rw [List.range_succ, List.flatMap_append, ih, List.flatMap_singleton, Nat.succ_mul,
      List.take_add]

end Slices

/-! ## One page -/

theorem toNat_max_one (n : UInt64) : (max n 1).toNat = max n.toNat 1 := by
  rw [UInt64.max_def]
  split_ifs with h
  · have : n.toNat ≤ 1 := UInt64.le_iff_toNat_le.mp h
    rw [Nat.max_eq_right this]
    rfl
  · have : ¬ n.toNat ≤ 1 := fun e => h (UInt64.le_iff_toNat_le.mpr e)
    omega

theorem toNat_saturatingMul (a b : UInt64) :
    (saturatingMul a b).toNat = min (a.toNat * b.toNat) (UInt64.size - 1) := by
  unfold saturatingMul
  split_ifs with h
  · rw [UInt64.toNat_mul, Nat.mod_eq_of_lt h]
    omega
  · rw [UInt64.toNat_ofNat_of_lt' (by decide)]
    omega

section Page

variable {α : Type} {items : List α} (hlen : items.length < 2 ^ 63) (page size : UInt64)

include hlen in
theorem pageOf_fst : (pageOf items page size).1 =
    (items.drop ((max page.toNat 1 - 1) * max size.toNat 1)).take (max size.toNat 1) := by
  have hone : (1 : UInt64) ≤ max page 1 := by
    rw [UInt64.le_iff_toNat_le, toNat_max_one]
    exact Nat.le_max_right ..
  have hstart : (max page 1 - 1).toNat = max page.toNat 1 - 1 := by
    rw [UInt64.toNat_sub_of_le _ _ hone, toNat_max_one]
    rfl
  simp only [pageOf, toNat_saturatingMul, hstart, toNat_max_one]
  by_cases hcut : (max page.toNat 1 - 1) * max size.toNat 1 ≤ UInt64.size - 1
  · rw [Nat.min_eq_left hcut]
  · -- both beginnings lie behind the last item
    have hsize : 2 ^ 63 ≤ UInt64.size - 1 := by decide
    rw [List.drop_of_length_le (by omega), List.drop_of_length_le (by omega)]

theorem pageOf_snd : (pageOf items page size).2 =
    ⟨items.length, max page.toNat 1, max size.toNat 1,
      pageCount items.length (max size.toNat 1)⟩ := by
  simp only [pageOf, toNat_max_one]

include hlen in
/-- **A page is the slice of exact indices.** -/
theorem pageOf_slice : (pageOf items page size).1 =
    (items.zipIdx.filter fun p => (max page.toNat 1 - 1) * max size.toNat 1 ≤ p.2 ∧
      p.2 < max page.toNat 1 * max size.toNat 1).map Prod.fst := by
  have hmul : max page.toNat 1 * max size.toNat 1 =
      (max page.toNat 1 - 1) * max size.toNat 1 + max size.toNat 1 := by
    rw [← Nat.succ_mul, show (max page.toNat 1 - 1).succ = max page.toNat 1 by omega]
  rw [pageOf_fst hlen, map_filter_zipIdx, hmul]
  congr 1
  omega

end Page

/-! ## All pages -/

/-- The pages of a sequence, for every page number and size. A number or size of zero counts as
one. -/
structure PagesOf {α : Type} (items : List α) (pages : UInt64 → UInt64 → List α × PageMeta) :
    Prop where
  /-- A page holds the items of its indices in order. -/
  slice : ∀ page size, (pages page size).1 =
    (items.zipIdx.filter fun p => (max page.toNat 1 - 1) * max size.toNat 1 ≤ p.2 ∧
      p.2 < max page.toNat 1 * max size.toNat 1).map Prod.fst
  /-- Every page tells the number of items and of pages. -/
  info : ∀ page size, (pages page size).2 =
    ⟨items.length, max page.toNat 1, max size.toNat 1,
      ⌈(items.length : ℚ) / (max size.toNat 1 : ℕ)⌉₊⟩
  /-- All pages of a size, one after the other, are the sequence. -/
  all : ∀ size, (List.range (pages 1 size).2.pageCount).flatMap
    (fun k => (pages (UInt64.ofNat (k + 1)) size).1) = items
  /-- Every page but the last one is full. -/
  full : ∀ page size, max page.toNat 1 < (pages page size).2.pageCount →
    (pages page size).1.length = max size.toNat 1
  /-- The pages behind the last one are the empty ones. -/
  empty_iff : ∀ page size, (pages page size).1 = [] ↔
    (pages page size).2.pageCount < max page.toNat 1

/-- **The pages of a listing are the pages of a sequence.** -/
theorem pagesOf_pageOf {α : Type} {items : List α} (hlen : items.length < 2 ^ 63) :
    PagesOf items (pageOf items) := by
  have hpos : ∀ size : UInt64, 0 < max size.toNat 1 := fun size => by omega
  refine ⟨pageOf_slice hlen, fun page size => ?_, fun size => ?_, fun page size h => ?_,
    fun page size => ?_⟩
  · rw [pageOf_snd, pageCount_eq_ceil (hpos size)]
  · have hcount := pageCount_le_total (hpos size) items.length
    rw [pageOf_snd]
    calc _ = (List.range (pageCount items.length (max size.toNat 1))).flatMap
          (fun k => (items.drop (k * max size.toNat 1)).take (max size.toNat 1)) := by
          refine List.flatMap_congr fun k hk => ?_
          have hk' : k + 1 < UInt64.size :=
            calc k + 1 ≤ items.length := (List.mem_range.mp hk).trans_le hcount
              _ < UInt64.size := hlen.trans (by decide)
          rw [pageOf_fst hlen, UInt64.toNat_ofNat_of_lt' hk',
            show max (k + 1) 1 - 1 = k by omega]
      _ = items.take (pageCount items.length (max size.toNat 1) * max size.toNat 1) :=
          flatMap_slices ..
      _ = items := List.take_of_length_le ((pageCount_le_iff (hpos size) _ _).mp le_rfl)
  · rw [pageOf_snd] at h
    have hmore : max page.toNat 1 * max size.toNat 1 < items.length := by
      rw [← not_le, ← pageCount_le_iff (hpos size)]
      exact not_le.mpr h
    have hprev : (max page.toNat 1 - 1) * max size.toNat 1 + max size.toNat 1 =
        max page.toNat 1 * max size.toNat 1 := by
      rw [← Nat.succ_mul, show (max page.toNat 1 - 1).succ = max page.toNat 1 by omega]
    rw [pageOf_fst hlen, List.length_take, List.length_drop]
    omega
  · rw [pageOf_snd, pageOf_fst hlen, List.take_eq_nil_iff, List.drop_eq_nil_iff]
    rw [← pageCount_le_iff (hpos size)]
    have := hpos size
    constructor
    · rintro (h | h) <;> simp only at h ⊢ <;> omega
    · intro h
      exact Or.inr (by simp only at h; omega)

theorem PagesOf.map {α β : Type} {items : List α} {pages : UInt64 → UInt64 → List α × PageMeta}
    (h : PagesOf items pages) (f : α → β) :
    PagesOf (items.map f) fun page size => ((pages page size).1.map f, (pages page size).2) := by
  refine ⟨fun page size => ?_, fun page size => ?_, fun size => ?_, fun page size hp => ?_,
    fun page size => ?_⟩
  · rw [h.slice, List.zipIdx_map, List.filter_map, List.map_map, List.map_map]
    rfl
  · rw [h.info, List.length_map]
  · conv_rhs => rw [← h.all size]
    rw [List.map_flatMap]
  · rw [List.length_map]
    exact h.full page size hp
  · rw [List.map_eq_nil_iff]
    exact h.empty_iff page size

/-! ## Listings -/

theorem keep_sublist {α β : Type} (condition : Option β) (holds : β → α → Bool) (items : List α) :
    (keep condition holds items).Sublist items := by
  cases condition with
  | none => exact List.Sublist.refl items
  | some b => exact List.filter_sublist

theorem PostFilter.select_sublist (f : PostFilter) (posts : List Post) :
    (f.select posts).Sublist posts := by
  have hexact : (f.selectExact posts).Sublist posts :=
    (keep_sublist ..).trans <| (keep_sublist ..).trans <| (keep_sublist ..).trans <|
      keep_sublist ..
  have hfound : (f.selectFound (f.selectExact posts)).Sublist (f.selectExact posts) :=
    keep_sublist ..
  have hqueried : (f.select posts).Sublist (f.selectFound (f.selectExact posts)) := by
    unfold select selectQueried
    cases nonempty f.query with
    | none => exact List.Sublist.refl _
    | some q => exact List.filter_sublist
  exact hqueried.trans (hfound.trans hexact)

theorem PostOptions.length_sequence_le (opts : PostOptions) (posts : List Post) :
    (opts.sequence posts).length ≤ posts.length := by
  rw [sequence, PostOrder.sort, List.length_mergeSort]
  exact (opts.select_sublist posts).length_le

theorem CommentOptions.length_sequence_le (opts : CommentOptions) (comments : List Comment) :
    (opts.sequence comments).length ≤ comments.length := by
  rw [sequence, List.length_mergeSort]
  exact (keep_sublist ..).length_le

theorem run_listPosts (data : BlogData) (opts : PostOptions) :
    (listPosts (.ofData data) opts : Id PostPage).run = PostPage.of opts data.posts := rfl

theorem run_listComments (data : BlogData) (postId : String) (opts : CommentOptions) :
    (listComments (.ofData data) postId opts : Id (Option CommentPage)).run =
      if data.posts.any (·.id == postId) then
        some (CommentPage.of opts (data.commentsFor postId)) else none := rfl

/-- **Listings show their sequences in pages**: post listings all posts that pass the conditions, in
order, and comment listings those of a post that is there. Collections have fewer than `2 ^ 63`
items. -/
theorem listings_in_pages (data : BlogData) (hposts : data.posts.length < 2 ^ 63)
    (hcomments : data.comments.length < 2 ^ 63) :
    (∀ opts : PostOptions, PagesOf ((opts.sequence data.posts).map (ListedPost.of opts.viewer))
      fun page size =>
        let shown := (listPosts (.ofData data) { opts with page, size } : Id PostPage).run
        (shown.posts, shown.info)) ∧
      ∀ postId, (∃ p ∈ data.posts, p.id = postId) → ∀ opts : CommentOptions,
        ∃ shown : UInt64 → UInt64 → CommentPage,
          (∀ page size, (listComments (.ofData data) postId { opts with page, size } :
            Id (Option CommentPage)).run = some (shown page size)) ∧
          PagesOf ((opts.sequence (data.commentsFor postId)).map (ListedComment.of opts.viewer))
            fun page size => ((shown page size).comments, (shown page size).info) := by
  refine ⟨fun opts => ?_, fun postId hpost opts => ?_⟩
  · have hlen := (opts.length_sequence_le data.posts).trans_lt hposts
    simp only [run_listPosts]
    exact (pagesOf_pageOf hlen).map (ListedPost.of opts.viewer)
  · have hlen : (opts.sequence (data.commentsFor postId)).length < 2 ^ 63 :=
      calc _ ≤ (data.commentsFor postId).length := opts.length_sequence_le _
        _ ≤ data.comments.length := List.length_filter_le ..
        _ < 2 ^ 63 := hcomments
    have hany : data.posts.any (·.id == postId) = true := by
      obtain ⟨p, hp, rfl⟩ := hpost
      exact List.any_eq_true.mpr ⟨p, hp, beq_self_eq_true p.id⟩
    refine ⟨fun page size => CommentPage.of { opts with page, size } (data.commentsFor postId),
      fun page size => ?_, (pagesOf_pageOf hlen).map (ListedComment.of opts.viewer)⟩
    rw [run_listComments, if_pos hany]

/-- Three posts with different views, and three comments on the first one. -/
def threeOfEach : BlogData where
  posts := [("a", 1), ("b", 2), ("c", 3)].map fun (id, views) =>
    { BlogData.samplePost with id, views }
  comments := ["x", "y", "z"].map fun id => { BlogData.sampleComment with id, postId := "a" }
  categories := []

theorem listings_in_pages_three :
    let byViews : PostOptions := { order := .views }
    let posts page size := (listPosts (.ofData threeOfEach) { byViews with page, size } :
      Id PostPage).run
    (threeOfEach.posts.length < 2 ^ 63 ∧ threeOfEach.comments.length < 2 ^ 63 ∧
      ∃ p ∈ threeOfEach.posts, p.id = "a") ∧
    (PagesOf ((byViews.sequence threeOfEach.posts).map (ListedPost.of none))
        (fun page size => ((posts page size).posts, (posts page size).info)) ∧
      (posts 1 2).posts.length = 2 ∧
      ((posts 1 2).posts ++ (posts 2 2).posts).map (·.post.id) = ["c", "b", "a"]) ∧
    ∃ comments : UInt64 → UInt64 → CommentPage,
      (∀ page size, (listComments (.ofData threeOfEach) "a" { page, size } :
        Id (Option CommentPage)).run = some (comments page size)) ∧
      PagesOf ((({} : CommentOptions).sequence (threeOfEach.commentsFor "a")).map
        (ListedComment.of none)) (fun page size =>
          ((comments page size).comments, (comments page size).info)) ∧
      (comments 2 1).comments.length = 1 ∧ (comments 4 1).comments = [] := by
  intro byViews posts
  obtain ⟨hposts, hcomments⟩ := listings_in_pages threeOfEach (by decide) (by decide)
  have hpost : ∃ p ∈ threeOfEach.posts, p.id = "a" := ⟨_, List.mem_cons_self, rfl⟩
  have hpages := hposts byViews
  obtain ⟨comments, hshown, hcommentPages⟩ := hcomments "a" hpost {}
  have hsequence : byViews.sequence threeOfEach.posts = threeOfEach.posts.reverse := by
    change PostOrder.views.sort threeOfEach.posts = _
    simp [threeOfEach, PostOrder.sort, PostOrder.compare, List.mergeSort,
      List.MergeSort.Internal.splitInTwo, compare, compareOfLessAndEq]
  have hcount : ∀ page, (posts page 2).info.pageCount = 2 := fun page => by
    change (pageOf (byViews.sequence threeOfEach.posts) page 2).2.pageCount = 2
    rw [pageOf_snd, hsequence]
    rfl
  have hcommentCount : ∀ page, (comments page 1).info.pageCount = 3 := fun page => by
    have hpage : some (CommentPage.of { page, size := 1 } (threeOfEach.commentsFor "a")) =
        some (comments page 1) := hshown page 1
    rw [← Option.some.inj hpage]
    change (pageOf (({} : CommentOptions).sequence
      (threeOfEach.commentsFor "a")) page 1).2.pageCount = 3
    rw [pageOf_snd, CommentOptions.sequence, List.length_mergeSort]
    rfl
  have hall : (List.range (posts 1 2).info.pageCount).flatMap _ = _ := hpages.all 2
  rw [hcount, hsequence] at hall
  have hboth : (posts 1 2).posts ++ ((posts 2 2).posts ++ []) = _ := hall
  refine ⟨⟨by decide, by decide, hpost⟩, ⟨hpages, hpages.full 1 2 ?_, ?_⟩, comments, hshown,
    hcommentPages, hcommentPages.full 2 1 ?_, (hcommentPages.empty_iff 4 1).mpr ?_⟩
  · rw [hcount]
    decide
  · rw [← List.append_nil (posts 2 2).posts, hboth]
    rfl
  · rw [hcommentCount]
    decide
  · rw [hcommentCount]
    decide

end Weblog.Listing
