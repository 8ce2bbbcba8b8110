import Weblog.Proofs.Listing.Views
import Weblog.Proofs.Report.Cells
/-!
# Lines of tables

A table shows most texts with their line feeds, and a line feed in a text breaks its row in two. Of
the body of a comment only the first line is shown.

* `HasLines`: how many lines a text has; `lineBreaks_block`: those of a block.
* `OneLineEach`: whether a text has a line for each item between a first and a last line.
* `ListedPost.shown`, `ListedComment.shown`: the texts that can break a row;
  `lineBreaks_postLine`, `lineBreaks_commentLine`: **no other text does**.
* **`lines_of_tables`**: how many lines a table has, and when each item has a line of its own;
  `not_one_line_each`: tables in which an item has two lines.
-/

namespace Weblog

open Text Listing

namespace Listing

/-- The texts of a post that stand in its row, as far as the columns keep them. -/
def ListedPost.shown (l : ListedPost) : List String :=
  [clip 8 l.post.id, Calendar.displayDate l.post.created, l.post.state, truncate 12 l.post.author,
    Report.tagsText 16 l.post.tags, l.post.title]

/-- The texts of a comment that stand in its row, but for its body. -/
def ListedComment.shown (l : ListedComment) : List String :=
  [clip 8 l.comment.id, Calendar.displayDate l.comment.created, l.comment.state,
    truncate 16 l.comment.author]

end Listing

namespace Report

/-! ## Line breaks -/

def lineBreaks (s : String) : Nat := s.toList.count '\n'

/-- How many line breaks some texts have together. -/
def totalBreaks (texts : List String) : Nat := (texts.map lineBreaks).sum

/-- Whether a text consists of so many lines, each with a line feed after it. -/
def HasLines (text : String) (n : Nat) : Prop :=
  text.toList.getLast? = some '\n' ∧ lineBreaks text = n

/-- Whether a text has a line for each item, in order, between a first and a last line. -/
def OneLineEach {α : Type} (line : α → String) (items : List α) (text : String) : Prop :=
  ∃ first last, text = block ([first] ++ items.map line ++ [last]) ∧
    ∀ l ∈ [first] ++ items.map line ++ [last], '\n' ∉ l.toList

theorem isControl_lineFeed : IsControl '\n' := by decide

theorem lineBreaks_append (s t : String) : lineBreaks (s ++ t) = lineBreaks s + lineBreaks t := by
  rw [lineBreaks, String.toList_append, List.count_append]
  rfl

theorem lineBreaks_toString (n : Nat) : lineBreaks (toString n) = 0 :=
  List.count_eq_zero.mpr (not_mem_repr isControl_lineFeed n)

theorem lineBreaks_padRight (width : Nat) (s : String) :
    lineBreaks (padRight width s) = lineBreaks s :=
  count_padRight (by decide)

theorem lineBreaks_padLeft (width : Nat) (s : String) :
    lineBreaks (padLeft width s) = lineBreaks s :=
  count_padLeft (by decide)

theorem lineBreaks_paint (colors : Bool) (style : Style) (s : String) :
    lineBreaks (paint colors style s) = lineBreaks s := by
  have hescape (code : Nat) : lineBreaks (escape code) = 0 := by
    rw [escape, lineBreaks_append, lineBreaks_append, lineBreaks_toString]
    rfl
  cases colors with
  | false => rfl
  | true =>
    have hpaint : paint true style s = escape style.beginCode ++ s ++ escape style.endCode := rfl
    rw [hpaint, lineBreaks_append, lineBreaks_append, hescape, hescape, Nat.zero_add, Nat.add_zero]

theorem lineBreaks_likesText (count : Nat) (liked : Bool) :
    lineBreaks (likesText count liked) = 0 := by
  rw [likesText, lineBreaks_append, lineBreaks_toString]
  cases liked <;> rfl

theorem lineBreaks_row (cells : List String) : lineBreaks (row cells) = totalBreaks cells :=
  count_row (by decide) cells

theorem lineBreaks_block (ls : List String) :
    lineBreaks (block ls) = ls.length + totalBreaks ls := by
  induction ls with
  | nil => rfl
  | cons l ls ih =>
    have hblock : block (l :: ls) = l ++ "\n" ++ block ls := String.join_cons
    rw [hblock, lineBreaks_append, lineBreaks_append, ih, totalBreaks, totalBreaks, List.map_cons,
      List.sum_cons, List.length_cons]
    have hone : lineBreaks "\n" = 1 := rfl
    omega

/-! ## Rows -/

/-- **What breaks the row of a post** are the texts that it shows. -/
theorem lineBreaks_postLine (colors : Bool) (l : ListedPost) :
    lineBreaks (postLine colors l) = totalBreaks l.shown := by
  simp only [postLine, ListedPost.shown, lineBreaks_row, totalBreaks, List.map_cons, List.map_nil,
    List.sum_cons, List.sum_nil, idCell, dateCell, stateCell, nameCell, lineBreaks_paint,
    lineBreaks_padRight, lineBreaks_padLeft, lineBreaks_toString, lineBreaks_likesText]
  omega

/-- **What breaks the row of a comment** are the texts that it shows, but for the body. -/
theorem lineBreaks_commentLine (colors : Bool) (l : ListedComment) :
    lineBreaks (commentLine colors l) = totalBreaks l.shown := by
  have hbody : lineBreaks (truncate 60 (firstLine l.comment.body)) = 0 :=
    List.count_eq_zero.mpr <| not_mem_truncate (by decide) fun hmem =>
      (mem_of_mem_firstLine hmem).2 rfl
  simp only [commentLine, ListedComment.shown, lineBreaks_row, totalBreaks, List.map_cons,
    List.map_nil, List.sum_cons, List.sum_nil, idCell, dateCell, stateCell, nameCell,
    lineBreaks_paint, lineBreaks_padRight, lineBreaks_padLeft, lineBreaks_likesText, hbody]
  omega

theorem lineBreaks_footer {items : String} (h : lineBreaks items = 0) (info : PageMeta) :
    lineBreaks (footer items info) = 0 := by
  have hitems : lineBreaks (toString items) = 0 := h
  unfold footer
  simp only [lineBreaks_append, lineBreaks_toString, hitems]
  rfl

/-! ## Tables -/

theorem getLast?_block (ls : List String) (l : String) :
    (block (ls ++ [l])).toList.getLast? = some '\n' := by
  simp [block]

theorem totalBreaks_eq_zero_iff {texts : List String} :
    totalBreaks texts = 0 ↔ ∀ t ∈ texts, '\n' ∉ t.toList := by
  rw [totalBreaks, List.sum_eq_zero_iff_forall_eq_nat, List.forall_mem_map]
  exact forall₂_congr fun t _ => List.count_eq_zero

theorem totalBreaks_append (texts texts' : List String) :
    totalBreaks (texts ++ texts') = totalBreaks texts + totalBreaks texts' := by
  rw [totalBreaks, List.map_append, List.sum_append]
  rfl

section Table

variable {α : Type} {colors : Bool} {header footer : String} {line : α → String}
  {shown : α → List String} {items : List α}

theorem totalBreaks_rows (hline : ∀ a, lineBreaks (line a) = totalBreaks (shown a))
    (items : List α) : totalBreaks (items.map line) = totalBreaks (items.flatMap shown) := by
  induction items with
  | nil => rfl
  | cons a items ih =>
    rw [List.flatMap_cons, totalBreaks_append, ← ih, ← hline]
    rfl

variable (hheader : lineBreaks header = 0) (hfooter : lineBreaks footer = 0)
  (hline : ∀ a, lineBreaks (line a) = totalBreaks (shown a))

include hheader hfooter hline

/-- **How many lines a table has**: a header, a footer, and between them the rows with all their
breaks. -/
theorem hasLines_table :
    HasLines
      (block ([paint colors .dimmed header] ++ items.map line ++ [paint colors .dimmed footer]))
      (2 + items.length + totalBreaks (items.flatMap shown)) := by
  refine ⟨getLast?_block _ _, ?_⟩
  have hfirst : totalBreaks [paint colors .dimmed header] = 0 :=
    (lineBreaks_paint colors .dimmed header).trans hheader
  have hlast : totalBreaks [paint colors .dimmed footer] = 0 :=
    (lineBreaks_paint colors .dimmed footer).trans hfooter
  rw [lineBreaks_block, totalBreaks_append, totalBreaks_append, hfirst, hlast,
    totalBreaks_rows hline]
  simp only [List.length_append, List.length_map, List.length_singleton]
  omega

/-- **When each item has a line of its own**: no text that its row shows breaks a line. -/
theorem oneLineEach_table_iff :
    OneLineEach line items
        (block ([paint colors .dimmed header] ++ items.map line ++ [paint colors .dimmed footer])) ↔
      totalBreaks (items.flatMap shown) = 0 := by
  rw [← totalBreaks_rows hline]
  constructor
  · rintro ⟨first, last, -, hlines⟩
    refine totalBreaks_eq_zero_iff.mpr fun l hl => hlines l ?_
    exact List.mem_append_left _ (List.mem_append_right _ hl)
  · intro hrows
    refine ⟨_, _, rfl, totalBreaks_eq_zero_iff.mp ?_⟩
    rw [totalBreaks_append, totalBreaks_append, hrows]
    exact Nat.add_eq_zero_iff.mpr ⟨(lineBreaks_paint colors .dimmed header).trans hheader,
      (lineBreaks_paint colors .dimmed footer).trans hfooter⟩

end Table

theorem lines_postsTable (colors : Bool) {page : PostPage} (h : page.posts ≠ []) :
    HasLines (postsTable colors page)
      (2 + page.posts.length + totalBreaks (page.posts.flatMap ListedPost.shown)) ∧
    (OneLineEach (postLine colors) page.posts (postsTable colors page) ↔
      totalBreaks (page.posts.flatMap ListedPost.shown) = 0) := by
  have hheader : lineBreaks postsHeader = 0 := by decide
  have hfooter : lineBreaks (footer "posts" page.info) = 0 := lineBreaks_footer (by decide) _
  rw [postsTable, if_neg (by simpa using h)]
  exact ⟨hasLines_table hheader hfooter (lineBreaks_postLine colors),
    oneLineEach_table_iff hheader hfooter (lineBreaks_postLine colors)⟩

theorem lines_commentsTable (colors : Bool) {page : CommentPage} (h : page.comments ≠ []) :
    HasLines (commentsTable colors page)
      (2 + page.comments.length + totalBreaks (page.comments.flatMap ListedComment.shown)) ∧
    (OneLineEach (commentLine colors) page.comments (commentsTable colors page) ↔
      totalBreaks (page.comments.flatMap ListedComment.shown) = 0) := by
  have hheader : lineBreaks commentsHeader = 0 := by decide
  have hfooter : lineBreaks (footer "comments" page.info) = 0 := lineBreaks_footer (by decide) _
  rw [commentsTable, if_neg (by simpa using h)]
  exact ⟨hasLines_table hheader hfooter (lineBreaks_commentLine colors),
    oneLineEach_table_iff hheader hfooter (lineBreaks_commentLine colors)⟩

/-- **How many lines a table has, and when each item has a line of its own.** To a header, a footer
and a row for each item come the line breaks in what the rows show; among that is not the body of a
comment. Each item has a line of its own only if there are none. -/
theorem lines_of_tables (colors : Bool) :
    (∀ page : PostPage, page.posts ≠ [] →
      HasLines (postsTable colors page)
        (2 + page.posts.length + totalBreaks (page.posts.flatMap ListedPost.shown)) ∧
      (OneLineEach (postLine colors) page.posts (postsTable colors page) ↔
        totalBreaks (page.posts.flatMap ListedPost.shown) = 0)) ∧
    (∀ page : CommentPage, page.comments ≠ [] →
      HasLines (commentsTable colors page)
        (2 + page.comments.length + totalBreaks (page.comments.flatMap ListedComment.shown)) ∧
      (OneLineEach (commentLine colors) page.comments (commentsTable colors page) ↔
        totalBreaks (page.comments.flatMap ListedComment.shown) = 0)) :=
  ⟨fun _ h => lines_postsTable colors h, fun _ h => lines_commentsTable colors h⟩

def brokenPost : Post := { BlogData.samplePost with title := "Bienvenido\nal Blog" }

def brokenComment : Comment := { BlogData.sampleComment with author := "Usuario\nAnónimo" }

/-- A post with a broken title and one without. -/
def mixedPosts : PostPage := ⟨[.of none brokenPost, .of none BlogData.samplePost], ⟨2, 1, 10, 1⟩⟩

/-- A comment with a body of two lines. -/
def longComments : CommentPage :=
  ⟨[.of none { BlogData.sampleComment with body := "Excelente\nprimer post!" }], ⟨1, 1, 10, 1⟩⟩

theorem lines_of_tables_broken :
    (mixedPosts.posts ≠ [] ∧ HasLines (postsTable true mixedPosts) 5 ∧
      ¬ OneLineEach (postLine true) mixedPosts.posts (postsTable true mixedPosts)) ∧
    (longComments.comments ≠ [] ∧ HasLines (commentsTable true longComments) 3 ∧
      OneLineEach (commentLine true) longComments.comments (commentsTable true longComments)) := by
  have hposts : totalBreaks (mixedPosts.posts.flatMap ListedPost.shown) = 1 := by decide +kernel
  have hcomments : totalBreaks (longComments.comments.flatMap ListedComment.shown) = 0 := by
    decide +kernel
  obtain ⟨hpostLines, hpostEach⟩ := (lines_of_tables true).1 mixedPosts (by decide)
  obtain ⟨hcommentLines, hcommentEach⟩ := (lines_of_tables true).2 longComments (by decide)
  rw [hposts] at hpostLines hpostEach
  rw [hcomments] at hcommentLines hcommentEach
  exact ⟨⟨by decide, hpostLines, fun h => absurd (hpostEach.mp h) (by decide)⟩,
    ⟨by decide, hcommentLines, hcommentEach.mpr rfl⟩⟩

def brokenData : BlogData := ⟨[brokenPost], [brokenComment], []⟩

def brokenPosts : PostPage := ⟨[.of none brokenPost], ⟨1, 1, 10, 1⟩⟩

def brokenComments : CommentPage := ⟨[.of none brokenComment], ⟨1, 1, 10, 1⟩⟩

/-- **Tables of one post and of one comment that have four lines**: the title, and the name of the
author, break the row. -/
theorem not_one_line_each :
    (brokenData.postPage {} = brokenPosts ∧ HasLines (postsTable false brokenPosts) 4 ∧
      ¬ HasLines (postsTable false brokenPosts) (2 + brokenPosts.posts.length)) ∧
    (brokenData.commentPage? "post-1" {} = some brokenComments ∧
      HasLines (commentsTable false brokenComments) 4 ∧
      ¬ HasLines (commentsTable false brokenComments) (2 + brokenComments.comments.length)) := by
  have hposts : totalBreaks (brokenPosts.posts.flatMap ListedPost.shown) = 1 := by decide +kernel
  have hcomments : totalBreaks (brokenComments.comments.flatMap ListedComment.shown) = 1 := by
    decide +kernel
  have hpostLines := (lines_postsTable false (by decide : brokenPosts.posts ≠ [])).1
  have hcommentLines := (lines_commentsTable false (by decide : brokenComments.comments ≠ [])).1
  rw [hposts] at hpostLines
  rw [hcomments] at hcommentLines
  exact ⟨⟨by decide +kernel, hpostLines, fun h => absurd (hpostLines.2.symm.trans h.2) (by decide)⟩,
    ⟨by decide +kernel, hcommentLines,
      fun h => absurd (hcommentLines.2.symm.trans h.2) (by decide)⟩⟩

end Report

end Weblog
