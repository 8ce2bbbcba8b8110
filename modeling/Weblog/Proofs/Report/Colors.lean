import Weblog.Proofs.Report.Cells
import Weblog.Proofs.Report.Codes
import Weblog.Proofs.Text.Lines
import Weblog.Report.Query
import Weblog.Report.Statistics
/-!
# Reports with and without colors

* `Post.texts`, `Comment.texts`, `Category.texts` and the like: the texts that a report is made of.
* `showsAs_table`: a table shows as the one without colors if its rows do.
* **`colors_keep_texts`**: without its codes, a report with colors is the report without them.
-/

namespace Weblog

/-! ## Texts -/

def Post.texts (p : Post) : List String :=
  [p.id, p.title, p.body, p.author, p.state, p.created] ++ p.tags ++ p.categoryId.toList ++
    p.updated.toList ++ p.likes

def Comment.texts (c : Comment) : List String :=
  [c.id, c.postId, c.author, c.body, c.state, c.created] ++ c.email.toList ++ c.likes

def Category.texts (c : Category) : List String :=
  [c.id, c.name, c.description, c.created]

def Clause.texts : Clause → List String
  | .field name _ literal => [name, literal]
  | .text term => [term]

def Query.texts (q : Query) : List String :=
  q.clauses.flatMap Clause.texts

namespace Listing

def PostPage.texts (page : PostPage) : List String :=
  page.posts.flatMap (·.post.texts)

def CommentPage.texts (page : CommentPage) : List String :=
  page.comments.flatMap (·.comment.texts)

def PostCategory.texts : PostCategory → List String
  | none => []
  | unknown id => [id]
  | known c => c.texts

def PostDetail.texts (d : PostDetail) : List String :=
  d.listed.post.texts ++ d.category.texts

def RecentPost.texts (p : RecentPost) : List String :=
  [p.id, p.title, p.author, p.created]

def CategoryCount.texts (c : CategoryCount) : List String :=
  [c.id, c.name]

def Statistics.texts (s : Statistics) : List String :=
  s.recent.flatMap RecentPost.texts ++ s.perCategory.flatMap CategoryCount.texts

end Listing

namespace Report

open Text Listing Query

/-! ## Plain parts -/

theorem isControl_escapeChar : IsControl escapeChar := by decide

@[simp] theorem isPlain_append {s t : String} : IsPlain (s ++ t) ↔ IsPlain s ∧ IsPlain t := by
  simp [IsPlain]

@[simp] theorem isPlain_toString {s : String} : IsPlain (toString s) ↔ IsPlain s := Iff.rfl

@[simp] theorem isPlain_repr (n : Nat) : IsPlain n.repr :=
  not_mem_repr isControl_escapeChar n

theorem isPlain_footer {items : String} (h : IsPlain items) (info : PageMeta) :
    IsPlain (footer items info) := by
  unfold footer
  simp +decide [h]

theorem isPlain_noLines {items : String} (h : IsPlain items) (info : PageMeta) :
    IsPlain (noLines items info) := by
  unfold noLines
  split_ifs <;> simp +decide [h]

theorem isPlain_likesText (count : Nat) (liked : Bool) : IsPlain (likesText count liked) := by
  cases liked <;> simp +decide [likesText]

/-! ## Parts with colors -/

theorem showsAs_stateCell {state : String} (h : IsPlain state) (width : Nat) :
    ShowsAs (stateCell true width state) (stateCell false width state) :=
  showsAs_painted (not_mem_padRight isControl_escapeChar h width) _

/-- **A table shows as the one without colors** if its rows do. -/
theorem showsAs_table {α : Type} {items : List α} {line : Bool → α → String}
    {header footer : String} (hheader : IsPlain header) (hfooter : IsPlain footer)
    (hlines : ∀ a ∈ items, ShowsAs (line true a) (line false a)) :
    ShowsAs
      (block ([paint true .dimmed header] ++ items.map (line true) ++ [paint true .dimmed footer]))
      (block ([paint false .dimmed header] ++ items.map (line false) ++
        [paint false .dimmed footer])) := by
  have hfirst : List.Forall₂ ShowsAs [paint true .dimmed header] [paint false .dimmed header] :=
    .cons (showsAs_painted hheader _) .nil
  have hlast : List.Forall₂ ShowsAs [paint true .dimmed footer] [paint false .dimmed footer] :=
    .cons (showsAs_painted hfooter _) .nil
  have hrows : List.Forall₂ ShowsAs (items.map (line true)) (items.map (line false)) :=
    List.forall₂_map_left_iff.mpr (List.forall₂_map_right_iff.mpr (List.forall₂_same.mpr hlines))
  exact ShowsAs.block (List.rel_append (List.rel_append hfirst hrows) hlast)

/-! ## Posts -/

theorem showsAs_postLine {l : ListedPost} (h : ∀ t ∈ l.post.texts, IsPlain t) :
    ShowsAs (postLine true l) (postLine false l) := by
  have hcontrol := isControl_escapeChar
  have hid : IsPlain (idCell l.post.id) := not_mem_idCell hcontrol (h _ (by simp [Post.texts]))
  have hdate : IsPlain (dateCell l.post.created) :=
    not_mem_dateCell hcontrol (h _ (by simp [Post.texts]))
  have hauthor : IsPlain (nameCell 12 l.post.author) :=
    not_mem_nameCell hcontrol (h _ (by simp [Post.texts])) 12
  have hviews : IsPlain (padLeft 7 (toString l.post.views.toNat)) :=
    not_mem_padLeft hcontrol (isPlain_repr _) 7
  have hlikes : IsPlain (padLeft 5 (likesText l.likesCount l.isLiked)) :=
    not_mem_padLeft hcontrol (isPlain_likesText _ _) 5
  have htags : IsPlain (padRight 16 (tagsText 16 l.post.tags)) := by
    refine not_mem_padRight hcontrol (not_mem_tagsText hcontrol (fun t ht => ?_) 16) 16
    exact h t (by simp [Post.texts, ht])
  have hstate := showsAs_stateCell (h l.post.state (by simp [Post.texts])) 10
  exact ShowsAs.row <| .cons (showsAs_self hid) <| .cons (showsAs_self hdate) <| .cons hstate <|
    .cons (showsAs_self hauthor) <| .cons (showsAs_self hviews) <| .cons (showsAs_self hlikes) <|
    .cons (showsAs_self htags) <| .cons (showsAs_self (h _ (by simp [Post.texts]))) .nil

theorem showsAs_postsTable {page : PostPage} (h : ∀ t ∈ page.texts, IsPlain t) :
    ShowsAs (postsTable true page) (postsTable false page) := by
  unfold postsTable
  split_ifs
  · exact ShowsAs.block (showsAs_lines (by simpa using isPlain_noLines (by decide) page.info))
  · refine showsAs_table (by decide) (isPlain_footer (by decide) _) fun l hl => ?_
    exact showsAs_postLine fun t ht => h t (List.mem_flatMap.mpr ⟨l, hl, ht⟩)

/-! ## Details -/

theorem isPlain_categoryLines {category : PostCategory} (h : ∀ t ∈ category.texts, IsPlain t) :
    ∀ l ∈ categoryLines category, IsPlain l := by
  cases category with
  | none => exact fun l hl => absurd hl List.not_mem_nil
  | unknown id =>
    have hid : IsPlain id := h id (by simp [PostCategory.texts])
    simp +decide [categoryLines, hid]
  | known c =>
    have hname : IsPlain c.name := h c.name (by simp [PostCategory.texts, Category.texts])
    simp +decide [categoryLines, hname]

theorem isPlain_tagLines {tags : List String} (h : ∀ t ∈ tags, IsPlain t) :
    ∀ l ∈ tagLines tags, IsPlain l := by
  have htags : IsPlain (tagList tags) := not_mem_tagList isControl_escapeChar h
  unfold tagLines
  split_ifs <;> simp +decide [htags]

theorem isPlain_updateLines {updated : Option String} (h : ∀ t ∈ updated.toList, IsPlain t) :
    ∀ l ∈ updateLines updated, IsPlain l := by
  cases updated with
  | none => exact fun l hl => absurd hl List.not_mem_nil
  | some date =>
    have hdate : IsPlain (Calendar.displayDate date) :=
      not_mem_displayDate isControl_escapeChar (h date (by simp))
    simp +decide [updateLines, hdate]

theorem isPlain_bodyLines {body : String} (h : IsPlain body) : ∀ l ∈ bodyLines body, IsPlain l := by
  have hlines : ∀ l ∈ lines body.toList, IsPlain (String.ofList l) := by
    intro l hl hmem
    rw [String.toList_ofList] at hmem
    exact h (mem_of_mem_lines hl hmem).1
  unfold bodyLines
  split_ifs
  · exact fun l hl => absurd hl List.not_mem_nil
  · simpa +decide using hlines

/-- The lines about a post that come first. -/
def headLines (colors : Bool) (p : Post) : List String :=
  [paint colors .bold "Post:" ++ " " ++ p.title, "ID: " ++ p.id, "Author: " ++ p.author,
    "State: " ++ stateCell colors 0 p.state]

theorem showsAs_headLines {p : Post} (h : ∀ t ∈ p.texts, IsPlain t) :
    List.Forall₂ ShowsAs (headLines true p) (headLines false p) := by
  have hid : IsPlain ("ID: " ++ p.id) :=
    isPlain_append.mpr ⟨by decide, h _ (by simp [Post.texts])⟩
  have hauthor : IsPlain ("Author: " ++ p.author) :=
    isPlain_append.mpr ⟨by decide, h _ (by simp [Post.texts])⟩
  have htitle : IsPlain p.title := h _ (by simp [Post.texts])
  have hlabel : ShowsAs (paint true .bold "Post:") (paint false .bold "Post:") :=
    showsAs_painted (by decide) _
  have hstate := showsAs_stateCell (h p.state (by simp [Post.texts])) 0
  exact .cons ((hlabel.append (showsAs_self (by decide))).append (showsAs_self htitle)) <|
    .cons (showsAs_self hid) <| .cons (showsAs_self hauthor) <|
    .cons ((showsAs_self (by decide)).append hstate) .nil

theorem showsAs_postText {d : PostDetail} (h : ∀ t ∈ d.texts, IsPlain t) :
    ShowsAs (postText true d) (postText false d) := by
  have hpost : ∀ t ∈ d.listed.post.texts, IsPlain t :=
    fun t ht => h t (List.mem_append_left _ ht)
  have hcreated : IsPlain (Calendar.displayDate d.listed.post.created) :=
    not_mem_displayDate isControl_escapeChar (hpost _ (by simp [Post.texts]))
  unfold postText
  simp only [List.append_assoc]
  refine ShowsAs.block (List.rel_append (showsAs_headLines hpost) (showsAs_lines ?_))
  simp only [List.forall_mem_append, List.forall_mem_singleton]
  refine ⟨isPlain_categoryLines fun t ht => h t (List.mem_append_right _ ht),
    isPlain_tagLines fun t ht => hpost t (by simp [Post.texts, ht]), ?_,
    isPlain_updateLines fun t ht => hpost t (by simp_all [Post.texts]), ?_,
    isPlain_bodyLines (hpost _ (by simp [Post.texts]))⟩
  · exact isPlain_append.mpr ⟨by decide, hcreated⟩
  · split_ifs <;> simp +decide

/-! ## Comments -/

theorem showsAs_commentLine {l : ListedComment} (h : ∀ t ∈ l.comment.texts, IsPlain t) :
    ShowsAs (commentLine true l) (commentLine false l) := by
  have hcontrol := isControl_escapeChar
  have hid : IsPlain (idCell l.comment.id) :=
    not_mem_idCell hcontrol (h _ (by simp [Comment.texts]))
  have hdate : IsPlain (dateCell l.comment.created) :=
    not_mem_dateCell hcontrol (h _ (by simp [Comment.texts]))
  have hauthor : IsPlain (nameCell 16 l.comment.author) :=
    not_mem_nameCell hcontrol (h _ (by simp [Comment.texts])) 16
  have hlikes : IsPlain (padLeft 5 (likesText l.likesCount l.isLiked)) :=
    not_mem_padLeft hcontrol (isPlain_likesText _ _) 5
  have hbody : IsPlain (truncate 60 (firstLine l.comment.body)) :=
    not_mem_truncate (by decide) fun hmem =>
      h l.comment.body (by simp [Comment.texts]) (mem_of_mem_firstLine hmem).1
  have hstate := showsAs_stateCell (h l.comment.state (by simp [Comment.texts])) 10
  exact ShowsAs.row <| .cons (showsAs_self hid) <| .cons (showsAs_self hdate) <| .cons hstate <|
    .cons (showsAs_self hauthor) <| .cons (showsAs_self hlikes) <|
    .cons (showsAs_self hbody) .nil

theorem showsAs_commentsTable {page : CommentPage} (h : ∀ t ∈ page.texts, IsPlain t) :
    ShowsAs (commentsTable true page) (commentsTable false page) := by
  unfold commentsTable
  split_ifs
  · exact ShowsAs.block (showsAs_lines (by simpa using isPlain_noLines (by decide) page.info))
  · refine showsAs_table (by decide) (isPlain_footer (by decide) _) fun l hl => ?_
    exact showsAs_commentLine fun t ht => h t (List.mem_flatMap.mpr ⟨l, hl, ht⟩)

/-! ## Statistics and queries -/

theorem isPlain_recentLine {p : RecentPost} (h : ∀ t ∈ p.texts, IsPlain t) :
    IsPlain (recentLine p) := by
  have hcontrol := isControl_escapeChar
  have hdate : IsPlain (dateCell p.created) :=
    not_mem_dateCell hcontrol (h _ (by simp [RecentPost.texts]))
  have hauthor : IsPlain (nameCell 12 p.author) :=
    not_mem_nameCell hcontrol (h _ (by simp [RecentPost.texts])) 12
  have hviews : IsPlain (padLeft 6 (toString p.views.toNat)) :=
    not_mem_padLeft hcontrol (isPlain_repr _) 6
  have hcomments : IsPlain (padLeft 4 (toString p.comments)) :=
    not_mem_padLeft hcontrol (isPlain_repr _) 4
  have htitle : IsPlain p.title := h _ (by simp [RecentPost.texts])
  unfold recentLine
  simp only [isPlain_append]
  simp +decide only [hdate, hauthor, hviews, hcomments, htitle, and_true]

theorem isPlain_categoryLine {c : CategoryCount} (h : ∀ t ∈ c.texts, IsPlain t) :
    IsPlain (categoryLine c) := by
  have hname : IsPlain (nameCell 20 c.name) :=
    not_mem_nameCell isControl_escapeChar (h _ (by simp [CategoryCount.texts])) 20
  unfold categoryLine
  simp +decide [hname]

theorem isPlain_orNone {ls : List String} (h : ∀ l ∈ ls, IsPlain l) :
    ∀ l ∈ orNone ls, IsPlain l := by
  unfold orNone
  split_ifs
  · decide
  · exact h

theorem showsAs_statisticsText {s : Statistics} (h : ∀ t ∈ s.texts, IsPlain t) :
    ShowsAs (statisticsText true s) (statisticsText false s) := by
  have hrecent : ∀ l ∈ orNone (s.recent.map recentLine), IsPlain l := by
    refine isPlain_orNone (List.forall_mem_map.mpr fun p hp => isPlain_recentLine fun t ht => ?_)
    exact h t (List.mem_append_left _ (List.mem_flatMap.mpr ⟨p, hp, ht⟩))
  have hcategories : ∀ l ∈ orNone (s.perCategory.map categoryLine), IsPlain l := by
    refine isPlain_orNone (List.forall_mem_map.mpr fun c hc => isPlain_categoryLine fun t ht => ?_)
    exact h t (List.mem_append_right _ (List.mem_flatMap.mpr ⟨c, hc, ht⟩))
  refine ShowsAs.block (List.rel_append (List.rel_append (List.rel_append ?_
    (showsAs_lines hrecent)) ?_) (showsAs_lines hcategories))
  · refine .cons (showsAs_painted (by decide) _) <| .cons (showsAs_self ?_) <|
      .cons (showsAs_self ?_) <| .cons (showsAs_self ?_) <| .cons (showsAs_self (by decide)) <|
      .cons (showsAs_painted (by decide) _) <| .cons (showsAs_self ?_) <|
      .cons (showsAs_self ?_) <| .cons (showsAs_self ?_) <| .cons (showsAs_self (by decide)) <|
      .cons (showsAs_painted (by decide) _) .nil
    all_goals exact isPlain_append.mpr ⟨by decide, isPlain_repr _⟩
  · exact .cons (showsAs_self (by decide)) (.cons (showsAs_painted (by decide) _) .nil)

theorem isPlain_tokenLine {t : Token} (h : IsPlain t.text) : IsPlain (tokenLine t) := by
  have hposition : IsPlain (padLeft 4 (toString t.position)) :=
    not_mem_padLeft isControl_escapeChar (isPlain_repr _) 4
  unfold tokenLine
  simp only [isPlain_append]
  exact ⟨⟨⟨by decide, hposition⟩, by decide⟩, h⟩

theorem isPlain_operatorName (operator : Operator) : IsPlain operator.name := by
  cases operator <;> decide

theorem isPlain_clauseLine {c : Clause} (h : ∀ t ∈ c.texts, IsPlain t) :
    IsPlain (clauseLine c) := by
  unfold clauseLine
  cases c with
  | field name operator literal =>
    have hname : IsPlain name := h name (by simp [Clause.texts])
    have hliteral : IsPlain literal := h literal (by simp [Clause.texts])
    simp +decide [isPlain_operatorName, hname, hliteral]
  | text term =>
    have hterm : IsPlain term := h term (by simp [Clause.texts])
    simp +decide [hterm]

theorem showsAs_queryText {tokens : List Token} {q : Query}
    (htokens : ∀ t ∈ tokens, IsPlain t.text) (hq : ∀ t ∈ q.texts, IsPlain t) :
    ShowsAs (queryText true tokens q) (queryText false tokens q) := by
  have htokenLines : ∀ l ∈ tokens.map tokenLine, IsPlain l :=
    List.forall_mem_map.mpr fun t ht => isPlain_tokenLine (htokens t ht)
  have hclauseLines : ∀ l ∈ q.clauses.map clauseLine, IsPlain l := by
    refine List.forall_mem_map.mpr fun c hc => isPlain_clauseLine fun t ht => ?_
    exact hq t (List.mem_flatMap.mpr ⟨c, hc, ht⟩)
  unfold queryText
  split_ifs
  · exact showsAs_self (by decide)
  · refine ShowsAs.block (List.rel_append (List.rel_append (List.rel_append ?_
      (showsAs_lines htokenLines)) ?_) (showsAs_lines hclauseLines))
    · exact .cons (showsAs_painted (by decide) _) .nil
    · exact .cons (showsAs_painted (by decide) _) .nil

/-- **Colors do not change the text of a report**: without its codes, every report with colors is
the report without them, so long as no text in it has an escape character. -/
theorem colors_keep_texts :
    (∀ page : PostPage, (∀ t ∈ page.texts, IsPlain t) →
      withoutCodes (postsTable true page) = postsTable false page) ∧
    (∀ d : PostDetail, (∀ t ∈ d.texts, IsPlain t) →
      withoutCodes (postText true d) = postText false d) ∧
    (∀ page : CommentPage, (∀ t ∈ page.texts, IsPlain t) →
      withoutCodes (commentsTable true page) = commentsTable false page) ∧
    (∀ s : Statistics, (∀ t ∈ s.texts, IsPlain t) →
      withoutCodes (statisticsText true s) = statisticsText false s) ∧
    ∀ (tokens : List Token) (q : Query),
      (∀ t ∈ tokens, IsPlain t.text) → (∀ t ∈ q.texts, IsPlain t) →
        withoutCodes (queryText true tokens q) = queryText false tokens q :=
  ⟨fun _ h => (showsAs_postsTable h).withoutCodes_eq,
    fun _ h => (showsAs_postText h).withoutCodes_eq,
    fun _ h => (showsAs_commentsTable h).withoutCodes_eq,
    fun _ h => (showsAs_statisticsText h).withoutCodes_eq,
    fun _ _ htokens hq => (showsAs_queryText htokens hq).withoutCodes_eq⟩

def samplePosts : PostPage := ⟨[.of none BlogData.samplePost], ⟨1, 1, 10, 1⟩⟩

def sampleDetail : PostDetail := ⟨.of none BlogData.samplePost, .unknown "cat-9"⟩

def sampleComments : CommentPage := ⟨[.of none BlogData.sampleComment], ⟨1, 1, 10, 1⟩⟩

def sampleFigures : Statistics where
  posts := 1
  comments := 1
  categories := 2
  states := ⟨1, 0, 0⟩
  recent := [.of [BlogData.sampleComment] BlogData.samplePost]
  perCategory := BlogData.sampleCategories.map (.of [BlogData.samplePost])

def sampleQuery : Query := ⟨[.field "visitas" .atLeast "5", .text "hola mundo"]⟩

theorem colors_keep_texts_sample :
    ((∀ t ∈ samplePosts.texts, IsPlain t) ∧
      postsTable true samplePosts ≠ postsTable false samplePosts ∧
      withoutCodes (postsTable true samplePosts) = postsTable false samplePosts) ∧
    ((∀ t ∈ sampleDetail.texts, IsPlain t) ∧
      withoutCodes (postText true sampleDetail) = postText false sampleDetail) ∧
    ((∀ t ∈ sampleComments.texts, IsPlain t) ∧
      withoutCodes (commentsTable true sampleComments) = commentsTable false sampleComments) ∧
    ((∀ t ∈ sampleFigures.texts, IsPlain t) ∧
      withoutCodes (statisticsText true sampleFigures) = statisticsText false sampleFigures) ∧
    ((∀ t ∈ [⟨"visitas:>=5", 0⟩, ⟨"hola mundo", 12⟩], IsPlain (Token.text t)) ∧
      (∀ t ∈ sampleQuery.texts, IsPlain t) ∧
      withoutCodes (queryText true [⟨"visitas:>=5", 0⟩, ⟨"hola mundo", 12⟩] sampleQuery) =
        queryText false [⟨"visitas:>=5", 0⟩, ⟨"hola mundo", 12⟩] sampleQuery) := by
  obtain ⟨hposts, hdetail, hcomments, hfigures, hquery⟩ := colors_keep_texts
  have hpage : ∀ t ∈ samplePosts.texts, IsPlain t := by decide
  have hpost : ∀ t ∈ sampleDetail.texts, IsPlain t := by decide
  have hcomment : ∀ t ∈ sampleComments.texts, IsPlain t := by decide
  have hfigure : ∀ t ∈ sampleFigures.texts, IsPlain t := by decide
  have htokens : ∀ t ∈ [⟨"visitas:>=5", 0⟩, ⟨"hola mundo", 12⟩], IsPlain (Token.text t) := by decide
  have hclauses : ∀ t ∈ sampleQuery.texts, IsPlain t := by decide
  exact ⟨⟨hpage, by decide +kernel, hposts _ hpage⟩, ⟨hpost, hdetail _ hpost⟩,
    ⟨hcomment, hcomments _ hcomment⟩, ⟨hfigure, hfigures _ hfigure⟩,
    ⟨htokens, hclauses, hquery _ _ htokens hclauses⟩⟩

end Report

end Weblog
