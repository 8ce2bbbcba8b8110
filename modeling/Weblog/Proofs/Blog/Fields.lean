import Mathlib.Tactic.Common
import Weblog.Listing.Comments
import Weblog.Proofs.Entries
import Weblog.Proofs.Query.Alike
/-!
# The fields of records and of their JSON forms

A record tells queries its fields by a table of its own, and its JSON form by the members it has.
Both tables have the same names and values; only what is computed is told by one side alone.

* `Value.ofJson_text`, `Value.ofJson_optional`, `Value.ofJson_list`, `Value.ofJson_count`: the value
  of what a codec writes.
* `Post.sameFields`, `Comment.sameFields`, `Category.sameFields`: a record and its JSON form.
* `Post.sameFields_listed`, `Comment.sameFields_listed`: a record and what a listing shows of it.
* **`queries_see_json_forms`**: queries keep records and their JSON forms at the same places.
-/

namespace Weblog

open Json Listing Record

/-! ## Values of what is written -/

namespace Value

@[simp] theorem ofJson_text (s : String) : ofJson (Codec.text.write s) = .string s := rfl

@[simp] theorem ofJson_optional (s : Option String) :
    ofJson ((Codec.optional .text).write s) = .ofOption s := by
  cases s <;> rfl

@[simp] theorem ofJson_list (texts : List String) :
    ofJson ((Codec.list .text).write texts) = .ofStrings texts := by
  have hitems : ofJsonItems (texts.map Json.string) = texts.map .string := by
    induction texts with
    | nil => rfl
    | cons s rest ih => rw [List.map_cons, ofJsonItems, ih]; rfl
  exact congrArg Value.sequence hitems

/-- **An integer is converted as the natural number that it is.** -/
@[simp] theorem ofJson_ofNat (n : Nat) : ofJson (.ofNat n) = .ofNat n := by
  have hsign : decide ((n : Int) < 0) = false := by simp
  simp only [Json.ofNat, ofJson, ofNat, Numeral.toBinary64, Binary64.ofInt, Binary64.ofNat, hsign,
    Int.natAbs_natCast]

@[simp] theorem ofJson_count (n : UInt64) : ofJson (Codec.count.write n) = .ofNat n.toNat :=
  ofJson_ofNat n.toNat

end Value

/-! ## Fields of objects -/

theorem field_object (members : List (String × Json)) (name : String) :
    field (Json.object members) name = ((members.lookup name).map Value.ofJson).getD .absent := by
  simp only [field, Json.get?]
  cases members.lookup name <;> rfl

theorem field_object_append (members more : List (String × Json)) (name : String) :
    field (Json.object (members ++ more)) name =
      if name ∈ members.map Prod.fst then field (Json.object members) name
      else field (Json.object more) name := by
  rw [field_object, field_object, field_object, List.lookup_append]
  split_ifs with h
  · obtain ⟨⟨n, value⟩, hmem, rfl⟩ := List.mem_map.mp h
    obtain ⟨found, hfound⟩ := Option.isSome_iff_exists.mp
      (List.lookup_isSome_iff.mpr ⟨_, hmem, beq_self_eq_true n⟩)
    rw [hfound]
    rfl
  · have hnone : members.lookup name = none :=
      List.lookup_eq_none_iff.mpr fun m hm => by
        rw [bne_iff_ne]
        rintro rfl
        exact h (List.mem_map_of_mem hm)
    rw [hnone]
    rfl

theorem field_object_of_not_mem {members : List (String × Json)} {name : String}
    (h : name ∉ members.map Prod.fst) : field (Json.object members) name = .absent := by
  have hnil := field_object_append members [] name
  rw [List.append_nil, if_neg h] at hnil
  exact hnil

theorem map_fst_members (fields : List Field) (row : Row fields) :
    (Row.members fields row).map Prod.fst = fields.map Field.name := by
  induction fields with
  | nil => rfl
  | cons f fields ih => exact congrArg (f.name :: ·) (ih row.2)

/-! ## Records as objects -/

theorem sameFields_object {α : Type} [Record α] {r : α} {fields : List Field} {row : Row fields}
    {hidden : String}
    (h : ∀ name, name ≠ hidden → field r name = field (Json.object (Row.members fields row)) name) :
    SameFields (fields.map Field.name) hidden r (Json.object (Row.members fields row)) := by
  refine ⟨h, fun name hname hne => ?_⟩
  have habsent : field (Json.object (Row.members fields row)) name = .absent :=
    field_object_of_not_mem (by rwa [map_fst_members])
  exact ⟨(h name hne).trans habsent, habsent⟩

theorem Post.sameFields (p : Post) :
    SameFields (fields.map Field.name) "likesCount" p (codec.write p) := by
  refine sameFields_object fun name hname => ?_
  rw [field_object]
  simp only [field, Row.members, fields, toRow, lookup_cons_ite, List.lookup_nil]
  split <;> simp_all

theorem Comment.sameFields (c : Comment) :
    SameFields (fields.map Field.name) "likesCount" c (codec.write c) := by
  refine sameFields_object fun name hname => ?_
  rw [field_object]
  simp only [field, Row.members, fields, toRow, lookup_cons_ite, List.lookup_nil]
  split <;> simp_all

theorem Category.sameFields (c : Category) :
    SameFields (fields.map Field.name) "likesCount" c (codec.write c) := by
  refine sameFields_object fun name _ => ?_
  rw [field_object]
  simp only [field, Row.members, fields, toRow, lookup_cons_ite, List.lookup_nil]
  split <;> simp_all

/-! ## What listings show -/

theorem sameFields_listed {α : Type} [Record α] {r : α} {fields : List Field} {row : Row fields}
    {likes : Nat} (liked : Bool)
    (h : SameFields (fields.map Field.name) "likesCount" r (Json.object (Row.members fields row)))
    (hnew : "likesCount" ∉ fields.map Field.name) (hlikes : field r "likesCount" = .ofNat likes) :
    SameFields (fields.map Field.name ++ ["likesCount"]) "isLiked" r
      (Json.object (Row.members fields row ++
        [("likesCount", .ofNat likes), ("isLiked", .bool liked)])) := by
  have halike : ∀ name, name ≠ "isLiked" → field r name =
      field (Json.object (Row.members fields row ++
        [("likesCount", .ofNat likes), ("isLiked", .bool liked)])) name := by
    intro name hname
    rw [field_object_append, map_fst_members]
    by_cases hcount : name = "likesCount"
    · rw [hcount, if_neg hnew, hlikes, field_object]
      simp
    · split_ifs with hmem
      · exact h.alike name hcount
      · rw [(h.absent name hmem hcount).1, field_object_of_not_mem (by simp [hname, hcount])]
  refine ⟨halike, fun name hname hne => ?_⟩
  rw [List.mem_append, not_or, List.mem_singleton] at hname
  have habsent := (h.absent name hname.1 hname.2).1
  exact ⟨habsent, (halike name hne).symm.trans habsent⟩

theorem Post.sameFields_listed (viewer : Option String) (p : Post) :
    SameFields (fields.map Field.name ++ ["likesCount"]) "isLiked" p
      (ListedPost.of viewer p).toJson :=
  Weblog.sameFields_listed _ p.sameFields (by decide) rfl

theorem Comment.sameFields_listed (viewer : Option String) (c : Comment) :
    SameFields (fields.map Field.name ++ ["likesCount"]) "isLiked" c
      (ListedComment.of viewer c).toJson :=
  Weblog.sameFields_listed _ c.sameFields (by decide) rfl

theorem eq_of_mem_posts {opts : PostOptions} {posts : List Post} {l : ListedPost}
    (h : l ∈ (PostPage.of opts posts).posts) : l = ListedPost.of opts.viewer l.post := by
  obtain ⟨p, -, rfl⟩ := List.mem_map.mp h
  rfl

theorem eq_of_mem_comments {opts : CommentOptions} {comments : List Comment}
    {l : ListedComment} (h : l ∈ (CommentPage.of opts comments).comments) :
    l = ListedComment.of opts.viewer l.comment := by
  obtain ⟨c, -, rfl⟩ := List.mem_map.mp h
  rfl

theorem page_of_listComments {data : BlogData} {postId : String} {opts : CommentOptions}
    {page : CommentPage}
    (h : (listComments (.ofData data) postId opts : Id (Option CommentPage)).run = some page) :
    page = CommentPage.of opts (data.commentsFor postId) := by
  have hrun : (if data.posts.any (·.id == postId) then
      some (CommentPage.of opts (data.commentsFor postId)) else none) = some page := h
  split_ifs at hrun
  exact (Option.some.inj hrun).symm

/-! ## Queries -/

/-- The items of the array that a member of an object is. -/
def Json.itemsOf (name : String) (value : Json) : List Json :=
  match value.get? name with
  | some (.array items) => items
  | _ => []

/-- **Queries see records and their JSON forms alike.** A record and the object that it is written
as have the same fields, the number of likes apart, and so have a listed record and the object that
its page shows, but for the mark of the viewer. A query that does not name the field in question
keeps the same places of both. -/
theorem queries_see_json_forms :
    (∀ p : Post, SameFields (Post.fields.map Field.name) "likesCount" p (Post.codec.write p)) ∧
      (∀ c : Comment,
        SameFields (Comment.fields.map Field.name) "likesCount" c (Comment.codec.write c)) ∧
      (∀ c : Category,
        SameFields (Category.fields.map Field.name) "likesCount" c (Category.codec.write c)) ∧
      (∀ data opts, ∀ l ∈ (listPosts (.ofData data) opts : Id PostPage).run.posts,
        SameFields (Post.fields.map Field.name ++ ["likesCount"]) "isLiked" l.post l.toJson) ∧
      (∀ data postId opts page,
        (listComments (.ofData data) postId opts : Id (Option CommentPage)).run = some page →
        ∀ l ∈ page.comments, SameFields (Comment.fields.map Field.name ++ ["likesCount"]) "isLiked"
          l.comment l.toJson) ∧
      ∀ (query : String) (searched : List String),
        ("likesCount" ∉ (Query.parse query).namedFields searched →
          (∀ posts : List Post, (Query.parse query).keptPlaces searched
              (posts.map Post.codec.write) = (Query.parse query).keptPlaces searched posts) ∧
            (∀ comments : List Comment, (Query.parse query).keptPlaces searched
              (comments.map Comment.codec.write) =
                (Query.parse query).keptPlaces searched comments) ∧
            ∀ categories : List Category, (Query.parse query).keptPlaces searched
              (categories.map Category.codec.write) =
                (Query.parse query).keptPlaces searched categories) ∧
        ("isLiked" ∉ (Query.parse query).namedFields searched →
          (∀ data opts,
            let page := (listPosts (.ofData data) opts : Id PostPage).run
            (Query.parse query).keptPlaces searched (page.toJson.itemsOf "posts") =
              (Query.parse query).keptPlaces searched (page.posts.map (·.post))) ∧
            ∀ data postId opts page,
              (listComments (.ofData data) postId opts : Id (Option CommentPage)).run =
                some page →
              (Query.parse query).keptPlaces searched (page.toJson.itemsOf "comments") =
                (Query.parse query).keptPlaces searched (page.comments.map (·.comment))) := by
  have hposts : ∀ data opts, ∀ l ∈ (listPosts (.ofData data) opts : Id PostPage).run.posts,
      SameFields (Post.fields.map Field.name ++ ["likesCount"]) "isLiked" l.post l.toJson := by
    intro data opts l hl
    rw [eq_of_mem_posts hl]
    exact l.post.sameFields_listed opts.viewer
  have hcomments : ∀ data postId opts page,
      (listComments (.ofData data) postId opts : Id (Option CommentPage)).run = some page →
      ∀ l ∈ page.comments, SameFields (Comment.fields.map Field.name ++ ["likesCount"]) "isLiked"
        l.comment l.toJson := by
    intro data postId opts page hpage l hl
    rw [page_of_listComments hpage] at hl
    rw [eq_of_mem_comments hl]
    exact l.comment.sameFields_listed opts.viewer
  refine ⟨Post.sameFields, Comment.sameFields, Category.sameFields, hposts, hcomments,
    fun query searched => ⟨fun hq => ⟨fun posts => ?_, fun comments => ?_, fun categories => ?_⟩,
      fun hq => ⟨fun data opts => ?_, fun data postId opts page hpage => ?_⟩⟩⟩
  · exact Query.keptPlaces_map posts (fun p _ => p.sameFields) hq
  · exact Query.keptPlaces_map comments (fun c _ => c.sameFields) hq
  · exact Query.keptPlaces_map categories (fun c _ => c.sameFields) hq
  · exact Query.keptPlaces_forms (hposts data opts) hq
  · exact Query.keptPlaces_forms (hcomments data postId opts page hpage) hq

theorem queries_see_json_forms_sample :
    let post := ListedPost.of none BlogData.samplePost
    let page := (listPosts (.ofData .sample) {} : Id PostPage).run
    let comments := CommentPage.of {} [BlogData.sampleComment]
    let q := Query.parse "autor:Admin visitas:<5 BLOG"
    let q' := Query.parse "likesCount:0"
    (post ∈ page.posts ∧ SameFields (Post.fields.map Field.name ++ ["likesCount"]) "isLiked"
        BlogData.samplePost post.toJson) ∧
      (listComments (.ofData .sample) "post-1" {} : Id (Option CommentPage)).run = some comments ∧
      ("likesCount" ∉ q.namedFields Post.searchFields ∧
        q.keptPlaces Post.searchFields (BlogData.sample.posts.map Post.codec.write) =
          q.keptPlaces Post.searchFields BlogData.sample.posts ∧
        q.keptPlaces Post.searchFields BlogData.sample.posts = [0]) ∧
      "isLiked" ∉ q'.namedFields Post.searchFields ∧
        q'.keptPlaces Post.searchFields (page.toJson.itemsOf "posts") =
          q'.keptPlaces Post.searchFields (page.posts.map (·.post)) ∧
        q'.keptPlaces Post.searchFields (comments.toJson.itemsOf "comments") =
          q'.keptPlaces Post.searchFields (comments.comments.map (·.comment)) := by
  intro post page comments q q'
  have hpost : post ∈ page.posts := by decide +kernel
  have hcomments : (listComments (.ofData .sample) "post-1" {} : Id (Option CommentPage)).run =
      some comments := by decide +kernel
  have hq : "likesCount" ∉ q.namedFields Post.searchFields := by decide +kernel
  have hq' : "isLiked" ∉ q'.namedFields Post.searchFields := by decide +kernel
  obtain ⟨-, -, -, hlisted, -, hplaces⟩ := queries_see_json_forms
  exact ⟨⟨hpost, hlisted .sample {} post hpost⟩, hcomments,
    ⟨hq, ((hplaces _ _).1 hq).1 _, by decide +kernel⟩, hq', ((hplaces _ _).2 hq').1 .sample {},
    ((hplaces _ _).2 hq').2 .sample "post-1" {} comments hcomments⟩

end Weblog
