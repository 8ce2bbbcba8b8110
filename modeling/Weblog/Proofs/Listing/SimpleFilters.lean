import Weblog.Proofs.Listing.Conditions
import Weblog.Proofs.Listing.CutOffs
import Weblog.Proofs.Query.Comparisons
import Weblog.Proofs.Text.LowerCase
/-!
# Simple conditions and queries

The simple conditions of a listing look at the members of a post, and a query looks at its fields.
A search is a query for a phrase that does not see the author, and a condition on the author, the
state or the category is a query that compares more strictly.

* `phraseQuery`: a query for a phrase; `clauses_phraseQuery`: it is one clause.
* `PostOptions.sequence_eq_filter`: a listing with one condition more is filtered, whatever its
  order.
* `Extends`: whether a listing shows all posts of another one, among others;
  `extends_of_admits`: it does if its conditions ask for less.
* **`simple_filters_agree`**: simple conditions and queries agree in every order.
-/

namespace Weblog

open Query Text

/-! ## Phrases -/

theorem Query.searchFinds_iff {α : Type} [Record α] {fields : List String} {record : α}
    {t : String} :
    searchFinds fields record t = true ↔
      ∃ name ∈ fields, (Record.field record name).isTruthy = true ∧
        (lower t).toList <:+: (lower (Record.field record name).text).toList := by
  simp only [searchFinds, List.any_eq_true, Bool.and_eq_true, occursIn_iff_isInfix]

/-- A query for a phrase. -/
def phraseQuery (t : String) : String := "\"" ++ t ++ "\""

theorem clauses_phraseQuery {t : String} (hne : t ≠ "") (hquote : '"' ∉ t.toList)
    (hcolon : ':' ∉ t.toList ∨ t.toList.head? = some ':') :
    (parse (phraseQuery t)).clauses = [.text t] := by
  have hword : wordOf t.toList = [t.toList] := by
    rw [wordOf, if_neg (by simpa using hne)]
  have hwords : words [] false (phraseQuery t).toList = [t.toList] := by
    have htext : (phraseQuery t).toList = '"' :: (t.toList ++ '"' :: []) := by simp [phraseQuery]
    rw [htext, words, if_pos rfl, Bool.not_false, words_quoted hquote, words, List.nil_append,
      hword]
  rw [clauses_parse, hwords, List.map_singleton, Clause.ofChars_text hcolon, String.ofList_toList]

namespace Listing

theorem phraseQuery_ne_empty (t : String) : phraseQuery t ≠ "" := by
  intro h
  have hlist := congrArg String.toList h
  simp [phraseQuery] at hlist

theorem searched_string_iff {t : String} (hne : t ≠ "") (s : String) :
    (Value.string s).isTruthy = true ∧
        (lower t).toList <:+: (lower (Value.string s).text).toList ↔
      (lower t).toList <:+: (lower s).toList := by
  rw [text_string, and_iff_right_iff_imp]
  intro hwithin
  have hs : s ≠ "" := by
    rintro rfl
    exact hne (toList_lower_eq_nil_iff.mp (List.infix_nil.mp hwithin))
  simpa [Value.isTruthy] using hs

/-- **A phrase is found** in title, body or author. -/
theorem searchFinds_post_iff {t : String} (hne : t ≠ "") (p : Post) :
    searchFinds Post.searchFields p t = true ↔
      titleOrBodyContains t p = true ∨ (lower t).toList <:+: (lower p.author).toList := by
  have htitle : Record.field p "titulo" = .string p.title := rfl
  have hbody : Record.field p "contenido" = .string p.body := rfl
  have hauthor : Record.field p "autor" = .string p.author := rfl
  simp only [searchFinds_iff, Post.searchFields, List.exists_mem_cons_iff, List.not_mem_nil,
    false_and, exists_false, or_false, htitle, hbody, hauthor, searched_string_iff hne,
    PostFilter.titleOrBodyContains_iff, or_assoc]

theorem holds_phraseQuery {t : String} (hne : t ≠ "") (hquote : '"' ∉ t.toList)
    (hcolon : ':' ∉ t.toList ∨ t.toList.head? = some ':') (p : Post) :
    (parse (phraseQuery t)).holds Post.searchFields p = searchFinds Post.searchFields p t := by
  rw [Query.holds, clauses_phraseQuery hne hquote hcolon]
  exact Bool.and_true _

/-! ## Conditions that are added -/

namespace PostFilter

theorem admits_search_iff (f : PostFilter) (t : String) (p : Post) :
    { f with search := some t }.Admits p ↔
      { f with search := none }.Admits p ∧ titleOrBodyContains t p = true := by
  have hsearch : (t ≠ "" → titleOrBodyContains t p = true) ↔ titleOrBodyContains t p = true := by
    refine ⟨fun h => ?_, fun h _ => h⟩
    by_cases hne : t = ""
    · have hnil : (lower t).toList = [] := toList_lower_eq_nil_iff.mpr hne
      rw [titleOrBodyContains_iff, hnil]
      exact .inl List.nil_infix
    · exact h hne
  simp only [admits_iff, ← titleOrBodyContains_iff, Option.mem_def, Option.some.injEq, forall_eq',
    reduceCtorEq, false_imp_iff, implies_true, true_and, hsearch, and_comm,
    and_left_comm]

theorem admits_query_iff (f : PostFilter) {q : String} (hq : q ≠ "") (p : Post) :
    { f with query := some q }.Admits p ↔
      { f with query := none }.Admits p ∧ (parse q).holds Post.searchFields p = true := by
  simp [admits_iff, hq, and_assoc]

end PostFilter

/-- The members of a post that a listing can be asked to equal a text. -/
inductive ExactField
  | author
  | state
  | category
  deriving DecidableEq

namespace ExactField

/-- The name of the field in queries. -/
def name : ExactField → String
  | author => "autor"
  | state => "estado"
  | category => "categoriaId"

def value (p : Post) : ExactField → Option String
  | author => some p.author
  | state => some p.state
  | category => p.categoryId

/-- A listing that asks for a text in the field, or for none. -/
def ask (text : Option String) (opts : PostOptions) : ExactField → PostOptions
  | author => { opts with author := text }
  | state => { opts with state := text }
  | category => { opts with category := text }

theorem field_name (field : ExactField) (p : Post) :
    Record.field p field.name = .ofOption (field.value p) := by
  cases field <;> rfl

theorem isPlainName_name (field : ExactField) : IsPlainName field.name := by
  cases field <;> decide

theorem order_ask (field : ExactField) (text : Option String) (opts : PostOptions) :
    (field.ask text opts).order = opts.order := by
  cases field <;> rfl

theorem admits_ask_iff (field : ExactField) (x : String) (opts : PostOptions) (p : Post) :
    (field.ask (some x) opts).Admits p ↔
      (field.ask none opts).Admits p ∧ field.value p = some x := by
  cases field with
  | author | state | category =>
    simp only [PostFilter.admits_iff, ask, value, Option.mem_def, Option.some.injEq, forall_eq',
      reduceCtorEq, false_imp_iff, implies_true, true_and, and_comm, and_left_comm]

theorem admits_ask_query_iff (field : ExactField) (text : Option String) {q : String} (hq : q ≠ "")
    (opts : PostOptions) (p : Post) :
    (field.ask text { opts with query := some q }).Admits p ↔
      (field.ask text { opts with query := none }).Admits p ∧
        (parse q).holds Post.searchFields p = true := by
  cases field with
  | author => exact PostFilter.admits_query_iff { opts.toPostFilter with author := text } hq p
  | state => exact PostFilter.admits_query_iff { opts.toPostFilter with state := text } hq p
  | category => exact PostFilter.admits_query_iff { opts.toPostFilter with category := text } hq p

/-- **A field equals the text that it is asked for.** -/
theorem compare_of_value {field : ExactField} {x : String} {p : Post}
    (h : field.value p = some x) : Query.compare (Record.field p field.name) x .equal = true := by
  rw [field_name, h, Value.ofOption, compare_string]
  exact Operands.satisfy_equal (Operands.order_of_self x)

end ExactField

/-! ## Listings within listings -/

theorem PostOrder.filter_sort (order : PostOrder) (p : Post → Bool) (posts : List Post) :
    (order.sort posts).filter p = order.sort (posts.filter p) := by
  have horder := IsTotalPreorder.of_transCmp order.compare
  exact filter_mergeSort horder.trans horder.isLE_or p posts

theorem PostOptions.mem_sequence_iff {opts : PostOptions} {posts : List Post} {p : Post} :
    p ∈ opts.sequence posts ↔ p ∈ posts ∧ opts.Admits p := by
  rw [sequence, PostFilter.select_eq_filter, PostOrder.sort, List.mem_mergeSort, List.mem_filter,
    decide_eq_true_iff]

/-- **A listing with one condition more is filtered**, whatever its order. -/
theorem PostOptions.sequence_eq_filter {opts base : PostOptions} (horder : opts.order = base.order)
    {posts : List Post} {p : Post → Bool}
    (h : ∀ a ∈ posts, opts.Admits a ↔ base.Admits a ∧ p a = true) :
    opts.sequence posts = (base.sequence posts).filter p := by
  rw [sequence, sequence, PostOrder.filter_sort, PostFilter.select_eq_filter,
    PostFilter.select_eq_filter, List.filter_filter, horder]
  refine congrArg base.order.sort (List.filter_congr fun a ha => ?_)
  rw [Bool.eq_iff_iff, Bool.and_eq_true, decide_eq_true_iff, decide_eq_true_iff, h a ha, and_comm]

/-- Whether a listing shows all posts of another one, in the same order and among others, which its
total counts as well. -/
structure Extends (data : BlogData) (part whole : PostOptions) : Prop where
  sequence : part.sequence data.posts =
    (whole.sequence data.posts).filter (· ∈ part.sequence data.posts)
  total : (data.postPage whole).info.total = (data.postPage part).info.total +
    (whole.sequence data.posts).countP (· ∉ part.sequence data.posts)

/-- **A listing whose conditions ask for less** shows all posts, among others. -/
theorem extends_of_admits {data : BlogData} {part whole : PostOptions}
    (horder : part.order = whole.order)
    (h : ∀ p ∈ data.posts, part.Admits p → whole.Admits p) : Extends data part whole := by
  have hsequence : part.sequence data.posts =
      (whole.sequence data.posts).filter (· ∈ part.sequence data.posts) := by
    refine PostOptions.sequence_eq_filter horder fun p hp => ?_
    rw [decide_eq_true_iff, PostOptions.mem_sequence_iff]
    exact ⟨fun ha => ⟨h p hp ha, hp, ha⟩, fun ha => ha.2.2⟩
  refine ⟨hsequence, ?_⟩
  have hlength : (part.sequence data.posts).length =
      (whole.sequence data.posts).countP (· ∈ part.sequence data.posts) := by
    rw [List.countP_eq_length_filter, ← hsequence]
  calc (data.postPage whole).info.total = (whole.sequence data.posts).length := rfl
    _ = (part.sequence data.posts).length +
        (whole.sequence data.posts).countP (· ∉ part.sequence data.posts) := by
      rw [List.length_eq_countP_add_countP (· ∈ part.sequence data.posts), ← hlength]
      simp

/-- **A listing that asks for one of two things** shows the posts of the listing that asks for the
first one, and the posts with the second one. -/
theorem sequence_eq_filter_or {data : BlogData} {base first either : PostOptions}
    (hfirst : first.order = base.order) (heither : either.order = base.order)
    {A B : Post → Prop} [DecidablePred B] (hA : ∀ p, first.Admits p ↔ base.Admits p ∧ A p)
    (hAB : ∀ p, either.Admits p ↔ base.Admits p ∧ (A p ∨ B p)) :
    either.sequence data.posts =
        (base.sequence data.posts).filter (fun p => p ∈ first.sequence data.posts ∨ B p) ∧
      Extends data first either := by
  constructor
  · refine PostOptions.sequence_eq_filter heither fun p hp => ?_
    rw [decide_eq_true_iff, PostOptions.mem_sequence_iff, hAB, hA]
    exact and_congr_right fun hbase => or_congr_left (by simp [hp, hbase])
  · refine extends_of_admits (hfirst.trans heither.symm) fun p _ hp => ?_
    obtain ⟨hbase, ha⟩ := (hA p).mp hp
    exact (hAB p).mpr ⟨hbase, .inl ha⟩

/-! ## Agreement -/

/-- Whether a query for a phrase shows, in the order of the listing, what a search for the phrase
shows and the posts whose author contains it. -/
structure SearchAgrees (data : BlogData) (opts : PostOptions) (t : String) : Prop where
  sequence : { opts with search := none, query := some (phraseQuery t) }.sequence data.posts =
    ({ opts with search := none, query := none }.sequence data.posts).filter fun p =>
      p ∈ { opts with search := some t, query := none }.sequence data.posts ∨
        (lower t).toList <:+: (lower p.author).toList
  searched : Extends data { opts with search := some t, query := none }
    { opts with search := none, query := some (phraseQuery t) }

/-- Whether a query that compares a field shows, in the order of the listing, what a listing with
the field's text shows. -/
structure ExactAgrees (data : BlogData) (opts : PostOptions) (field : ExactField) (x : String) :
    Prop where
  sequence : (field.ask (some x) { opts with query := none }).sequence data.posts =
    ((field.ask none { opts with query := some (cutQuery field.name .equal x) }).sequence
      data.posts).filter fun p => field.value p = some x
  asked : Extends data (field.ask (some x) { opts with query := none })
    (field.ask none { opts with query := some (cutQuery field.name .equal x) })

theorem searchAgrees (data : BlogData) (opts : PostOptions) {t : String} (hne : t ≠ "")
    (hquote : '"' ∉ t.toList) (hcolon : ':' ∉ t.toList ∨ t.toList.head? = some ':') :
    SearchAgrees data opts t := by
  have hsearch : ∀ p, { opts with search := some t, query := none }.Admits p ↔
      { opts with search := none, query := none }.Admits p ∧ titleOrBodyContains t p = true :=
    PostFilter.admits_search_iff { opts.toPostFilter with query := none } t
  have hquery : ∀ p, { opts with search := none, query := some (phraseQuery t) }.Admits p ↔
      { opts with search := none, query := none }.Admits p ∧
        (titleOrBodyContains t p = true ∨ (lower t).toList <:+: (lower p.author).toList) := by
    intro p
    rw [← searchFinds_post_iff hne, ← holds_phraseQuery hne hquote hcolon]
    exact PostFilter.admits_query_iff { opts.toPostFilter with search := none }
      (phraseQuery_ne_empty t) p
  obtain ⟨hsequence, hextends⟩ := sequence_eq_filter_or (by rfl) (by rfl) hsearch hquery
  exact ⟨hsequence, hextends⟩

theorem exactAgrees (data : BlogData) (opts : PostOptions) (field : ExactField) {x : String}
    (hquote : '"' ∉ x.toList) (hless : x.toList.head? ≠ some '<')
    (hgreater : x.toList.head? ≠ some '>') : ExactAgrees data opts field x := by
  have hends : Operator.equal.EndsBefore x.toList := ⟨hless, hgreater⟩
  have hexact : ∀ p, (field.ask (some x) { opts with query := none }).Admits p ↔
      (field.ask none { opts with query := some (cutQuery field.name .equal x) }).Admits p ∧
        field.value p = some x := by
    intro p
    rw [field.admits_ask_iff, field.admits_ask_query_iff none cutQuery_ne_empty,
      holds_cutQuery field.isPlainName_name hquote hends]
    refine and_congr_left fun hvalue => ?_
    rw [ExactField.compare_of_value hvalue, and_iff_left rfl]
  have horder : (field.ask (some x) { opts with query := none }).order =
      (field.ask none { opts with query := some (cutQuery field.name .equal x) }).order := by
    rw [field.order_ask, field.order_ask]
  constructor
  · refine PostOptions.sequence_eq_filter horder fun p _ => ?_
    rw [decide_eq_true_iff, hexact]
  · exact extends_of_admits horder fun p _ h => ((hexact p).mp h).1

/-- **Simple conditions and queries agree**, in every order of a listing and beside any other
conditions: a phrase is found by a query where a search finds it, and in authors, and a query for a
field keeps the posts with the field's text. The pages of listings are cut out of what they show. -/
theorem simple_filters_agree (data : BlogData) (opts : PostOptions) :
    (data.postPage opts = ⟨(pageOf (opts.sequence data.posts) opts.page opts.size).1.map
      (ListedPost.of opts.viewer), (pageOf (opts.sequence data.posts) opts.page opts.size).2⟩) ∧
    (∀ t : String, t ≠ "" → '"' ∉ t.toList → (':' ∉ t.toList ∨ t.toList.head? = some ':') →
      SearchAgrees data opts t) ∧
    ∀ (field : ExactField) (x : String), '"' ∉ x.toList → x.toList.head? ≠ some '<' →
      x.toList.head? ≠ some '>' → ExactAgrees data opts field x :=
  ⟨rfl, fun _ hne hquote hcolon => searchAgrees data opts hne hquote hcolon,
    fun field _ hquote hless hgreater => exactAgrees data opts field hquote hless hgreater⟩

/-- A phrase of a colon and a blank, which one post has in its title and one in its author; an
author that is a number, and a category without a name. -/
theorem simple_filters_agree_colon :
    let data : BlogData := { BlogData.sample with posts :=
      [{ BlogData.samplePost with title := "Rust: one", author := "1e3" },
        { BlogData.samplePost with author := "a: b", categoryId := some "" }] }
    (": " ≠ "" ∧ '"' ∉ ": ".toList ∧ ": ".toList.head? = some ':') ∧
      ('"' ∉ "1e3".toList ∧ "1e3".toList.head? ≠ some '<' ∧ "1e3".toList.head? ≠ some '>') ∧
      ('"' ∉ "".toList ∧ "".toList.head? ≠ some '<' ∧ "".toList.head? ≠ some '>') ∧
      SearchAgrees data {} ": " ∧
      (({ search := some ": " } : PostFilter).select data.posts).length = 1 ∧
      (({ query := some "\": \"" } : PostFilter).select data.posts).length = 2 ∧
      ExactAgrees data { order := .title } .author "1e3" ∧
      (({ query := some "autor:\"1e3\"" } : PostFilter).select data.posts).length = 1 ∧
      ExactAgrees data { order := .views } .category "" ∧
      (({ query := some "categoriaId:\"\"" } : PostFilter).select data.posts).length = 1 := by
  intro data
  have hphrase : ": " ≠ "" ∧ '"' ∉ ": ".toList ∧ ": ".toList.head? = some ':' := by decide
  have hauthor : '"' ∉ "1e3".toList ∧ "1e3".toList.head? ≠ some '<' ∧
      "1e3".toList.head? ≠ some '>' := by decide
  have hcategory : '"' ∉ "".toList ∧ "".toList.head? ≠ some '<' ∧
      "".toList.head? ≠ some '>' := by decide
  exact ⟨hphrase, hauthor, hcategory,
    (simple_filters_agree data {}).2.1 ": " hphrase.1 hphrase.2.1 (.inr hphrase.2.2),
    by decide +kernel, by decide +kernel,
    (simple_filters_agree data { order := .title }).2.2 .author "1e3" hauthor.1 hauthor.2.1
      hauthor.2.2,
    by decide +kernel,
    (simple_filters_agree data { order := .views }).2.2 .category "" hcategory.1 hcategory.2.1
      hcategory.2.2,
    by decide +kernel⟩

end Listing

end Weblog
