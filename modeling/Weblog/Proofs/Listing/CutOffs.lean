import Weblog.Proofs.Calendar.Beginnings
import Weblog.Proofs.Listing.StableSort
import Weblog.Proofs.Listing.Views
import Weblog.Proofs.Number.Rounding
import Weblog.Proofs.Query.Canonical
/-!
# Cut-offs

The newest posts come first, and a query can ask for the posts since an instant; the posts with the
most views come first, and a query can ask for those with at least so many. Queries and orders
compare in different ways, but they agree: the query keeps the beginning of the listing, and the
query with the opposite operator keeps the rest.

* `cutQuery`: a query that compares a field with a literal between quotes;
  `clauses_cutQuery`: it is one clause.
* `BlogData.allPosts`: the pages of a listing, one after the other.
* `CutsOff`: the listing is what a literal cuts off and what it leaves, in this order.
* `cutsOff_of_threshold`: **a comparison that follows the order of a listing cuts the listing**.
* **`cutoffs_agree`**: literals that are instants cut listings by date, and literals that are
  numbers cut listings by views.
-/

namespace Weblog

open Query Number Calendar

/-! ## Queries with one comparison -/

/-- A query that compares a field with a literal between quotes. -/
def cutQuery (name : String) (op : Operator) (literal : String) : String :=
  name ++ ":" ++ op.symbol ++ "\"" ++ literal ++ "\""

/-- Whether a name is read as the name of a field in front of a colon. -/
def IsPlainName (name : String) : Prop :=
  name.toList ≠ [] ∧ ':' ∉ name.toList ∧ '"' ∉ name.toList ∧ name.toList.any Text.isBlank = false
  deriving Decidable

theorem words_cutQuery {name : String} (hname : IsPlainName name) (op : Operator)
    {literal : String} (hliteral : '"' ∉ literal.toList) :
    words [] false (cutQuery name op literal).toList =
      [(Clause.field name op literal).token] := by
  have hsymbol : '"' ∉ op.symbol.toList ∧ op.symbol.toList.any Text.isBlank = false := by
    cases op <;> decide
  have hquote : '"' ∉ name.toList ++ ':' :: op.symbol.toList := by simp [hname.2.2.1, hsymbol.1]
  have hblank : (name.toList ++ ':' :: op.symbol.toList).any Text.isBlank = false := by
    rw [List.any_append, List.any_cons, hname.2.2.2, hsymbol.2]
    rfl
  have htext : (cutQuery name op literal).toList =
      (name.toList ++ ':' :: op.symbol.toList) ++ '"' :: (literal.toList ++ ['"']) := by
    simp [cutQuery]
  rw [htext, words_plain hquote hblank, words, if_pos rfl, Bool.not_false,
    words_quoted hliteral]
  simp [words, wordOf, Clause.token]

theorem clauses_cutQuery {name : String} (hname : IsPlainName name) {op : Operator}
    {literal : String} (hliteral : '"' ∉ literal.toList) (hop : op.EndsBefore literal.toList) :
    (parse (cutQuery name op literal)).clauses = [.field name op literal] := by
  have hcanonical : (Clause.field name op literal).IsCanonical :=
    ⟨hname.1, hname.2.1, hname.2.2.1, hliteral, hop⟩
  rw [clauses_parse, words_cutQuery hname op hliteral, List.map_singleton,
    Clause.ofChars_token hcanonical]

/-! ## Listings with all their pages -/

/-- The pages of a listing, one after the other. -/
def BlogData.allPosts (data : BlogData) (opts : Listing.PostOptions) : List Listing.ListedPost :=
  (List.range (data.postPage { opts with page := 1 }).info.pageCount).flatMap fun k =>
    (data.postPage { opts with page := .ofNat (k + 1) }).posts

namespace Listing

variable {data : BlogData}

theorem allPosts_eq (hlen : data.posts.length < 2 ^ 63) (opts : PostOptions) :
    data.allPosts opts = (opts.sequence data.posts).map (ListedPost.of opts.viewer) :=
  have hpages := pagesOf_pageOf ((opts.length_sequence_le data.posts).trans_lt hlen)
  (hpages.map (ListedPost.of opts.viewer)).all opts.size

theorem cutQuery_ne_empty {name : String} {op : Operator} {literal : String} :
    cutQuery name op literal ≠ "" := by
  intro h
  have hlist := congrArg String.toList h
  simp [cutQuery] at hlist

theorem holds_cutQuery {name : String} (hname : IsPlainName name) {op : Operator}
    {literal : String} (hliteral : '"' ∉ literal.toList) (hop : op.EndsBefore literal.toList)
    (p : Post) :
    (parse (cutQuery name op literal)).holds Post.searchFields p =
      Query.compare (Record.field p name) literal op := by
  rw [Query.holds, clauses_cutQuery hname hliteral hop]
  exact Bool.and_true _

theorem select_cutQuery (f : PostFilter) {name : String} (hname : IsPlainName name) {op : Operator}
    {literal : String} (hliteral : '"' ∉ literal.toList) (hop : op.EndsBefore literal.toList)
    {posts : List Post} {p : Post → Bool}
    (hp : ∀ a ∈ posts, Query.compare (Record.field a name) literal op = p a) :
    { f with query := some (cutQuery name op literal) }.select posts =
      ({ f with query := none }.select posts).filter p := by
  have hgiven : nonempty (some (cutQuery name op literal)) = some (cutQuery name op literal) := by
    simp [nonempty, Option.filter, cutQuery_ne_empty]
  have hselect : { f with query := some (cutQuery name op literal) }.select posts =
      ({ f with query := none }.select posts).filter
        ((parse (cutQuery name op literal)).holds Post.searchFields) := by
    simp only [PostFilter.select, PostFilter.selectQueried, hgiven]
    rfl
  rw [hselect]
  refine List.filter_congr fun a ha => ?_
  rw [holds_cutQuery hname hliteral hop, hp a ((PostFilter.select_sublist _ posts).mem ha)]

/-- **A query that asks for high ranks and one that asks for the others cut a listing in two.** -/
theorem allPosts_eq_append {β : Type} [LinearOrder β] (hlen : data.posts.length < 2 ^ 63)
    {opts : PostOptions} {rank : Post → β} (hrank : opts.order.FollowsRank rank) {p : Post → Bool}
    (hp : ∀ a b, rank b ≤ rank a → p b = true → p a = true) {name : String}
    (hname : IsPlainName name) {literal : String} (hliteral : '"' ∉ literal.toList)
    {op op' : Operator} (hop : op.EndsBefore literal.toList) (hop' : op'.EndsBefore literal.toList)
    (hcompare : ∀ a ∈ data.posts, Query.compare (Record.field a name) literal op = p a ∧
      Query.compare (Record.field a name) literal op' = !p a) :
    data.allPosts { opts with query := none } =
      data.allPosts { opts with query := some (cutQuery name op literal) } ++
        data.allPosts { opts with query := some (cutQuery name op' literal) } := by
  rw [allPosts_eq hlen, allPosts_eq hlen, allPosts_eq hlen, ← List.map_append]
  refine congrArg (List.map (ListedPost.of opts.viewer)) ?_
  simp only [PostOptions.sequence,
    select_cutQuery opts.toPostFilter hname hliteral hop fun a ha => (hcompare a ha).1,
    select_cutQuery opts.toPostFilter hname hliteral hop' fun a ha => (hcompare a ha).2]
  exact PostOrder.sort_eq_append hrank hp _

/-! ## Comparisons that follow an order -/

/-- Whether a post has a field that stands in an order to a literal. -/
structure ComparesAs (name literal : String) (o : Ordering) (p : Post) : Prop where
  present : (Record.field p name).isAbsent = false
  order : (Operands.of (Record.field p name) literal).order = some o

theorem ComparesAs.compare_order {name literal : String} {o : Ordering} {p : Post}
    (h : ComparesAs name literal o p) :
    (Query.compare (Record.field p name) literal .atLeast = o.isGE ∧
        Query.compare (Record.field p name) literal .less = !o.isGE) ∧
      Query.compare (Record.field p name) literal .greater = o.isGT ∧
        Query.compare (Record.field p name) literal .atMost = !o.isGT := by
  simp only [Query.compare, h.present, Operands.satisfy, h.order]
  cases o <;> exact ⟨⟨rfl, rfl⟩, rfl, rfl⟩

/-- Whether a listing is, in this order, what a literal cuts off and what it leaves: the posts that
are not less and those that are less, or the greater posts and the others. -/
structure CutsOff (data : BlogData) (opts : PostOptions) (name literal : String) : Prop where
  notLess : data.allPosts { opts with query := none } =
    data.allPosts { opts with query := some (cutQuery name .atLeast literal) } ++
      data.allPosts { opts with query := some (cutQuery name .less literal) }
  greater : data.allPosts { opts with query := none } =
    data.allPosts { opts with query := some (cutQuery name .greater literal) } ++
      data.allPosts { opts with query := some (cutQuery name .atMost literal) }

/-- **A comparison that follows the order of a listing cuts the listing.** -/
theorem cutsOff_of_threshold {β γ : Type} [LinearOrder β] [LinearOrder γ]
    (hlen : data.posts.length < 2 ^ 63) {opts : PostOptions} {rank : Post → β}
    (hrank : opts.order.FollowsRank rank) (place : β → γ) (hplace : Monotone place) (cut : γ)
    {name literal : String} (hname : IsPlainName name) (hliteral : '"' ∉ literal.toList)
    (hequals : literal.toList.head? ≠ some '=')
    (hcompare : ∀ p ∈ data.posts, ∃ o, ComparesAs name literal o p ∧
      (o.isGE = true ↔ cut ≤ place (rank p)) ∧ (o.isGT = true ↔ cut < place (rank p))) :
    CutsOff data opts name literal := by
  refine ⟨allPosts_eq_append (p := fun p => decide (cut ≤ place (rank p))) hlen hrank ?_ hname
      hliteral trivial hequals fun p hp => ?_,
    allPosts_eq_append (p := fun p => decide (cut < place (rank p))) hlen hrank ?_ hname
      hliteral hequals trivial fun p hp => ?_⟩
  · simpa using fun a b hab hb => hb.trans (hplace hab)
  · obtain ⟨o, ho, hge, -⟩ := hcompare p hp
    have hcut : o.isGE = decide (cut ≤ place (rank p)) := by
      rw [Bool.eq_iff_iff, hge, decide_eq_true_iff]
    exact hcut ▸ ho.compare_order.1
  · simpa using fun a b hab hb => hb.trans_le (hplace hab)
  · obtain ⟨o, ho, -, hgt⟩ := hcompare p hp
    have hcut : o.isGT = decide (cut < place (rank p)) := by
      rw [Bool.eq_iff_iff, hgt, decide_eq_true_iff]
    exact hcut ▸ ho.compare_order.2

theorem isGT_compare {a b : Int} : (compare a b).isGT = true ↔ b < a :=
  Ordering.isGT_iff_eq_gt.trans Int.compare_eq_gt

/-! ## Dates and views -/

theorem comparesAs_date {p : Post} {literal : String} {i x : Int}
    (hi : readInstant p.created = some i) (hx : readInstant literal = some x) :
    ComparesAs "fechaCreacion" literal (compare i x) p := by
  refine ⟨rfl, ?_⟩
  have hnumber : readNumber literal = none := readNumber_eq_none_of_readInstant hx
  have htext : (Record.field p "fechaCreacion").text = p.created := String.ofList_toList
  simp only [Operands.of, hnumber, htext, hi, hx]
  cases Operands.numberOf (Record.field p "fechaCreacion") <;> rfl

theorem operands_views (p : Post) {literal : String} {x : Binary64}
    (hx : readNumber literal = some x) :
    Operands.of (Record.field p "visitas") literal = .numbers (.ofNat p.views.toNat) x := by
  have hnumber : Operands.numberOf (Record.field p "visitas") =
      some (.ofNat p.views.toNat) := if_pos (isFinite_ofNat p.views.toNat_lt)
  simp only [Operands.of, hnumber, hx]

theorem comparesAs_views (p : Post) {literal : String} {x : Binary64}
    (hx : readNumber literal = some x) {place : Int} (hplace : placeOf x = some place) :
    ComparesAs "visitas" literal (compare (rankOfNat p.views.toNat : Int) place) p := by
  refine ⟨rfl, ?_⟩
  rw [operands_views p hx, Operands.order, order_ofNat, hplace]
  rfl

/-- **Queries and orders agree on cut-offs.** Where the newest posts come first and all posts have
a date, a literal that is an instant cuts the listing by date; where the posts with the most views
come first, a literal that is a number cuts it by views. Literals stand between quotes and hold
none; there are fewer than `2 ^ 63` posts. -/
theorem cutoffs_agree (data : BlogData) (hlen : data.posts.length < 2 ^ 63) (opts : PostOptions)
    (literal : String) (hliteral : '"' ∉ literal.toList) :
    (opts.order = .newest → (∀ p ∈ data.posts, (readInstant p.created).isSome = true) →
      (readInstant literal).isSome = true → CutsOff data opts "fechaCreacion" literal) ∧
    (opts.order = .views → (readNumber literal).isSome = true →
      CutsOff data opts "visitas" literal) := by
  refine ⟨fun horder hdates hinstant => ?_, fun horder hnumber => ?_⟩
  · obtain ⟨x, hx⟩ := Option.isSome_iff_exists.mp hinstant
    refine cutsOff_of_threshold hlen (horder ▸ PostOrder.newest_followsRank) id monotone_id
      (x : WithBot Int) (by decide) hliteral (head?_ne_of_readInstant hx) fun p hp => ?_
    obtain ⟨i, hi⟩ := Option.isSome_iff_exists.mp (hdates p hp)
    have hrank : rankOfDate p.created = (i : WithBot Int) := hi
    refine ⟨compare i x, comparesAs_date hi hx, ?_, ?_⟩
    · exact Int.isGE_compare.trans (hrank ▸ WithBot.coe_le_coe.symm)
    · exact isGT_compare.trans (hrank ▸ WithBot.coe_lt_coe.symm)
  · obtain ⟨x, hx⟩ := Option.isSome_iff_exists.mp hnumber
    obtain ⟨place, hplace⟩ := exists_placeOf_readNumber hx
    refine cutsOff_of_threshold hlen (horder ▸ PostOrder.views_followsRank)
      (fun n => (rankOfNat n : Int)) (fun m n h => Int.ofNat_le.mpr (rankOfNat_mono h)) place
      (by decide) hliteral (head?_ne_of_readNumber hx) fun p hp => ?_
    exact ⟨_, comparesAs_views p hx hplace, Int.isGE_compare, isGT_compare⟩

/-- A post before a cut-off with a blank in it and one after it, with views around a cut-off that
is not written as a natural number. -/
theorem cutoffs_agree_two_posts :
    let data : BlogData := { BlogData.sample with posts := [BlogData.samplePost,
      { BlogData.samplePost with created := "2024-06-01", views := 2000 }] }
    data.posts.length < 2 ^ 63 ∧
      (∀ p ∈ data.posts, (readInstant p.created).isSome = true) ∧
      (readInstant "2024-03-01 12:30").isSome = true ∧ (readNumber "1e3").isSome = true ∧
      CutsOff data {} "fechaCreacion" "2024-03-01 12:30" ∧
      CutsOff data { order := .views } "visitas" "1e3" := by
  intro data
  have hlen : data.posts.length < 2 ^ 63 := by decide
  have hdates : ∀ p ∈ data.posts, (readInstant p.created).isSome = true := by decide +kernel
  have hinstant : (readInstant "2024-03-01 12:30").isSome = true := by decide +kernel
  have hnumber : (readNumber "1e3").isSome = true := by decide +kernel
  exact ⟨hlen, hdates, hinstant, hnumber,
    (cutoffs_agree data hlen {} "2024-03-01 12:30" (by decide)).1 rfl hdates hinstant,
    (cutoffs_agree data hlen { order := .views } "1e3" (by decide)).2 rfl hnumber⟩

end Listing

end Weblog
