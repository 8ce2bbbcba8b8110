import Mathlib.Data.List.Basic
import Mathlib.Data.String.Basic
import Mathlib.Tactic.Common
import Weblog.Listing.Order
/-!
# Orders with ties

The orders of a listing leave ties: posts with the same date, the same views, the same title. An
order with ties can be sorted by if it is a total preorder, and a stable sort then has one outcome
only, because ties keep the order of storage.

* `IsTotalPreorder`: what a comparison has to satisfy before it can be sorted by;
  `IsTotalPreorder.of_transCmp`: lawful comparisons do.
* `IsStableSort`: whether items are sorted, each of them once, and ties are in the order of storage.
* `isStableSort_iff`: **a stable sort has one outcome**, that of core's merge sort.
* `PostOrder.Precedes`: what the orders of posts say in words; `PostOrder.isLE_compare`: the
  comparisons say the same.
* instances of `Std.TransCmp`: **the orders of posts and comments are lawful**.
-/

namespace Weblog.Listing

/-! ## Comparisons -/

/-- What a comparison has to satisfy before it can be sorted by. -/
structure IsTotalPreorder {α : Type} (cmp : α → α → Ordering) : Prop where
  refl : ∀ a, cmp a a = .eq
  total : ∀ a b, (cmp a b).isLE = true ∨ (cmp b a).isLE = true
  trans : ∀ a b c, (cmp a b).isLE = true → (cmp b c).isLE = true → (cmp a c).isLE = true
  eq_iff : ∀ a b, cmp a b = .eq ↔ (cmp a b).isLE = true ∧ (cmp b a).isLE = true
  swap : ∀ a b, cmp b a = (cmp a b).swap

theorem IsTotalPreorder.of_transCmp {α : Type} (cmp : α → α → Ordering) [Std.TransCmp cmp] :
    IsTotalPreorder cmp where
  refl _ := Std.ReflCmp.compare_self
  total a b := by
    have hswap : cmp b a = (cmp a b).swap := Std.OrientedCmp.eq_swap
    rw [hswap]
    cases cmp a b <;> simp
  trans _ _ _ := Std.TransCmp.isLE_trans
  eq_iff a b := by
    have hswap : cmp b a = (cmp a b).swap := Std.OrientedCmp.eq_swap
    rw [hswap]
    cases cmp a b <;> simp
  swap _ _ := Std.OrientedCmp.eq_swap

theorem IsTotalPreorder.isLE_or {α : Type} {cmp : α → α → Ordering} (h : IsTotalPreorder cmp)
    (a b : α) : ((cmp a b).isLE || (cmp b a).isLE) = true := by
  rw [Bool.or_eq_true]
  exact h.total a b

theorem transCmp_on {α β : Type} (cmp : β → β → Ordering) [Std.TransCmp cmp] (f : α → β) :
    Std.TransCmp fun a b => cmp (f a) (f b) where
  eq_swap := Std.OrientedCmp.eq_swap
  isLE_trans := Std.TransCmp.isLE_trans

/-! ## Stable sorts -/

section Sorting

variable {α : Type}

/-- Whether items are sorted so that none stands behind one that it comes before. The items are
those of a collection, each with its place in it, and items that tie are in the order of their
places. -/
def IsStableSort (before : α → α → Prop) (items sorted : List α) : Prop :=
  ∃ placed : List (α × Nat), placed.map Prod.fst = sorted ∧ placed.Perm items.zipIdx ∧
    placed.Pairwise fun p q => before p.1 q.1 ∧ (before q.1 p.1 → p.2 < q.2)

variable {le : α → α → Bool} (trans : ∀ a b c, le a b = true → le b c = true → le a c = true)
  (total : ∀ a b, (le a b || le b a) = true)

include trans total

theorem pairwise_mergeSort_zipIdx (items : List α) :
    (items.zipIdx.mergeSort (List.zipIdxLE le)).Pairwise fun p q =>
      le p.1 q.1 = true ∧ (le q.1 p.1 = true → p.2 < q.2) := by
  have hsorted := List.pairwise_mergeSort (List.zipIdxLE_trans trans) (List.zipIdxLE_total total)
    items.zipIdx
  have hplaces : (items.zipIdx.mergeSort (List.zipIdxLE le)).Pairwise fun p q => p.2 ≠ q.2 := by
    have hperm := (List.mergeSort_perm items.zipIdx (List.zipIdxLE le)).map Prod.snd
    rw [List.zipIdx_map_snd] at hperm
    exact List.pairwise_map.mp (hperm.nodup_iff.mpr List.nodup_range')
  refine (hsorted.and hplaces).imp fun {p q} h => ?_
  obtain ⟨hle, hne⟩ := h
  unfold List.zipIdxLE at hle
  split_ifs at hle with hpq hqp
  · exact ⟨hpq, fun _ => lt_of_le_of_ne (of_decide_eq_true hle) hne⟩
  · exact ⟨hpq, fun h => absurd h hqp⟩

/-- **A stable sort has one outcome.** -/
theorem isStableSort_iff {items sorted : List α} :
    IsStableSort (fun a b => le a b = true) items sorted ↔ sorted = items.mergeSort le := by
  have hplaced := pairwise_mergeSort_zipIdx trans total items
  have hperm := List.mergeSort_perm items.zipIdx (List.zipIdxLE le)
  constructor
  · rintro ⟨placed, rfl, hplacing, hpairwise⟩
    -- two items cannot each have the place in front of the other
    have hone : placed = items.zipIdx.mergeSort (List.zipIdxLE le) := by
      refine (hplacing.trans hperm.symm).eq_of_pairwise (fun p q _ _ hpq hqp => ?_) hpairwise
        hplaced
      exact absurd (hpq.2 hqp.1) (Nat.lt_asymm (hqp.2 hpq.1))
    rw [hone, List.mergeSort_zipIdx]
  · rintro rfl
    exact ⟨_, List.mergeSort_zipIdx, hperm, hplaced⟩

end Sorting

theorem isStableSort_iff_of_transCmp {α : Type} (cmp : α → α → Ordering) [Std.TransCmp cmp]
    {before : α → α → Prop} (hbefore : ∀ a b, (cmp a b).isLE = true ↔ before a b)
    {items sorted : List α} :
    IsStableSort before items sorted ↔ sorted = items.mergeSort fun a b => (cmp a b).isLE := by
  have hcmp := IsTotalPreorder.of_transCmp cmp
  rw [show before = fun a b => (cmp a b).isLE = true from
    funext₂ fun a b => propext (hbefore a b).symm]
  exact isStableSort_iff hcmp.trans hcmp.isLE_or

/-! ## Dates, titles and views -/

/-- Whether a date is not before another one. What is no date comes last. -/
def IsNotEarlier (a b : String) : Prop :=
  ∀ y, Calendar.readInstant b = some y → ∃ x, Calendar.readInstant a = some x ∧ y ≤ x

theorem newestFirst_eq (a b : String) :
    newestFirst a b = compare (Calendar.readInstant b) (Calendar.readInstant a) := by
  unfold newestFirst
  cases Calendar.readInstant a <;> cases Calendar.readInstant b <;> rfl

instance : Std.TransCmp newestFirst := by
  rw [show newestFirst = fun a b => compareOn Calendar.readInstant b a from
    funext₂ newestFirst_eq]
  infer_instance

theorem isLE_newestFirst (a b : String) :
    (newestFirst a b).isLE = true ↔ IsNotEarlier a b := by
  unfold newestFirst IsNotEarlier
  cases Calendar.readInstant a <;> cases Calendar.readInstant b <;> simp [Int.isLE_compare]

instance : Std.TransCmp byTitle := by
  rw [show byTitle = compareLex (compareOn Text.lower) compare from rfl]
  infer_instance

theorem isLE_byTitle (a b : String) :
    (byTitle a b).isLE = true ↔
      Text.lower a < Text.lower b ∨ Text.lower a = Text.lower b ∧ a ≤ b := by
  rw [byTitle, Ordering.isLE_then_iff_or, compare_lt_iff_lt, Std.LawfulEqCmp.compare_eq_iff_eq,
    Std.LawfulBCmp.isLE_iff_le]

namespace PostOrder

/-- Whether a post may stand in front of another one. -/
def Precedes (order : PostOrder) (a b : Post) : Prop :=
  match order with
  | title =>
    Text.lower a.title < Text.lower b.title ∨
      Text.lower a.title = Text.lower b.title ∧ a.title ≤ b.title
  | views => b.views ≤ a.views
  | newest => IsNotEarlier a.created b.created

theorem isLE_compare (order : PostOrder) (a b : Post) :
    (order.compare a b).isLE = true ↔ order.Precedes a b := by
  cases order with
  | title => exact isLE_byTitle a.title b.title
  | views => exact Nat.isLE_compare.trans UInt64.le_iff_toNat_le.symm
  | newest => exact isLE_newestFirst a.created b.created

instance (order : PostOrder) : Std.TransCmp order.compare := by
  cases order with
  | title => exact transCmp_on byTitle Post.title
  | views => exact transCmp_on (fun m n : Nat => Ord.compare n m) fun p : Post => p.views.toNat
  | newest => exact transCmp_on newestFirst Post.created

end PostOrder

end Weblog.Listing
