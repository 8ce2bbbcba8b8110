import Mathlib.Data.List.Basic
import Mathlib.Order.WithBot
import Mathlib.Tactic.Common
import Weblog.Listing.Order
/-!
# Stable sorting and filters

A stable sort puts a new item in front of the items that it does not come after, and leaves the
others where they are. Therefore it does not matter whether items are filtered before or after they
are sorted, and a condition that is never met behind an item that fails it cuts a sorted list in
two.

* `filter_mergeSort`: **filtering commutes with stable sorting**.
* `filter_append_filter_not`: a condition that is closed towards the front cuts a sorted list.
* `PostOrder.newest_followsRank`, `PostOrder.views_followsRank`: the orders of posts as orders of
  instants and numbers.
* **`PostOrder.sort_eq_append`**: a condition that asks for a high rank cuts a listing in two.
-/

namespace Weblog.Listing

section Sorting

variable {α : Type} {le : α → α → Bool}

theorem cut_unique {p : α → Bool} {l₁ l₂ m₁ m₂ : List α} (h : l₁ ++ l₂ = m₁ ++ m₂)
    (hl₁ : ∀ a ∈ l₁, p a = true) (hl₂ : ∀ a ∈ l₂, p a = false) (hm₁ : ∀ a ∈ m₁, p a = true)
    (hm₂ : ∀ a ∈ m₂, p a = false) : l₁ = m₁ ∧ l₂ = m₂ := by
  have hfront : ∀ {front back : List α}, (∀ a ∈ front, p a = true) → (∀ a ∈ back, p a = false) →
      (front ++ back).filter p = front := by
    intro front back hf hb
    rw [List.filter_append, List.filter_eq_self.mpr hf,
      List.filter_eq_nil_iff.mpr fun a ha => by simp [hb a ha], List.append_nil]
  have heq : l₁ = m₁ := by rw [← hfront hl₁ hl₂, h, hfront hm₁ hm₂]
  exact ⟨heq, List.append_cancel_left (heq ▸ h)⟩

variable (trans : ∀ a b c, le a b = true → le b c = true → le a c = true)
  (total : ∀ a b, (le a b || le b a) = true)

include trans total

/-- **A stable sort inserts an item** in front of the first item that it does not come after. -/
theorem exists_mergeSort_cons (a : α) (l : List α) :
    ∃ l₁ l₂, (a :: l).mergeSort le = l₁ ++ a :: l₂ ∧ l.mergeSort le = l₁ ++ l₂ ∧
      (∀ b ∈ l₁, le a b = false) ∧ ∀ b ∈ l₂, le a b = true := by
  obtain ⟨l₁, l₂, hsort, htail, hbefore⟩ := List.mergeSort_cons trans total a l
  have hsorted := List.pairwise_mergeSort trans total (a :: l)
  rw [hsort, List.pairwise_append, List.pairwise_cons] at hsorted
  exact ⟨l₁, l₂, hsort, htail, fun b hb => by simpa using hbefore b hb, hsorted.2.1.1⟩

/-- **Filtering commutes with stable sorting.** -/
theorem filter_mergeSort (p : α → Bool) (l : List α) :
    (l.mergeSort le).filter p = (l.filter p).mergeSort le := by
  induction l with
  | nil => simp
  | cons a l ih =>
    obtain ⟨l₁, l₂, hsort, htail, hbefore, hafter⟩ := exists_mergeSort_cons trans total a l
    rw [htail, List.filter_append] at ih
    rw [hsort, List.filter_append, List.filter_cons, List.filter_cons]
    split_ifs with hp
    · obtain ⟨m₁, m₂, hsort', htail', hbefore', hafter'⟩ :=
        exists_mergeSort_cons trans total a (l.filter p)
      rw [htail'] at ih
      -- the item goes to the same place, whether the others have been filtered or not
      obtain ⟨h₁, h₂⟩ := cut_unique (p := fun b => !le a b) ih
        (fun b hb => by simp [hbefore b (List.mem_of_mem_filter hb)])
        (fun b hb => by simp [hafter b (List.mem_of_mem_filter hb)])
        (fun b hb => by simp [hbefore' b hb]) (fun b hb => by simp [hafter' b hb])
      rw [hsort', h₁, h₂]
    · exact ih

omit trans total in
/-- **A condition that is closed towards the front cuts a sorted list.** -/
theorem filter_append_filter_not {p : α → Bool}
    (hp : ∀ a b, le a b = true → p b = true → p a = true) {l : List α}
    (hl : l.Pairwise fun a b => le a b = true) :
    l.filter p ++ l.filter (fun a => !p a) = l := by
  induction l with
  | nil => rfl
  | cons a l ih =>
    obtain ⟨ha, hl⟩ := List.pairwise_cons.mp hl
    cases hpa : p a with
    | true => simp [hpa, ih hl]
    | false =>
      -- behind an item that fails the condition, all items fail it
      have hfail : ∀ b ∈ l, p b = false := by
        intro b hb
        by_contra hpb
        exact absurd (hp a b (ha b hb) (by simpa using hpb)) (by simp [hpa])
      rw [List.filter_eq_nil_iff.mpr (by simpa [hpa] using hfail),
        List.filter_eq_self.mpr (by simpa [hpa] using hfail), List.nil_append]

theorem mergeSort_eq_append {p : α → Bool}
    (hp : ∀ a b, le a b = true → p b = true → p a = true) (l : List α) :
    l.mergeSort le =
      (l.filter p).mergeSort le ++ (l.filter fun a => !p a).mergeSort le := by
  rw [← filter_mergeSort trans total, ← filter_mergeSort trans total]
  exact (filter_append_filter_not hp (List.pairwise_mergeSort trans total l)).symm

end Sorting

/-! ## Orders of posts -/

/-- The place of a date in the order of dates; what is no date comes before all of them. -/
def rankOfDate (date : String) : WithBot Int := Calendar.readInstant date

namespace PostOrder

/-- Whether posts in an order are those with the greatest ranks first. -/
def FollowsRank {β : Type} [LinearOrder β] (order : PostOrder) (rank : Post → β) : Prop :=
  ∀ a b, (order.compare a b).isLE = true ↔ rank b ≤ rank a

/-- **The newest come first, and what is no date comes last.** -/
theorem newest_followsRank : newest.FollowsRank fun p => rankOfDate p.created := by
  intro a b
  dsimp only [PostOrder.compare]
  unfold newestFirst rankOfDate
  cases Calendar.readInstant a.created with
  | none =>
    cases Calendar.readInstant b.created with
    | none => exact ⟨fun _ => le_refl _, fun _ => rfl⟩
    | some y => exact ⟨fun h => by simp at h, fun h => absurd h (WithBot.not_coe_le_bot y)⟩
  | some x =>
    cases Calendar.readInstant b.created with
    | none => exact ⟨fun _ => bot_le, fun _ => rfl⟩
    | some y => exact Int.isLE_compare.trans WithBot.coe_le_coe.symm

theorem views_followsRank : views.FollowsRank fun p => p.views.toNat := fun _ _ => Nat.isLE_compare

/-- **A condition that asks for a high rank cuts a listing in two.** -/
theorem sort_eq_append {β : Type} [LinearOrder β] {order : PostOrder} {rank : Post → β}
    (h : order.FollowsRank rank) {p : Post → Bool}
    (hp : ∀ a b, rank b ≤ rank a → p b = true → p a = true) (posts : List Post) :
    order.sort posts = order.sort (posts.filter p) ++ order.sort (posts.filter fun a => !p a) := by
  refine mergeSort_eq_append (fun a b c hab hbc => ?_) (fun a b => ?_)
    (fun a b hab => hp a b ((h a b).mp hab)) posts
  · exact (h a c).mpr (((h b c).mp hbc).trans ((h a b).mp hab))
  · rw [Bool.or_eq_true, h a b, h b a]
    exact le_total (rank b) (rank a)

end PostOrder

end Weblog.Listing
