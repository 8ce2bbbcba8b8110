import Mathlib.Data.List.Basic
import Mathlib.Tactic.Common
import Weblog.Text.LowerCase
import Weblog.Text.Search
/-!
# Lower case of parts

A part of a text keeps its lower-case form wherever it stands, but for the capital sigma: whether it
ends a word depends on what is around it. Some sigmas are settled by the part itself, and some are
not.

* `lowerIn`: the lower-case form of a part between two texts; `lowerAfter_append`: the form of a
  text is put together from the forms of its parts.
* `IsSettled`: whether a part settles which of its sigmas end a word.
* `lowerIn_append_of_settles`: **a settled part keeps its form** wherever it stands.
* `count_lowerIn_lt`: a sigma that ends a word in one place and not in another shows in the number
  of sigmas.
* **`isSettled_iff`**: the parts whose form is found wherever they stand are the settled ones.
-/

namespace Weblog.Text

/-! ## Parts of texts -/

theorem lowerChar_ne_nil (c : Char) : lowerChar c ≠ [] := by
  unfold lowerChar
  dsimp only
  split_ifs
  · exact List.cons_ne_nil _ _
  · exact List.cons_ne_nil _ _
  · split <;> exact List.cons_ne_nil _ _

theorem lowerCharIn_ne_nil (before : List Char) (c : Char) (after : List Char) :
    lowerCharIn before c after ≠ [] := by
  unfold lowerCharIn
  split_ifs
  · exact List.cons_ne_nil _ _
  · exact List.cons_ne_nil _ _
  · exact lowerChar_ne_nil c

theorem lowerAfter_eq_nil_iff {before s : List Char} : lowerAfter before s = [] ↔ s = [] := by
  cases s with
  | nil => exact ⟨fun _ => rfl, fun _ => rfl⟩
  | cons c cs => simp [lowerAfter, lowerCharIn_ne_nil]

theorem toList_lower_eq_nil_iff {s : String} : (lower s).toList = [] ↔ s = "" := by
  rw [toList_lower, lowerAfter_eq_nil_iff, String.toList_eq_nil_iff]

/-- The lower-case form of a part between two texts, the one before it in reverse order. -/
def lowerIn (before : List Char) : List Char → List Char → List Char
  | [], _ => []
  | c :: cs, after => lowerCharIn before c (cs ++ after) ++ lowerIn (c :: before) cs after

theorem lowerIn_nil (before s : List Char) : lowerIn before s [] = lowerAfter before s := by
  induction s generalizing before with
  | nil => rfl
  | cons c cs ih => rw [lowerIn, lowerAfter, List.append_nil, ih]

theorem lowerIn_append (before s t after : List Char) :
    lowerIn before (s ++ t) after =
      lowerIn before s (t ++ after) ++ lowerIn (s.reverse ++ before) t after := by
  induction s generalizing before with
  | nil => rfl
  | cons c cs ih =>
    rw [List.cons_append, lowerIn, lowerIn, ih, List.append_assoc, List.append_assoc,
      List.reverse_cons, List.append_assoc, List.singleton_append]

/-- **The form of a text is put together from the forms of its parts.** -/
theorem lowerAfter_append (before s t : List Char) :
    lowerAfter before (s ++ t) = lowerIn before s t ++ lowerAfter (s.reverse ++ before) t := by
  rw [← lowerIn_nil, lowerIn_append, List.append_nil, lowerIn_nil]

/-! ## What settles the end of a word -/

/-- Whether some character of a text counts for letter case. -/
def counts (s : List Char) : Bool := s.any fun c => !isCaseIgnorable c

theorem startsCased_append (s t : List Char) :
    startsCased (s ++ t) = if counts s then startsCased s else startsCased t := by
  induction s with
  | nil => rfl
  | cons c cs ih =>
    by_cases hc : isCaseIgnorable c = true
    · simpa [startsCased, counts, List.dropWhile_cons, hc] using ih
    · simp [startsCased, counts, hc]

theorem counts_of_startsCased {s : List Char} (h : startsCased s = true) : counts s = true := by
  by_contra hc
  have hnil := startsCased_append s []
  rw [if_neg hc, List.append_nil, h] at hnil
  exact absurd hnil (by decide)

theorem startsCased_of_not_counts {s : List Char} (h : counts s = false) :
    startsCased s = false := by
  by_contra hs
  exact absurd (counts_of_startsCased (Bool.not_eq_false _ ▸ hs)) (by simp [h])

theorem startsCased_append_of_startsCased {s : List Char} (h : startsCased s = true)
    (t : List Char) : startsCased (s ++ t) = true := by
  rw [startsCased_append, if_pos (counts_of_startsCased h), h]

/-- Whether the texts around a sigma settle if it ends a word, the text before it in reverse
order. -/
def SettledBetween (before after : List Char) : Prop :=
  startsCased after = true ∨
    counts before = true ∧ (startsCased before = false ∨ counts after = true)
  deriving Decidable

/-- **Where the end of a word is settled**, more text on both sides does not change it. -/
theorem endsWord_append_of_settledBetween {before after : List Char}
    (h : SettledBetween before after) (x y : List Char) :
    endsWord (before ++ x) (after ++ y) = endsWord before after := by
  unfold endsWord
  obtain hafter | ⟨hcounts, hbefore | hafter⟩ := h
  · rw [startsCased_append_of_startsCased hafter, hafter, Bool.not_true, Bool.and_false,
      Bool.and_false]
  · rw [startsCased_append, if_pos hcounts, hbefore, Bool.false_and, Bool.false_and]
  · rw [startsCased_append before, if_pos hcounts, startsCased_append after, if_pos hafter]

/-- Whether a part that follows `before` (in reverse order) settles which of its sigmas end a
word. -/
def settles (before : List Char) : List Char → Bool
  | [] => true
  | c :: cs => (c != capitalSigma || decide (SettledBetween before cs)) && settles (c :: before) cs

/-- Whether a text settles which of its sigmas end a word, whatever stands around it. -/
def IsSettled (s : List Char) : Prop := settles [] s = true
  deriving Decidable

theorem settles_of_not_mem {s : List Char} (h : capitalSigma ∉ s) (before : List Char) :
    settles before s = true := by
  induction s generalizing before with
  | nil => rfl
  | cons c cs ih =>
    rw [List.mem_cons, not_or] at h
    have hc : (c != capitalSigma) = true := bne_iff_ne.mpr (Ne.symm h.1)
    rw [settles, hc, Bool.true_or, Bool.true_and, ih h.2]

theorem exists_not_settledBetween {before s : List Char} (h : settles before s = false) :
    ∃ u v, s = u ++ capitalSigma :: v ∧ ¬SettledBetween (u.reverse ++ before) v := by
  induction s generalizing before with
  | nil => cases h
  | cons c cs ih =>
    rw [settles, Bool.and_eq_false_iff] at h
    obtain hhead | htail := h
    · simp only [Bool.or_eq_false_iff, bne_eq_false_iff_eq, decide_eq_false_iff_not] at hhead
      exact ⟨[], cs, by rw [hhead.1, List.nil_append], hhead.2⟩
    · obtain ⟨u, v, rfl, hsettled⟩ := ih htail
      exact ⟨c :: u, v, rfl, by simpa using hsettled⟩

/-! ## Settled parts -/

/-- **A settled part keeps its form** wherever it stands. -/
theorem lowerIn_append_of_settles {before s : List Char} (h : settles before s = true)
    (x y : List Char) : lowerIn (before ++ x) s y = lowerIn before s [] := by
  induction s generalizing before with
  | nil => rfl
  | cons c cs ih =>
    rw [settles, Bool.and_eq_true] at h
    have hhead : lowerCharIn (before ++ x) c (cs ++ y) = lowerCharIn before c cs := by
      by_cases hc : c = capitalSigma
      · have hsettled : SettledBetween before cs := by simpa [hc] using h.1
        simp only [lowerCharIn, endsWord_append_of_settledBetween hsettled]
      · simp only [lowerCharIn, if_neg hc]
    rw [lowerIn, lowerIn, hhead, List.append_nil, ← List.cons_append, ih h.2]

theorem isInfix_lowerAfter_of_isSettled {t s : List Char} (h : IsSettled t) (hwithin : t <:+: s) :
    lowerAfter [] t <:+: lowerAfter [] s := by
  obtain ⟨x, y, rfl⟩ := hwithin
  rw [List.append_assoc, lowerAfter_append, lowerAfter_append, ← List.append_assoc]
  have hform := lowerIn_append_of_settles h (x.reverse ++ []) y
  rw [List.nil_append, lowerIn_nil] at hform
  rw [hform]
  exact List.infix_append _ _ _

/-! ## Sigmas that are not settled -/

/-- Whether any text that is followed by `t` starts with case, if it does so when it is followed by
`s`. -/
def StaysCased (s t : List Char) : Prop :=
  ∀ x, startsCased (x ++ s) = true → startsCased (x ++ t) = true

theorem staysCased_refl (s : List Char) : StaysCased s s := fun _ h => h

theorem staysCased_nil (t : List Char) : StaysCased [] t := fun x h =>
  startsCased_append_of_startsCased (List.append_nil x ▸ h) t

theorem StaysCased.append {s t : List Char} (h : StaysCased s t) (u : List Char) :
    StaysCased (u ++ s) (u ++ t) := fun x hx => by
  rw [← List.append_assoc] at hx ⊢
  exact h _ hx

section Sigmas

variable {before before' after after' : List Char}

/-- A sigma that ends a word in more places is the final one in more places. -/
theorem count_lowerCharIn_le (c : Char)
    (h : endsWord before after = true → endsWord before' after' = true) :
    (lowerCharIn before' c after').count smallSigma ≤
        (lowerCharIn before c after).count smallSigma ∧
      (lowerCharIn before c after).count finalSigma ≤
        (lowerCharIn before' c after').count finalSigma := by
  unfold lowerCharIn
  by_cases hc : c = capitalSigma
  · rw [if_pos hc, if_pos hc]
    cases hends : endsWord before after with
    | true =>
      rw [h hends]
      exact ⟨Nat.le_refl _, Nat.le_refl _⟩
    | false => cases endsWord before' after' <;> decide
  · rw [if_neg hc, if_neg hc]
    exact ⟨Nat.le_refl _, Nat.le_refl _⟩

variable (hbefore : StaysCased before before') (hafter : StaysCased after' after)

include hbefore hafter

theorem endsWord_of_staysCased {x y : List Char}
    (h : endsWord (x ++ before) (y ++ after) = true) :
    endsWord (x ++ before') (y ++ after') = true := by
  unfold endsWord at h ⊢
  rw [Bool.and_eq_true, Bool.not_eq_true'] at h ⊢
  refine ⟨hbefore x h.1, Bool.eq_false_iff.mpr fun hcased => ?_⟩
  exact absurd (hafter y hcased) (by simp [h.2])

theorem count_lowerIn_le (s : List Char) :
    (lowerIn before' s after').count smallSigma ≤ (lowerIn before s after).count smallSigma ∧
      (lowerIn before s after).count finalSigma ≤
        (lowerIn before' s after').count finalSigma := by
  induction s generalizing before before' with
  | nil => exact ⟨Nat.le_refl _, Nat.le_refl _⟩
  | cons c cs ih =>
    obtain ⟨hsmall, hfinal⟩ := ih (hbefore.append [c])
    obtain ⟨hsmall', hfinal'⟩ := count_lowerCharIn_le c
      (endsWord_of_staysCased (x := []) (y := cs) hbefore hafter)
    simp only [lowerIn, List.count_append]
    exact ⟨Nat.add_le_add hsmall' hsmall, Nat.add_le_add hfinal' hfinal⟩

/-- **A sigma that ends a word in one place only shows** in the number of sigmas. -/
theorem count_lowerIn_lt {u v : List Char}
    (hends : endsWord (u.reverse ++ before) (v ++ after) = false)
    (hends' : endsWord (u.reverse ++ before') (v ++ after') = true) :
    (lowerIn before' (u ++ capitalSigma :: v) after').count smallSigma <
        (lowerIn before (u ++ capitalSigma :: v) after).count smallSigma ∧
      (lowerIn before (u ++ capitalSigma :: v) after).count finalSigma <
        (lowerIn before' (u ++ capitalSigma :: v) after').count finalSigma := by
  -- the sigma makes the difference, and no other one makes up for it
  obtain ⟨hsmall, hfinal⟩ := count_lowerIn_le hbefore (hafter.append (capitalSigma :: v)) u
  obtain ⟨hsmall', hfinal'⟩ :=
    count_lowerIn_le (hbefore.append (capitalSigma :: u.reverse)) hafter v
  have hsigma : lowerCharIn (u.reverse ++ before) capitalSigma (v ++ after) = [smallSigma] := by
    rw [lowerCharIn, if_pos rfl, hends, if_neg Bool.false_ne_true]
  have hsigma' : lowerCharIn (u.reverse ++ before') capitalSigma (v ++ after') = [finalSigma] := by
    rw [lowerCharIn, if_pos rfl, hends', if_pos rfl]
  have hone : [smallSigma].count smallSigma = 1 ∧ [smallSigma].count finalSigma = 0 ∧
      [finalSigma].count smallSigma = 0 ∧ [finalSigma].count finalSigma = 1 := by decide
  simp only [lowerIn_append, lowerIn, hsigma, hsigma', List.count_append, hone]
  simp only [List.cons_append] at hsmall hfinal hsmall' hfinal' ⊢
  omega

end Sigmas

/-! ## Letters around a part -/

theorem startsCased_a : startsCased ['a'] = true := by decide +kernel

theorem lowerAfter_a (before : List Char) : lowerAfter before ['a'] = ['a'] := rfl

theorem count_lowerAfter_a_append (t : List Char) :
    (lowerAfter [] (['a'] ++ t)).count smallSigma = (lowerIn ['a'] t []).count smallSigma := by
  have hform : lowerAfter [] (['a'] ++ t) = 'a' :: lowerIn ['a'] t [] := by
    rw [lowerAfter_append, lowerIn_nil]
    rfl
  rw [hform, List.count_cons_of_ne (by decide)]

theorem count_lowerAfter_append_a (t : List Char) :
    (lowerAfter [] (t ++ ['a'])).count finalSigma = (lowerIn [] t ['a']).count finalSigma := by
  rw [lowerAfter_append, lowerAfter_a, List.count_append]
  rfl

/-- A letter in front of a part makes a sigma final, if nothing behind the sigma has case and
nothing in front of it counts. -/
theorem count_lt_of_letter_in_front {u v : List Char} (hu : counts u.reverse = false)
    (hv : startsCased v = false) :
    (lowerAfter [] (['a'] ++ (u ++ capitalSigma :: v))).count smallSigma <
      (lowerAfter [] (u ++ capitalSigma :: v)).count smallSigma := by
  have hends : endsWord (u.reverse ++ []) (v ++ []) = false := by
    rw [endsWord, List.append_nil, startsCased_of_not_counts hu, Bool.false_and]
  have hends' : endsWord (u.reverse ++ ['a']) (v ++ []) = true := by
    rw [endsWord, List.append_nil, hv, startsCased_append, hu, if_neg Bool.false_ne_true,
      startsCased_a]
    rfl
  rw [count_lowerAfter_a_append, ← lowerIn_nil []]
  exact (count_lowerIn_lt (staysCased_nil ['a']) (staysCased_refl []) hends hends').1

/-- A letter behind a part makes a sigma small, if a letter in front of the sigma has case and
nothing behind it counts. -/
theorem count_lt_of_letter_behind {u v : List Char} (hu : startsCased u.reverse = true)
    (hv : counts v = false) :
    (lowerAfter [] ((u ++ capitalSigma :: v) ++ ['a'])).count finalSigma <
      (lowerAfter [] (u ++ capitalSigma :: v)).count finalSigma := by
  have hends : endsWord (u.reverse ++ []) (v ++ ['a']) = false := by
    rw [endsWord, startsCased_append v, hv, if_neg Bool.false_ne_true, startsCased_a]
    exact Bool.and_false _
  have hends' : endsWord (u.reverse ++ []) (v ++ []) = true := by
    rw [endsWord, List.append_nil, List.append_nil, hu, startsCased_of_not_counts hv]
    rfl
  rw [count_lowerAfter_append_a, ← lowerIn_nil []]
  exact (count_lowerIn_lt (staysCased_refl []) (staysCased_nil ['a']) hends hends').2

/-- **The parts whose form is found wherever they stand** are the settled ones. -/
theorem isSettled_iff {t : List Char} :
    IsSettled t ↔ ∀ s, t <:+: s → lowerAfter [] t <:+: lowerAfter [] s := by
  refine ⟨fun h s => isInfix_lowerAfter_of_isSettled h, fun hfound => ?_⟩
  by_contra hsettled
  obtain ⟨u, v, rfl, hbetween⟩ := exists_not_settledBetween (Bool.eq_false_iff.mpr hsettled)
  rw [List.append_nil] at hbetween
  obtain ⟨hafter, hopen⟩ := not_or.mp hbetween
  rw [Bool.not_eq_true] at hafter
  -- a letter on the open side of the sigma changes what it becomes
  by_cases hcounts : counts u.reverse = true
  · obtain ⟨hu, hv⟩ : startsCased u.reverse = true ∧ counts v = false := by
      simpa [hcounts] using hopen
    have hlt := count_lt_of_letter_behind hu hv
    have hwithin := hfound _ (List.prefix_append _ ['a']).isInfix
    exact absurd (hwithin.sublist.count_le finalSigma) (Nat.not_le.mpr hlt)
  · have hlt := count_lt_of_letter_in_front (Bool.not_eq_true _ ▸ hcounts) hafter
    have hwithin := hfound _ (List.suffix_append ['a'] _).isInfix
    exact absurd (hwithin.sublist.count_le smallSigma) (Nat.not_le.mpr hlt)

/-- A sigma at the beginning of a word is settled, one at the end is not. -/
example : IsSettled "Σίσυφος".toList ∧ ¬IsSettled "ΟΣ".toList := by decide +kernel

end Weblog.Text
