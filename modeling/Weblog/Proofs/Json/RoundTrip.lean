import Mathlib.Data.List.DropRight
import Mathlib.Tactic.Common
import Weblog.Json.Printer
import Weblog.Proofs.Json.Numbers
import Weblog.Proofs.Json.Strings
/-!
# JSON texts read back

The text of a value is read back as the value, if all its numbers are integers of 64 bits. Two steps
of the scanner for every character of the text are enough.

* `Integral`: values whose numbers are all integers of 64 bits.
* `ReadsBack`: whether a value is read back from its text at an indentation.
* `scanItems_render`, `scanMembers_render`: items and members, given that the values are read back.
* `readsBack`: every such value is.
* **`ofText_render_append`**: the outline of the text of a value is the value.
-/

namespace Weblog.Json

open Number

/-- Values whose numbers are all integers of 64 bits. -/
inductive Integral : Json → Prop
  | null : Integral .null
  | bool (b : Bool) : Integral (.bool b)
  | int {i : Int} (h : IsExact i) : Integral (.number (.int i))
  | string (s : String) : Integral (.string s)
  | array {items : List Json} (h : ∀ item ∈ items, Integral item) : Integral (.array items)
  | object {members : List (String × Json)} (h : ∀ m ∈ members, Integral m.2) :
    Integral (.object members)

/-! ## White space -/

theorem skipSpace_cons {c : Char} (h : isSpace c = false) (s : List Char) :
    skipSpace (c :: s) = c :: s :=
  List.dropWhile_cons_of_neg (by simp [h])

theorem skipSpace_newLine (depth : Nat) (s : List Char) :
    skipSpace (newLine depth ++ s) = skipSpace s := by
  refine List.dropWhile_append_of_pos fun c hc => ?_
  obtain rfl | hc := List.mem_cons.mp hc
  · rfl
  · rw [List.eq_of_mem_replicate hc]
    rfl

theorem skipSpace_skipSpace (s : List Char) : skipSpace (skipSpace s) = skipSpace s :=
  List.dropWhile_idempotent isSpace s

theorem scanValue_skipSpace (fuel : Nat) (s : List Char) :
    scanValue fuel (skipSpace s) = scanValue fuel s := by
  cases fuel with
  | zero => rfl
  | succ fuel => rw [scanValue, scanValue, skipSpace_skipSpace]

theorem scanValue_newLine (fuel depth : Nat) (s : List Char) :
    scanValue fuel (newLine depth ++ s) = scanValue fuel s := by
  rw [← scanValue_skipSpace, skipSpace_newLine, scanValue_skipSpace]

theorem scanItems_newLine (fuel depth : Nat) (s : List Char) :
    scanItems fuel (newLine depth ++ s) = scanItems fuel s := by
  cases fuel with
  | zero => rfl
  | succ fuel => rw [scanItems, scanItems, scanValue_newLine]

theorem scanMembers_newLine (fuel depth : Nat) (s : List Char) :
    scanMembers fuel (newLine depth ++ s) = scanMembers fuel s := by
  cases fuel with
  | zero => rfl
  | succ fuel => rw [scanMembers, scanMembers, skipSpace_newLine]

/-! ## First characters -/

/-- The characters that the text of a value begins with. -/
def StartsValue (c : Char) : Prop :=
  c ∈ ['n', 't', 'f', '"', '[', '\x7b', '-'] ∨ c.isDigit = true

theorem StartsValue.not_space {c : Char} (h : StartsValue c) : isSpace c = false := by
  rcases h with h | h
  · simp only [List.mem_cons, List.not_mem_nil, or_false] at h
    rcases h with rfl | rfl | rfl | rfl | rfl | rfl | rfl <;> rfl
  · by_contra hs
    simp only [isSpace, Bool.not_eq_false, Bool.or_eq_true, beq_iff_eq] at hs
    rcases hs with ((rfl | rfl) | rfl) | rfl <;> exact absurd h (by decide)

theorem StartsValue.ne_bracket {c : Char} (h : StartsValue c) : c ≠ ']' := by
  rintro rfl
  exact absurd h (by unfold StartsValue; decide)

theorem intText_eq_cons (i : Int) :
    ∃ c cs, intText i = c :: cs ∧ (c = '-' ∨ c.isDigit = true) := by
  unfold intText
  split_ifs
  · exact ⟨'-', _, rfl, Or.inl rfl⟩
  · obtain ⟨c, cs, hc⟩ := List.exists_cons_of_ne_nil (Nat.toDigits_ne_nil (n := i.natAbs) (b := 10))
    exact ⟨c, cs, hc, Or.inr (isDigit_of_mem_toDigits c (by rw [hc]; exact List.mem_cons_self))⟩

theorem renderAt_eq_cons {value : Json} (h : value.Integral) (depth : Nat) :
    ∃ c cs, renderAt depth value = c :: cs ∧ StartsValue c := by
  cases h with
  | null => exact ⟨'n', _, rfl, Or.inl (by decide)⟩
  | bool b => cases b with
    | true => exact ⟨'t', _, rfl, Or.inl (by decide)⟩
    | false => exact ⟨'f', _, rfl, Or.inl (by decide)⟩
  | @int i _ =>
    obtain ⟨c, cs, hc, hstart⟩ := intText_eq_cons i
    refine ⟨c, cs, hc, hstart.imp (fun h => ?_) id⟩
    rw [h]
    decide
  | string s => exact ⟨'"', _, rfl, Or.inl (by decide)⟩
  | @array items _ => cases items with
    | nil => exact ⟨'[', _, rfl, Or.inl (by decide)⟩
    | cons item items => exact ⟨'[', _, by rw [renderAt]; rfl, Or.inl (by decide)⟩
  | @object members _ => cases members with
    | nil => exact ⟨'\x7b', _, rfl, Or.inl (by decide)⟩
    | cons m members => exact ⟨'\x7b', _, by rw [renderAt]; rfl, Or.inl (by decide)⟩

/-! ## Items and members -/

/-- Whether a value is read back from its text at an indentation, and what follows is left. -/
def ReadsBack (depth : Nat) (value : Json) : Prop :=
  ∀ fuel rest, 2 * (renderAt depth value).length ≤ fuel → EndsNumber rest →
    scanValue fuel (renderAt depth value ++ rest) = (.ofJson value, some rest)

/-- The items after the first one and the end of an array continue no number. -/
theorem endsNumber_renderItems (depth outer : Nat) (items : List Json) (rest : List Char) :
    EndsNumber (renderItems depth items ++ (newLine outer ++ ']' :: rest)) := by
  cases items with
  | nil => exact endsNumber_cons _ (by decide) (by decide) (by decide) (by decide)
  | cons item items =>
    rw [renderItems, List.cons_append, List.cons_append]
    exact endsNumber_cons _ (by decide) (by decide) (by decide) (by decide)

theorem endsNumber_renderMembers (depth outer : Nat) (members : List (String × Json))
    (rest : List Char) :
    EndsNumber (renderMembers depth members ++ (newLine outer ++ '\x7d' :: rest)) := by
  cases members with
  | nil => exact endsNumber_cons _ (by decide) (by decide) (by decide) (by decide)
  | cons m members =>
    rw [renderMembers, List.cons_append, List.cons_append]
    exact endsNumber_cons _ (by decide) (by decide) (by decide) (by decide)

/-- **The items of an array are read back** up to the bracket behind them. -/
theorem scanItems_render {depth : Nat} (outer : Nat) (rest : List Char) (items : List Json) :
    ∀ (item : Json) (fuel : Nat), ReadsBack depth item → (∀ next ∈ items, ReadsBack depth next) →
      2 * ((renderAt depth item).length + (renderItems depth items).length) + 1 ≤ fuel →
      scanItems fuel (renderAt depth item ++
          (renderItems depth items ++ (newLine outer ++ ']' :: rest))) =
        (itemsOfJson (item :: items), some rest) := by
  induction items with
  | nil =>
    intro item fuel hitem _ hfuel
    obtain ⟨fuel, rfl⟩ := Nat.exists_eq_add_of_le' (show 1 ≤ fuel by omega)
    rw [scanItems, hitem fuel _ (by omega) (endsNumber_renderItems _ _ _ _)]
    simp only [renderItems, List.nil_append, skipSpace_newLine]
    rw [skipSpace_cons (by decide)]
    rfl
  | cons next items ih =>
    intro item fuel hitem hitems hfuel
    obtain ⟨fuel, rfl⟩ := Nat.exists_eq_add_of_le' (show 1 ≤ fuel by omega)
    have hnext := hitems next List.mem_cons_self
    have hlater := fun v hv => hitems v (List.mem_cons_of_mem next hv)
    rw [renderItems, List.length_append, List.length_append, List.length_cons] at hfuel
    have hih := ih next fuel hnext hlater (by omega)
    rw [scanItems, hitem fuel _ (by omega) (endsNumber_renderItems _ _ _ _)]
    simp only [renderItems, List.cons_append, List.append_assoc]
    rw [skipSpace_cons (by decide)]
    simp only [scanItems_newLine, hih]
    rfl

theorem scanMembers_memberName (fuel : Nat) (name : String) (s : List Char) :
    scanMembers (fuel + 1) (memberName name ++ s) =
      match scanValue fuel s with
      | (value, none) => ([(some name, value)], none)
      | (value, some rest) =>
        match skipSpace rest with
        | ',' :: rest =>
          let (members, rest) := scanMembers fuel rest
          ((some name, value) :: members, rest)
        | '\x7d' :: rest => ([(some name, value)], some rest)
        | _ => ([(some name, value)], none) := by
  have hname : memberName name ++ s =
      '"' :: (name.toList.flatMap quotedChar ++ '"' :: ':' :: ' ' :: s) := by
    simp [memberName, quote]
  have hblank : scanValue fuel (' ' :: s) = scanValue fuel s := by
    rw [← scanValue_skipSpace, ← scanValue_skipSpace fuel s]
    rfl
  rw [hname, scanMembers, skipSpace_cons (by decide)]
  simp only [scanString_quote, String.ofList_toList]
  rw [skipSpace_cons (by decide)]
  exact hblank ▸ rfl

/-- **The members of an object are read back** up to the brace behind them. -/
theorem scanMembers_render {depth : Nat} (outer : Nat) (rest : List Char)
    (members : List (String × Json)) :
    ∀ (name : String) (value : Json) (fuel : Nat), ReadsBack depth value →
      (∀ next ∈ members, ReadsBack depth next.2) →
      2 * ((renderAt depth value).length + (renderMembers depth members).length) + 1 ≤ fuel →
      scanMembers fuel (memberName name ++ (renderAt depth value ++
          (renderMembers depth members ++ (newLine outer ++ '\x7d' :: rest)))) =
        (membersOfJson ((name, value) :: members), some rest) := by
  induction members with
  | nil =>
    intro name value fuel hvalue _ hfuel
    obtain ⟨fuel, rfl⟩ := Nat.exists_eq_add_of_le' (show 1 ≤ fuel by omega)
    rw [scanMembers_memberName, hvalue fuel _ (by omega) (endsNumber_renderMembers _ _ _ _)]
    simp only [renderMembers, List.nil_append, skipSpace_newLine]
    rw [skipSpace_cons (by decide)]
    rfl
  | cons next members ih =>
    intro name value fuel hvalue hmembers hfuel
    obtain ⟨fuel, rfl⟩ := Nat.exists_eq_add_of_le' (show 1 ≤ fuel by omega)
    have hnext := hmembers next List.mem_cons_self
    have hlater := fun m hm => hmembers m (List.mem_cons_of_mem next hm)
    rw [renderMembers, List.length_append, List.length_append, List.length_append,
      List.length_cons] at hfuel
    have hih := ih next.1 next.2 fuel hnext hlater (by omega)
    rw [scanMembers_memberName, hvalue fuel _ (by omega) (endsNumber_renderMembers _ _ _ _)]
    simp only [renderMembers, List.cons_append, List.append_assoc]
    rw [skipSpace_cons (by decide)]
    simp only [scanMembers_newLine, hih]
    rfl

/-! ## Values -/

theorem scanValue_numeral {c : Char} (h : c = '-' ∨ c.isDigit = true) (fuel : Nat)
    (s : List Char) : scanValue (fuel + 1) (c :: s) = scanNumeral (c :: s) := by
  have hstart : StartsValue c := h.imp (by rintro rfl; decide) id
  have hletters : ∀ d ∈ ['n', 't', 'f', '"', '[', '\x7b'], c ≠ d := by
    rintro d hd rfl
    rcases h with rfl | h
    · exact absurd hd (by decide)
    · simp only [List.mem_cons, List.not_mem_nil, or_false] at hd
      rcases hd with rfl | rfl | rfl | rfl | rfl | rfl <;> exact absurd h (by decide)
  rw [scanValue, skipSpace_cons hstart.not_space]
  split <;> simp_all

theorem readsBack_word {depth : Nat} {value : Json} (first : Char) (word : String)
    (htext : renderAt depth value = first :: word.toList)
    (hscan : ∀ fuel rest, scanValue (fuel + 1) (first :: rest) =
      scanWord word (.ofJson value) rest) : ReadsBack depth value := by
  intro fuel rest hfuel _
  obtain ⟨fuel, rfl⟩ := Nat.exists_eq_add_of_le' (show 1 ≤ fuel by simp [htext] at hfuel; omega)
  rw [htext, List.cons_append, hscan, scanWord, skipWord, if_pos (by simp), List.drop_left]

theorem scanValue_bracket {c : Char} (h : StartsValue c) (fuel depth : Nat) (s : List Char) :
    scanValue (fuel + 1) ('[' :: (newLine depth ++ c :: s)) =
      (.array (scanItems fuel (c :: s)).1 (scanItems fuel (c :: s)).2.isSome,
        (scanItems fuel (c :: s)).2) := by
  rw [scanValue, skipSpace_cons (by decide)]
  simp only [skipSpace_newLine]
  rw [skipSpace_cons h.not_space]
  split
  · exact absurd (List.cons.inj ‹_›).1 h.ne_bracket
  · rfl

theorem scanValue_brace (fuel depth : Nat) (name : String) (s : List Char) :
    scanValue (fuel + 1) ('\x7b' :: (newLine depth ++ (memberName name ++ s))) =
      (.object (scanMembers fuel (memberName name ++ s)).1
          (scanMembers fuel (memberName name ++ s)).2.isSome,
        (scanMembers fuel (memberName name ++ s)).2) := by
  rw [scanValue, skipSpace_cons (by decide)]
  simp only [skipSpace_newLine]
  rw [memberName, quote, List.cons_append, List.cons_append, List.cons_append,
    skipSpace_cons (by decide)]
  rfl

/-- **Every value without other numbers is read back.** -/
theorem readsBack {value : Json} (h : value.Integral) : ∀ depth, ReadsBack depth value := by
  induction h with
  | null =>
    exact fun depth => readsBack_word 'n' "ull" rfl fun _ _ => by
      rw [scanValue]; rfl
  | bool b => cases b with
    | true =>
      exact fun depth => readsBack_word 't' "rue" rfl fun _ _ => by
        rw [scanValue]; rfl
    | false =>
      exact fun depth => readsBack_word 'f' "alse" rfl fun _ _ => by
        rw [scanValue]; rfl
  | @int i hi =>
    intro depth fuel rest hfuel hrest
    obtain ⟨c, cs, hc, hstart⟩ := intText_eq_cons i
    have htext : renderAt depth (.number (.int i)) = intText i := by rw [renderAt]; rfl
    obtain ⟨fuel, rfl⟩ := Nat.exists_eq_add_of_le'
      (show 1 ≤ fuel by rw [htext, hc, List.length_cons] at hfuel; omega)
    rw [htext, hc, List.cons_append, scanValue_numeral hstart, ← List.cons_append, ← hc,
      scanNumeral_intText hi hrest]
    rfl
  | string s =>
    intro depth fuel rest hfuel _
    have htext : renderAt depth (.string s) ++ rest =
        '"' :: (s.toList.flatMap quotedChar ++ '"' :: rest) := by simp [renderAt, quote]
    obtain ⟨fuel, rfl⟩ := Nat.exists_eq_add_of_le'
      (show 1 ≤ fuel by simp [renderAt, quote] at hfuel; omega)
    rw [htext, scanValue, skipSpace_cons (by decide)]
    simp only [scanString_quote, String.ofList_toList]
    rfl
  | @array items hitems ih =>
    intro depth fuel rest hfuel _
    obtain ⟨fuel, rfl⟩ := Nat.exists_eq_add_of_le'
      (show 1 ≤ fuel by cases items <;> simp [renderAt] at hfuel <;> omega)
    cases items with
    | nil => rw [renderAt, scanValue]; rfl
    | cons item items =>
      have hitem := ih item List.mem_cons_self (depth + 1)
      have hlater := fun v hv => ih v (List.mem_cons_of_mem item hv) (depth + 1)
      have hscan := scanItems_render depth rest items item fuel hitem hlater
        (by simp [renderAt] at hfuel; omega)
      obtain ⟨c, cs, hc, hstart⟩ := renderAt_eq_cons (hitems item List.mem_cons_self) (depth + 1)
      simp only [renderAt, List.cons_append, List.append_assoc, List.nil_append]
      rw [hc, List.cons_append] at hscan ⊢
      rw [scanValue_bracket hstart, hscan]
      rfl
  | @object members hmembers ih =>
    intro depth fuel rest hfuel _
    obtain ⟨fuel, rfl⟩ := Nat.exists_eq_add_of_le'
      (show 1 ≤ fuel by cases members <;> simp [renderAt] at hfuel <;> omega)
    cases members with
    | nil => rw [renderAt, scanValue]; rfl
    | cons m members =>
      obtain ⟨name, value⟩ := m
      have hvalue := ih (name, value) List.mem_cons_self (depth + 1)
      have hlater := fun m hm => ih m (List.mem_cons_of_mem (name, value) hm) (depth + 1)
      have hscan := scanMembers_render depth rest members name value fuel hvalue hlater
        (by simp [renderAt] at hfuel; omega)
      simp only [renderAt, List.cons_append, List.append_assoc, List.nil_append]
      rw [scanValue_brace, hscan]
      rfl

/-! ## Texts -/

theorem endsNumber_of_isSpace {rest : List Char} (h : ∀ c ∈ rest, isSpace c = true) :
    EndsNumber rest := by
  intro c hc
  have hspace := h c (List.mem_of_mem_head? hc)
  simp only [isSpace, Bool.or_eq_true, beq_iff_eq] at hspace
  obtain ((rfl | rfl) | rfl) | rfl := hspace <;> decide

/-- **The outline of the text of a value is the value**, and nothing but white space follows it. -/
theorem ofText_render_append {value : Json} (h : value.Integral) {rest : String}
    (hrest : ∀ c ∈ rest.toList, isSpace c = true) :
    Document.ofText (value.render ++ rest) = (.ofJson value, true) := by
  have htext : (value.render ++ rest).toList = renderAt 0 value ++ rest.toList := by
    rw [String.toList_append, render, String.toList_ofList]
  have hscan := readsBack h 0 (2 * (renderAt 0 value ++ rest.toList).length + 1) rest.toList
    (by rw [List.length_append]; omega) (endsNumber_of_isSpace hrest)
  have hend : skipSpace rest.toList = [] := List.dropWhile_eq_nil_iff.mpr hrest
  simp only [Document.ofText, htext, hscan, hend]
  rfl

theorem ofText_render {value : Json} (h : value.Integral) :
    Document.ofText value.render = (.ofJson value, true) := by
  have hempty := ofText_render_append h (show ∀ c ∈ "".toList, isSpace c = true by simp)
  rwa [String.append_empty] at hempty

end Weblog.Json
