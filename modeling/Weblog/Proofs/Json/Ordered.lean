import Mathlib.Data.List.Basic
import Weblog.Proofs.Json.RoundTrip
/-!
# JSON texts read again

What is read from a text is ordered: the members of every object are in ascending order, each name
once, and arrays and objects are nested only so many levels deep. The text of an ordered value is
read back as the value.

* `Ascending`: members in ascending order of their names.
* `ascending_putMember`, `sortedObject_of_ascending`: sorting members makes them ascending, and
  changes nothing where they are.
* `Ordered`: the values that can be read from a text.
* **`ordered_of_ofText`**: only such values are read.
* **`ofText_render_line`**: an ordered value is read back from the line that is printed for it.
-/

namespace Weblog.Json

/-! ## Members in ascending order -/

/-- Whether members are in ascending order of their names, each name once. -/
def Ascending (members : List (String × Json)) : Prop :=
  members.Pairwise fun m m' => m.1 < m'.1

instance (members : List (String × Json)) : Decidable (Ascending members) :=
  inferInstanceAs (Decidable (members.Pairwise fun m m' => m.1 < m'.1))

theorem mem_putMember {name : String} {value : Json} {members : List (String × Json)}
    {m : String × Json} (h : m ∈ putMember name value members) :
    m = (name, value) ∨ m ∈ members := by
  fun_induction putMember name value members with
  | case1 => exact .inl (List.mem_singleton.mp h)
  | case2 n v rest hlt => exact List.mem_cons.mp h
  | case3 n v rest hnot hlt ih =>
    obtain rfl | h := List.mem_cons.mp h
    · exact .inr List.mem_cons_self
    · exact (ih h).imp_right (List.mem_cons_of_mem _)
  | case4 n v rest hnot hnot' =>
    exact (List.mem_cons.mp h).imp_right (List.mem_cons_of_mem _)

/-- **A member is put where it belongs.** -/
theorem ascending_putMember (name : String) (value : Json) {members : List (String × Json)}
    (h : Ascending members) : Ascending (putMember name value members) := by
  fun_induction putMember name value members with
  | case1 => exact List.pairwise_singleton _ _
  | case2 n v rest hlt =>
    obtain ⟨hn, hrest⟩ := List.pairwise_cons.mp h
    refine List.pairwise_cons.mpr ⟨fun m hm => ?_, h⟩
    obtain rfl | hm := List.mem_cons.mp hm
    · exact hlt
    · exact String.lt_trans hlt (hn m hm)
  | case3 n v rest hnot hlt ih =>
    obtain ⟨hn, hrest⟩ := List.pairwise_cons.mp h
    refine List.pairwise_cons.mpr ⟨fun m hm => ?_, ih hrest⟩
    obtain rfl | hm := mem_putMember hm
    · exact hlt
    · exact hn m hm
  | case4 n v rest hnot hnot' =>
    obtain ⟨hn, hrest⟩ := List.pairwise_cons.mp h
    obtain rfl : name = n := String.le_antisymm (String.not_lt.mp hnot') (String.not_lt.mp hnot)
    exact List.pairwise_cons.mpr ⟨hn, hrest⟩

theorem putMember_of_last {members : List (String × Json)} {m : String × Json}
    (h : ∀ m' ∈ members, m'.1 < m.1) : putMember m.1 m.2 members = members ++ [m] := by
  induction members with
  | nil => rfl
  | cons m' rest ih =>
    have hlt := h m' List.mem_cons_self
    rw [putMember, if_neg (String.lt_asymm hlt), if_pos hlt,
      ih fun m'' hm => h m'' (List.mem_cons_of_mem m' hm), List.cons_append]

/-- Members one after the other, put among members that are in order. -/
def putMembers (sorted members : List (String × Json)) : List (String × Json) :=
  members.foldl (fun sorted m => putMember m.1 m.2 sorted) sorted

theorem ascending_putMembers (members : List (String × Json)) {sorted : List (String × Json)}
    (h : Ascending sorted) : Ascending (putMembers sorted members) := by
  induction members generalizing sorted with
  | nil => exact h
  | cons m members ih => exact ih (ascending_putMember m.1 m.2 h)

theorem mem_putMembers {members sorted : List (String × Json)} {m : String × Json}
    (h : m ∈ putMembers sorted members) : m ∈ sorted ∨ m ∈ members := by
  induction members generalizing sorted with
  | nil => exact .inl h
  | cons m' members ih =>
    obtain hm | hm := ih h
    · obtain rfl | hm := mem_putMember hm
      · exact .inr List.mem_cons_self
      · exact .inl hm
    · exact .inr (List.mem_cons_of_mem m' hm)

theorem putMembers_of_ascending {members sorted : List (String × Json)}
    (h : Ascending (sorted ++ members)) : putMembers sorted members = sorted ++ members := by
  induction members generalizing sorted with
  | nil => exact (List.append_nil sorted).symm
  | cons m members ih =>
    have hlast : ∀ m' ∈ sorted, m'.1 < m.1 := fun m' hm =>
      (List.pairwise_append.mp h).2.2 m' hm m List.mem_cons_self
    rw [List.append_cons] at h ⊢
    rw [← ih h, ← putMember_of_last hlast]
    rfl

/-- **Members in ascending order stay as they are.** -/
theorem sortedObject_of_ascending {members : List (String × Json)} (h : Ascending members) :
    sortedObject members = .object members :=
  congrArg object (putMembers_of_ascending h)

/-! ## Ordered values -/

/-- Values nested at most some levels deep in which all members are in ascending order. -/
inductive Ordered : Nat → Json → Prop
  | null {depth : Nat} : Ordered depth .null
  | bool {depth : Nat} (b : Bool) : Ordered depth (.bool b)
  | number {depth : Nat} (n : Numeral) : Ordered depth (.number n)
  | string {depth : Nat} (s : String) : Ordered depth (.string s)
  | array {depth : Nat} {items : List Json} (h : ∀ item ∈ items, Ordered depth item) :
    Ordered (depth + 1) (.array items)
  | object {depth : Nat} {members : List (String × Json)} (hascending : Ascending members)
    (h : ∀ m ∈ members, Ordered depth m.2) : Ordered (depth + 1) (.object members)

theorem Ordered.sortedObject {depth : Nat} {members : List (String × Json)}
    (h : ∀ m ∈ members, Ordered depth m.2) : Ordered (depth + 1) (sortedObject members) :=
  .object (ascending_putMembers members List.Pairwise.nil) fun m hm =>
    h m ((mem_putMembers hm).resolve_left List.not_mem_nil)

mutual

/-- **The value of a document is ordered.** -/
theorem Document.ordered_toJson {value : Json} : ∀ {depth : Nat} (d : Document),
    d.toJson depth = some value → value.Ordered depth
  | _, .null, h => by cases h; exact .null
  | _, .bool b, h => by cases h; exact .bool b
  | _, .number n, h => by
    obtain ⟨n, -, rfl⟩ := Option.map_eq_some_iff.mp h
    exact .number n
  | _, .string s, h => by
    obtain ⟨s, -, rfl⟩ := Option.map_eq_some_iff.mp h
    exact .string s
  | depth, .array items closed, h => by
    rw [Document.toJson] at h
    split_ifs at h with hrefused
    obtain ⟨values, hitems, rfl⟩ := Option.map_eq_some_iff.mp h
    obtain ⟨depth, rfl⟩ := Nat.exists_eq_succ_of_ne_zero fun hzero => hrefused (.inl hzero)
    exact .array (ordered_itemsToJson items hitems)
  | depth, .object members closed, h => by
    rw [Document.toJson] at h
    split_ifs at h with hrefused
    obtain ⟨values, hmembers, rfl⟩ := Option.map_eq_some_iff.mp h
    obtain ⟨depth, rfl⟩ := Nat.exists_eq_succ_of_ne_zero fun hzero => hrefused (.inl hzero)
    exact .sortedObject (ordered_membersToJson members hmembers)
  | _, .broken, h => by cases h

theorem ordered_itemsToJson {depth : Nat} : ∀ (items : List Document) {values : List Json},
    itemsToJson depth items = some values → ∀ value ∈ values, value.Ordered depth
  | [], _, h => by cases h; exact fun _ hv => absurd hv List.not_mem_nil
  | item :: items, _, h => by
    simp only [itemsToJson, Option.bind_eq_bind, Option.bind_eq_some_iff] at h
    obtain ⟨first, hfirst, rest, hrest, hvalues⟩ := h
    cases hvalues
    intro value hv
    obtain rfl | hv := List.mem_cons.mp hv
    · exact item.ordered_toJson hfirst
    · exact ordered_itemsToJson items hrest value hv

theorem ordered_membersToJson {depth : Nat} : ∀ (members : List (Option String × Document))
    {values : List (String × Json)},
    membersToJson depth members = some values → ∀ m ∈ values, m.2.Ordered depth
  | [], _, h => by cases h; exact fun _ hv => absurd hv List.not_mem_nil
  | (name, d) :: members, _, h => by
    simp only [membersToJson, Option.bind_eq_bind, Option.bind_eq_some_iff] at h
    obtain ⟨name, -, value, hvalue, rest, hrest, hvalues⟩ := h
    cases hvalues
    intro m hm
    obtain rfl | hm := List.mem_cons.mp hm
    · exact d.ordered_toJson hvalue
    · exact ordered_membersToJson members hrest m hm

end

/-- **Only ordered values are read.** -/
theorem ordered_of_ofText {text : String} {value : Json} (h : ofText text = some value) :
    value.Ordered depthLimit := by
  unfold ofText at h
  split at h
  · exact Document.ordered_toJson _ h
  · cases h

/-! ## Reading again -/

theorem itemsToJson_itemsOfJson {depth : Nat} {items : List Json}
    (h : ∀ item ∈ items, (Document.ofJson item).toJson depth = some item) :
    itemsToJson depth (itemsOfJson items) = some items := by
  induction items with
  | nil => rfl
  | cons item items ih =>
    rw [itemsOfJson, itemsToJson, h item List.mem_cons_self,
      ih fun i hi => h i (List.mem_cons_of_mem item hi)]
    rfl

theorem membersToJson_membersOfJson {depth : Nat} {members : List (String × Json)}
    (h : ∀ m ∈ members, (Document.ofJson m.2).toJson depth = some m.2) :
    membersToJson depth (membersOfJson members) = some members := by
  induction members with
  | nil => rfl
  | cons m members ih =>
    rw [membersOfJson, membersToJson, h m List.mem_cons_self,
      ih fun m' hm => h m' (List.mem_cons_of_mem m hm)]
    rfl

theorem toJson_ofJson {depth : Nat} {value : Json} (h : value.Ordered depth) :
    (Document.ofJson value).toJson depth = some value := by
  induction h with
  | null | bool b | number n | string s => rfl
  | array _ ih =>
    rw [Document.ofJson, Document.toJson, if_neg (by simp), Nat.add_sub_cancel,
      itemsToJson_itemsOfJson ih, Option.map_some]
  | object hascending _ ih =>
    rw [Document.ofJson, Document.toJson, if_neg (by simp), Nat.add_sub_cancel,
      membersToJson_membersOfJson ih, Option.map_some, sortedObject_of_ascending hascending]

/-- **An ordered value is read back from the line that is printed for it**, if its numbers are
integers of 64 bits. -/
theorem ofText_render_line {value : Json} (hintegral : value.Integral)
    (hordered : value.Ordered depthLimit) : ofText (value.render ++ "\n") = some value := by
  have hspace : ∀ c ∈ "\n".toList, isSpace c = true := by simp [isSpace]
  rw [ofText, ofText_render_append hintegral hspace]
  exact toJson_ofJson hordered

end Weblog.Json
