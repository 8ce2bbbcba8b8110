import Mathlib.Tactic.Common
import Weblog.Proofs.Entries
import Weblog.Proofs.Json.Codecs
import Weblog.Proofs.Json.Ordered
import Weblog.Proofs.Outcomes
/-!
# Records from objects

When a record is read from the members of an object, stated field by field, without the order in
which the members come and without the drafts in between.

* `Distinct`, `distinct_of_ofText`: in what is read from a text each name of an object stands once.
* `Field.Takes`, `Field.Reads`: what a value gives one field.
* `Draft.Takes`: what some members give a draft; `Draft.foldlM_putMember_eq_ok_iff`: **members one
  after the other** give what all of them give.
* `Row.Reads`, `Row.ofMembers_eq_ok_iff`: **a row is read from members** if each of its fields is.
-/

namespace Weblog.Json

/-! ## Distinct names -/

/-- Whether in every object of a value each name stands once. -/
inductive Distinct : Json → Prop
  | null : Distinct .null
  | bool (b : Bool) : Distinct (.bool b)
  | number (n : Numeral) : Distinct (.number n)
  | string (s : String) : Distinct (.string s)
  | array {items : List Json} : (∀ item ∈ items, Distinct item) → Distinct (.array items)
  | object {members : List (String × Json)} : (members.map (·.1)).Nodup →
      (∀ m ∈ members, Distinct m.2) → Distinct (.object members)

section Parts

variable {items : List Json} {members : List (String × Json)} {name : String} {value : Json}

theorem Distinct.of_mem_items (h : Distinct (.array items)) : ∀ item ∈ items, item.Distinct := by
  cases h with
  | array hitems => exact hitems

theorem Distinct.nodup (h : Distinct (.object members)) : (members.map (·.1)).Nodup := by
  cases h with
  | object hnames _ => exact hnames

theorem Distinct.of_lookup (h : Distinct (.object members))
    (hvalue : members.lookup name = some value) : value.Distinct := by
  cases h with
  | object _ hmembers => exact hmembers _ (mem_of_lookup hvalue)

end Parts

theorem Ascending.nodup {members : List (String × Json)} (h : Ascending members) :
    (members.map (·.1)).Nodup := by
  rw [List.Nodup, List.pairwise_map]
  refine List.Pairwise.imp (fun hlt heq => ?_) h
  rw [heq] at hlt
  exact String.lt_irrefl _ hlt

theorem Ordered.distinct {depth : Nat} {value : Json} (h : value.Ordered depth) :
    value.Distinct := by
  induction h with
  | null => exact .null
  | bool b => exact .bool b
  | number n => exact .number n
  | string s => exact .string s
  | array _ ih => exact .array ih
  | object hascending _ ih => exact .object hascending.nodup ih

/-- **In the value of a text each name of an object stands once.** -/
theorem distinct_of_ofText {text : String} {value : Json} (h : ofText text = some value) :
    value.Distinct :=
  (ordered_of_ofText h).distinct

mutual

theorem Document.isIntact_ofJson : ∀ value : Json, (Document.ofJson value).isIntact = true
  | .null => rfl
  | .bool _ => rfl
  | .number _ => rfl
  | .string _ => rfl
  | .array items => by
    rw [Document.ofJson, Document.isIntact, itemsIntact_itemsOfJson items, Bool.and_self]
  | .object members => by
    rw [Document.ofJson, Document.isIntact, membersIntact_membersOfJson members, Bool.and_self]

theorem itemsIntact_itemsOfJson : ∀ items : List Json, itemsIntact (itemsOfJson items) = true
  | [] => rfl
  | item :: items => by
    rw [itemsOfJson, itemsIntact, Document.isIntact_ofJson item, itemsIntact_itemsOfJson items,
      Bool.and_self]

theorem membersIntact_membersOfJson : ∀ members : List (String × Json),
    membersIntact (membersOfJson members) = true
  | [] => rfl
  | (name, value) :: members => by
    rw [membersOfJson, membersIntact, Document.isIntact_ofJson value,
      membersIntact_membersOfJson members, Bool.and_self]

end

/-! ## Members -/

/-- Whether the value of a field comes from another one when its name gets a value: then it had none
and has now what the value is read as, and otherwise it has what it had. -/
def Field.Takes (f : Field) (before after : Option f.Carrier) : Option Json → Prop
  | none => after = before
  | some value => before = none ∧ ∃ a, f.codec.ofJson value = .ok a ∧ after = some a

/-- Whether a field has what the value of its name is read as, and if there is none what it has when
it is missing. -/
def Field.Reads (f : Field) (a : f.Carrier) : Option Json → Prop
  | none => f.whenMissing = some a
  | some value => f.codec.ofJson value = .ok a

/-- Whether a draft comes from another one when some names get values. -/
def Draft.Takes (found : String → Option Json) :
    (fields : List Field) → Draft fields → Draft fields → Prop
  | [], _, _ => True
  | f :: fs, (before, rest), (after, rest') =>
    f.Takes before after (found f.name) ∧ Takes found fs rest rest'

/-- Whether a row is read from the values of some names. -/
def Row.Reads (found : String → Option Json) : (fields : List Field) → Row fields → Prop
  | [], _ => True
  | f :: fs, (a, rest) => f.Reads a (found f.name) ∧ Reads found fs rest

theorem Field.takes_trans_iff {f : Field} {before after : Option f.Carrier}
    {first second : Option Json} (happart : ∀ value, first = some value → second = none) :
    (∃ mid, f.Takes before mid first ∧ f.Takes mid after second) ↔
      f.Takes before after (first.or second) := by
  cases first with
  | none => simp [Takes]
  | some value => simp [Takes, happart value rfl]

theorem Field.takes_none_iff {f : Field} {found : Option Json} {a : f.Carrier} :
    (∃ v, f.Takes none v found ∧ v.orElse (fun _ => f.whenMissing) = some a) ↔
      f.Reads a found := by
  cases found <;> simp [Takes, Reads]

variable {fields : List Field} {name : String} {value : Json} {found : String → Option Json}

theorem Draft.takes_iff_eq (h : ∀ f ∈ fields, found f.name = none) (before after : Draft fields) :
    Takes found fields before after ↔ after = before := by
  induction fields with
  | nil => exact iff_of_true trivial rfl
  | cons f fs ih =>
    obtain ⟨v, before⟩ := before
    obtain ⟨w, after⟩ := after
    rw [Takes, h f List.mem_cons_self, ih fun g hg => h g (List.mem_cons_of_mem f hg),
      Prod.mk.injEq]
    exact Iff.rfl

/-- **One member** gives the field with its name a value. -/
theorem Draft.put_eq_ok_iff (hnames : (fields.map Field.name).Nodup) (before after : Draft fields) :
    put .value fields before name (.ofJson value) = .ok after ↔
      Takes (fun n => if n = name then some value else none) fields before after := by
  induction fields with
  | nil => simp [put, Takes, Document.isIntact_ofJson]
  | cons f fs ih =>
    obtain ⟨v, before⟩ := before
    obtain ⟨w, after⟩ := after
    obtain ⟨hfresh, hnames⟩ := List.nodup_cons.mp hnames
    rw [Takes]
    by_cases hname : name = f.name
    · have hrest : ∀ g ∈ fs, (if g.name = name then some value else none) = none := fun g hg =>
        if_neg fun heq => hfresh (List.mem_map.mpr ⟨g, hg, heq.trans hname⟩)
      rw [if_pos hname.symm, takes_iff_eq hrest]
      simp only [put, if_pos hname]
      cases v with
      | some _ => simp [Field.Takes]
      | none =>
        have hread : f.codec.read .value (.ofJson value) = f.codec.ofJson value := rfl
        rw [hread, Field.Takes]
        cases f.codec.ofJson value with
        | error e => simp
        | ok a => simp [eq_comm]
    · rw [if_neg (Ne.symm hname), ← ih hnames]
      simp only [put, if_neg hname]
      cases put .value fs before name (.ofJson value) with
      | error e => simp
      | ok draft => simp [Field.Takes, eq_comm]

theorem Draft.takes_trans_iff {first : String → Option Json}
    (happart : ∀ name value, first name = some value → found name = none)
    (before after : Draft fields) :
    (∃ mid, Takes first fields before mid ∧ Takes found fields mid after) ↔
      Takes (fun name => (first name).or (found name)) fields before after := by
  induction fields with
  | nil => simp [Takes]
  | cons f fs ih =>
    obtain ⟨v, before⟩ := before
    obtain ⟨w, after⟩ := after
    rw [Takes, ← ih, ← Field.takes_trans_iff (happart f.name)]
    constructor
    · rintro ⟨⟨u, mid⟩, ⟨hfield, hrest⟩, hfield', hrest'⟩
      exact ⟨⟨u, hfield, hfield'⟩, mid, hrest, hrest'⟩
    · rintro ⟨⟨u, hfield, hfield'⟩, mid, hrest, hrest'⟩
      exact ⟨(u, mid), ⟨hfield, hrest⟩, hfield', hrest'⟩

/-- **Members one after the other** give the fields with their names values. -/
theorem Draft.foldlM_putMember_eq_ok_iff (hnames : (fields.map Field.name).Nodup)
    {members : List (String × Json)} (hmembers : (members.map (·.1)).Nodup)
    (before after : Draft fields) :
    (membersOfJson members).foldlM (putMember .value fields) before = .ok after ↔
      Takes (members.lookup ·) fields before after := by
  induction members generalizing before with
  | nil =>
    rw [takes_iff_eq fun _ _ => rfl]
    exact ⟨fun h => (Except.ok.inj h).symm, fun h => congrArg Except.ok h.symm⟩
  | cons m members ih =>
    obtain ⟨name, value⟩ := m
    obtain ⟨hfresh, hmembers⟩ := List.nodup_cons.mp hmembers
    have hlookup : (((name, value) :: members).lookup ·) = fun n =>
        (if n = name then some value else none).or (members.lookup n) := by
      funext n
      rw [lookup_cons_ite]
      split_ifs <;> rfl
    have happart : ∀ n v, (if n = name then some value else none) = some v →
        members.lookup n = none := by
      intro n v hn
      split_ifs at hn with heq
      exact heq ▸ lookup_eq_none_of_not_mem hfresh
    rw [hlookup, ← takes_trans_iff happart, membersOfJson, List.foldlM_cons]
    simp only [← put_eq_ok_iff hnames, ← ih hmembers]
    exact bind_eq_ok

theorem Draft.finish_cons_eq_ok_iff {f : Field} (v : Option f.Carrier) (draft : Draft fields)
    (a : f.Carrier) (row : Row fields) :
    finish (f :: fields) (v, draft) = .ok (a, row) ↔
      v.orElse (fun _ => f.whenMissing) = some a ∧ finish fields draft = .ok row := by
  rw [finish]
  cases v.orElse fun _ => f.whenMissing with
  | none => simp [bind, Except.bind]
  | some value => cases finish fields draft <;> simp [bind, Except.bind, pure, Except.pure]

theorem Draft.finish_eq_ok_iff (row : Row fields) :
    (∃ draft, Takes found fields (empty fields) draft ∧ finish fields draft = .ok row) ↔
      Row.Reads found fields row := by
  induction fields with
  | nil => simp [Takes, finish, Row.Reads]
  | cons f fs ih =>
    obtain ⟨a, row⟩ := row
    rw [Row.Reads, ← ih, ← Field.takes_none_iff]
    constructor
    · rintro ⟨⟨v, draft⟩, ⟨hfield, htakes⟩, hfinish⟩
      obtain ⟨hvalue, hrest⟩ := (finish_cons_eq_ok_iff v draft a row).mp hfinish
      exact ⟨⟨v, hfield, hvalue⟩, draft, htakes, hrest⟩
    · rintro ⟨⟨v, hfield, hvalue⟩, draft, htakes, hrest⟩
      exact ⟨(v, draft), ⟨hfield, htakes⟩,
        (finish_cons_eq_ok_iff v draft a row).mpr ⟨hvalue, hrest⟩⟩

/-- **A row is read from members** if each field is, from the member with its name. -/
theorem Row.ofMembers_eq_ok_iff (hnames : (fields.map Field.name).Nodup)
    {members : List (String × Json)} (hmembers : (members.map (·.1)).Nodup) (row : Row fields) :
    ofMembers .value fields (membersOfJson members) true = .ok row ↔
      Reads (members.lookup ·) fields row := by
  simp only [← Draft.finish_eq_ok_iff, ← Draft.foldlM_putMember_eq_ok_iff hnames hmembers]
  exact bind_eq_ok

end Weblog.Json
