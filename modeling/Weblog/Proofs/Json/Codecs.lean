import Mathlib.Tactic.Common
import Weblog.Json.Codec
import Weblog.Proofs.Json.RoundTrip
/-!
# Codecs that read what they write

* `Codec.Lawful`: what is written is read back, and its only numbers are integers of 64 bits.
* `Codec.lawful_text`, `lawful_optional`, `lawful_list`, `lawful_count`: the simple codecs.
* `Row.ofMembers_members`: a row is read back from its members, if no two fields have one name.
* `Codec.lawful_record`: records of lawful fields.
* **`Codec.Lawful.ofText_render`**: a value is read back from its text.
-/

namespace Weblog.Json

/-- Whether what a codec writes is read back, and is a value that its text gives back. -/
structure Codec.Lawful {α : Type} (codec : Codec α) : Prop where
  read_write : ∀ origin a, codec.read origin (.ofJson (codec.write a)) = .ok a
  integral : ∀ a, (codec.write a).Integral

namespace Codec

variable {α : Type} {codec : Codec α}

/-! ## Simple codecs -/

theorem lawful_text : text.Lawful :=
  ⟨fun _ _ => rfl, fun s => .string s⟩

theorem lawful_count : count.Lawful := by
  refine ⟨fun _ n => ?_, fun n => .int ?_⟩
  · have hlt : (n.toNat : Int) < UInt64.size := by exact_mod_cast n.toNat_lt
    simp only [count, ofNat, Document.ofJson]
    rw [if_pos ⟨Int.natCast_nonneg _, hlt⟩, Int.toNat_natCast, UInt64.ofNat_toNat]
  · have := n.toNat_lt
    unfold IsExact UInt64.size
    omega

theorem lawful_optional (h : codec.Lawful) (hnull : ∀ a, codec.write a ≠ .null) :
    codec.optional.Lawful := by
  refine ⟨fun origin a => ?_, fun a => ?_⟩
  · cases a with
    | none => rfl
    | some a =>
      have hread := h.read_write origin a
      have hwrite := hnull a
      simp only [optional, ofOption]
      cases hw : codec.write a with
      | null => exact absurd hw hwrite
      | _ => rw [hw] at hread; exact congrArg (Except.map some) hread
  · cases a with
    | none => exact .null
    | some a => exact h.integral a

theorem mapM_itemsOfJson (h : codec.Lawful) (origin : Origin) (values : List α) :
    (itemsOfJson (values.map codec.write)).mapM (codec.read origin) = .ok values := by
  induction values with
  | nil => rfl
  | cons a values ih =>
    rw [List.map_cons, itemsOfJson, List.mapM_cons, h.read_write, ih]
    rfl

theorem lawful_list (h : codec.Lawful) : codec.list.Lawful := by
  refine ⟨fun origin values => ?_, fun values => .array fun item hitem => ?_⟩
  · simp only [list, Document.ofJson, mapM_itemsOfJson h]
    rfl
  · obtain ⟨a, -, rfl⟩ := List.mem_map.mp hitem
    exact h.integral a

end Codec

/-! ## Rows -/

section Rows

variable {fields : List Field}

/-- The draft in which every field has been read. -/
def Draft.full : (fields : List Field) → Row fields → Draft fields
  | [], _ => ()
  | _ :: fs, (value, rest) => (some value, full fs rest)

theorem Draft.finish_full (row : Row fields) : finish fields (full fields row) = .ok row := by
  induction fields with
  | nil => rfl
  | cons f fs ih =>
    obtain ⟨value, rest⟩ := row
    simp only [full, finish, ih]
    rfl

theorem Draft.foldlM_putMember_cons {origin : Origin} {f : Field} {value : Option f.Carrier}
    {members : List (Option String × Document)} (h : ∀ m ∈ members, m.1 ≠ some f.name) :
    ∀ draft : Draft fields,
      members.foldlM (putMember origin (f :: fields)) (value, draft) =
        (members.foldlM (putMember origin fields) draft).map fun d => (value, d) := by
  induction members with
  | nil => intro draft; rfl
  | cons m members ih =>
    intro draft
    obtain ⟨name, document⟩ := m
    have hname := h (name, document) List.mem_cons_self
    have hlater := ih fun m hm => h m (List.mem_cons_of_mem _ hm)
    rw [List.foldlM_cons, List.foldlM_cons]
    cases name with
    | none => rfl
    | some name =>
      have hne : name ≠ f.name := fun e => hname (congrArg some e)
      simp only [putMember, put, if_neg hne]
      cases put origin fields draft name document with
      | error e => rfl
      | ok draft => exact hlater draft

theorem Row.names_membersOfJson (row : Row fields) :
    (membersOfJson (members fields row)).map Prod.fst = fields.map fun f => some f.name := by
  induction fields with
  | nil => rfl
  | cons f fs ih =>
    obtain ⟨value, rest⟩ := row
    rw [members, membersOfJson, List.map_cons, List.map_cons, ih]

/-- **Members are read one after the other**: after all of them the draft is full. -/
theorem Row.foldlM_putMember (origin : Origin) (hnames : (fields.map Field.name).Nodup)
    (hlawful : ∀ f ∈ fields, f.codec.Lawful) (row : Row fields) :
    (membersOfJson (members fields row)).foldlM (Draft.putMember origin fields)
      (Draft.empty fields) = .ok (Draft.full fields row) := by
  induction fields with
  | nil => rfl
  | cons f fs ih =>
    obtain ⟨value, rest⟩ := row
    obtain ⟨hfresh, hnames⟩ := List.nodup_cons.mp hnames
    have hread := (hlawful f List.mem_cons_self).read_write origin value
    have hother : ∀ m ∈ membersOfJson (members fs rest), m.1 ≠ some f.name := by
      intro m hm hname
      have hmem := List.mem_map_of_mem (f := Prod.fst) hm
      rw [names_membersOfJson, hname] at hmem
      obtain ⟨g, hg, hgname⟩ := List.mem_map.mp hmem
      exact hfresh (List.mem_map.mpr ⟨g, hg, Option.some.inj hgname⟩)
    have hput : Draft.putMember origin (f :: fs) (Draft.empty (f :: fs))
        (some f.name, .ofJson (f.codec.write value)) = .ok (some value, Draft.empty fs) := by
      simp only [Draft.putMember, Draft.empty, Draft.put, if_pos, hread]
      rfl
    rw [members, membersOfJson, List.foldlM_cons, hput]
    refine (Draft.foldlM_putMember_cons hother _).trans ?_
    rw [ih hnames (fun g hg => hlawful g (List.mem_cons_of_mem f hg)) rest]
    rfl

/-- **A row is read back from its members.** -/
theorem Row.ofMembers_members (origin : Origin) (hnames : (fields.map Field.name).Nodup)
    (hlawful : ∀ f ∈ fields, f.codec.Lawful) (row : Row fields) :
    Row.ofMembers origin fields (membersOfJson (members fields row)) true = .ok row := by
  rw [ofMembers, foldlM_putMember origin hnames hlawful row]
  exact Draft.finish_full row

theorem Row.integral_members (hlawful : ∀ f ∈ fields, f.codec.Lawful) (row : Row fields) :
    ∀ m ∈ members fields row, m.2.Integral := by
  induction fields with
  | nil => exact fun _ hm => absurd hm List.not_mem_nil
  | cons f fs ih =>
    intro m hm
    obtain rfl | hm := List.mem_cons.mp hm
    · exact (hlawful f List.mem_cons_self).integral row.1
    · exact ih (fun g hg => hlawful g (List.mem_cons_of_mem f hg)) row.2 m hm

end Rows

/-! ## Records -/

/-- **Records of lawful fields with different names are read back.** -/
theorem Codec.lawful_record {α : Type} {name : String} {fields : List Field}
    {ofRow : Row fields → α} {toRow : α → Row fields} (hrow : ∀ a, ofRow (toRow a) = a)
    (hnames : (fields.map Field.name).Nodup) (hlawful : ∀ f ∈ fields, f.codec.Lawful) :
    (Codec.record name fields ofRow toRow).Lawful := by
  refine ⟨fun origin a => ?_, fun a => .object (Row.integral_members hlawful (toRow a))⟩
  simp only [record, Document.ofJson, Row.ofMembers_members origin hnames hlawful]
  exact congrArg Except.ok (hrow a)

/-- **A value is read back from its text.** -/
theorem Codec.Lawful.ofText_render {α : Type} {codec : Codec α} (h : codec.Lawful) (a : α) :
    codec.ofText (codec.write a).render = .ok a := by
  rw [Codec.ofText, Json.ofText_render (h.integral a)]
  simp only [h.read_write]
  rfl

end Weblog.Json
