import Mathlib.Data.List.Forall2
import Mathlib.Tactic.Common
import Weblog.Proofs.Json.Records
/-!
# Shapes of data

What the values in a file have to look like and how they are written again, stated without the
codecs that read and write them.

* `Shape`: the values that are allowed and their normal forms; `Rule`: one name of an object.
* `Shape.text`, `Shape.count`, `Shape.orNull`, `Shape.list`, `Shape.object`: shapes from shapes.
* `Codec.Follows`: whether a codec reads a value if and only if it is allowed, and writes its
  normal form; `Codec.Fits`: whether it does so with all values.
* **`Codec.fits_record`**: a record fits the object of the shapes that its fields fit.
-/

namespace Weblog.Json

/-! ## Shapes -/

/-- What some values look like. -/
structure Shape where
  /-- The values in which every record is an object. A record could also be an array of the values
  of its fields in order. -/
  Plain : Json → Prop
  Allows : Json → Prop
  /-- What an allowed value is written as. -/
  normal : Json → Json

/-- A name of an object: the shape of its value, and its value when it is missing, if it may be. -/
structure Rule where
  name : String
  shape : Shape
  default : Option Json

namespace Rule

/-- A name that every object has. -/
def required (name : String) (shape : Shape) : Rule := ⟨name, shape, none⟩

/-- A name that may be missing. -/
def orElse (name : String) (shape : Shape) (default : Json) : Rule := ⟨name, shape, some default⟩

def Plain (rule : Rule) : Option Json → Prop
  | none => True
  | some value => rule.shape.Plain value

def Allows (rule : Rule) : Option Json → Prop
  | none => rule.default ≠ none
  | some value => rule.shape.Allows value

def normal (rule : Rule) : Option Json → Json
  | none => rule.default.getD .null
  | some value => rule.shape.normal value

end Rule

namespace Shape

def text : Shape where
  Plain _ := True
  Allows value := ∃ s, value = .string s
  normal value := value

/-- An integer from zero on, below `2 ^ 64`. -/
def count : Shape where
  Plain _ := True
  Allows value := ∃ n : Nat, n < UInt64.size ∧ value = .number (.int n)
  normal value := value

def orNull (shape : Shape) : Shape where
  Plain value := value = .null ∨ shape.Plain value
  Allows value := value = .null ∨ shape.Allows value
  normal
    | .null => .null
    | value => shape.normal value

def list (shape : Shape) : Shape where
  Plain value := ∀ items, value = .array items → ∀ item ∈ items, shape.Plain item
  Allows value := ∃ items, value = .array items ∧ ∀ item ∈ items, shape.Allows item
  normal
    | .array items => .array (items.map shape.normal)
    | value => value

/-- An object. Names without a rule are ignored, and no longer there when it is written. -/
def object (rules : List Rule) : Shape where
  Plain value := (∃ members, value = .object members) ∧
    ∀ rule ∈ rules, rule.Plain (value.get? rule.name)
  Allows value := (∃ members, value = .object members) ∧
    ∀ rule ∈ rules, rule.Allows (value.get? rule.name)
  normal value := .object (rules.map fun rule => (rule.name, rule.normal (value.get? rule.name)))

/-- Whether a shape has no records in it. -/
def IsFlat (shape : Shape) : Prop := ∀ value, shape.Plain value

@[simp] theorem isFlat_text : text.IsFlat := fun _ => trivial

@[simp] theorem isFlat_count : count.IsFlat := fun _ => trivial

theorem IsFlat.orNull {shape : Shape} (h : shape.IsFlat) : shape.orNull.IsFlat :=
  fun value => .inr (h value)

theorem IsFlat.list {shape : Shape} (h : shape.IsFlat) : shape.list.IsFlat :=
  fun _ _ _ item _ => h item

theorem plain_object {rules : List Rule} (h : ∀ rule ∈ rules, rule.shape.IsFlat)
    (members : List (String × Json)) : (object rules).Plain (.object members) := by
  refine ⟨⟨members, rfl⟩, fun rule hrule => ?_⟩
  cases hfound : get? rule.name (.object members) with
  | none => trivial
  | some value => exact h rule hrule value

end Shape

/-! ## Codecs and shapes -/

namespace Codec

/-- Whether a codec reads a value if and only if the shape allows it, and what it has read is
written as the normal form of the value and read from there again. -/
structure Follows {α : Type} (codec : Codec α) (shape : Shape) (value : Json) : Prop where
  accepts : (∃ a, codec.ofJson value = .ok a) ↔ shape.Allows value
  writes : ∀ a, codec.ofJson value = .ok a → codec.write a = shape.normal value
  again : ∀ a, codec.ofJson value = .ok a → codec.ofJson (shape.normal value) = .ok a

/-- Whether a codec reads what a shape allows, and writes its normal form. -/
structure Fits {α : Type} (codec : Codec α) (shape : Shape) : Prop where
  accepts : ∀ {value : Json}, value.Distinct → shape.Plain value →
    ((∃ a, codec.ofJson value = .ok a) ↔ shape.Allows value)
  writes : ∀ {value : Json}, value.Distinct → shape.Plain value →
    ∀ a, codec.ofJson value = .ok a → codec.write a = shape.normal value

variable {α : Type} {codec : Codec α} {shape : Shape}

theorem Fits.follows (h : codec.Fits shape) (hlawful : codec.Lawful) {value : Json}
    (hdistinct : value.Distinct) (hplain : shape.Plain value) : codec.Follows shape value where
  accepts := h.accepts hdistinct hplain
  writes := h.writes hdistinct hplain
  again a ha := by
    rw [← h.writes hdistinct hplain a ha, ofJson, hlawful.read_write]

theorem ofJson_text_eq_ok_iff {value : Json} {s : String} :
    text.ofJson value = .ok s ↔ value = .string s := by
  cases value <;> simp [ofJson, text, Document.ofJson, Document.mismatch]

theorem fits_text : text.Fits .text where
  accepts _ _ := exists_congr fun _ => ofJson_text_eq_ok_iff
  writes _ _ _ h := (ofJson_text_eq_ok_iff.mp h).symm

theorem ofJson_count_eq_ok_iff {value : Json} {n : UInt64} :
    count.ofJson value = .ok n ↔ value = .number (.int n.toNat) := by
  constructor
  · intro h
    cases value with
    | number numeral =>
      cases numeral with
      | int i =>
        simp only [ofJson, count, Document.ofJson] at h
        split_ifs at h with hi
        obtain rfl := Except.ok.inj h
        have hlt : i.toNat < UInt64.size := (Int.toNat_lt hi.1).mpr hi.2
        rw [UInt64.toNat_ofNat_of_lt' hlt, Int.toNat_of_nonneg hi.1]
      | real x => cases h
    | _ => cases h
  · intro hvalue
    have hwrite : count.write n = value := hvalue.symm
    rw [← hwrite, ofJson, lawful_count.read_write]

theorem fits_count : count.Fits .count where
  accepts _ _ := by
    constructor
    · rintro ⟨n, hn⟩
      exact ⟨n.toNat, n.toNat_lt, ofJson_count_eq_ok_iff.mp hn⟩
    · rintro ⟨n, hlt, rfl⟩
      refine ⟨.ofNat n, ofJson_count_eq_ok_iff.mpr ?_⟩
      rw [UInt64.toNat_ofNat_of_lt' hlt]
  writes _ _ _ h := (ofJson_count_eq_ok_iff.mp h).symm

theorem ofJson_optional_eq_ok_iff {value : Json} {found : Option α} :
    codec.optional.ofJson value = .ok found ↔
      (value = .null ∧ found = none) ∨
        value ≠ .null ∧ ∃ a, codec.ofJson value = .ok a ∧ found = some a := by
  have hread : value ≠ .null → codec.optional.ofJson value = (codec.ofJson value).map some := by
    intro hvalue
    cases value with
    | null => exact absurd rfl hvalue
    | _ => rfl
  by_cases hvalue : value = .null
  · subst hvalue
    simp [ofJson, optional, Document.ofJson, eq_comm]
  · rw [hread hvalue]
    cases codec.ofJson value <;> simp [Except.map, hvalue, eq_comm]

theorem Shape.normal_orNull {shape : Shape} {value : Json} (h : value ≠ .null) :
    shape.orNull.normal value = shape.normal value := by
  cases value with
  | null => exact absurd rfl h
  | _ => rfl

theorem fits_optional (h : codec.Fits shape) : codec.optional.Fits shape.orNull where
  accepts hdistinct hplain := by
    rename_i value
    by_cases hvalue : value = .null
    · exact iff_of_true ⟨none, ofJson_optional_eq_ok_iff.mpr (.inl ⟨hvalue, rfl⟩)⟩ (.inl hvalue)
    · have hplain := hplain.resolve_left hvalue
      simp [ofJson_optional_eq_ok_iff, hvalue, Shape.orNull, ← h.accepts hdistinct hplain]
  writes hdistinct hplain found hfound := by
    obtain ⟨rfl, rfl⟩ | ⟨hvalue, a, ha, rfl⟩ := ofJson_optional_eq_ok_iff.mp hfound
    · rfl
    · rw [Shape.normal_orNull hvalue]
      exact h.writes hdistinct (hplain.resolve_left hvalue) a ha

theorem mapM_itemsOfJson_eq_ok_iff {items : List Json} {values : List α} :
    (itemsOfJson items).mapM (codec.read .value) = .ok values ↔
      List.Forall₂ (fun item a => codec.ofJson item = .ok a) items values := by
  induction items generalizing values with
  | nil =>
    rw [List.forall₂_nil_left_iff]
    exact ⟨fun h => (Except.ok.inj h).symm, fun h => congrArg Except.ok h.symm⟩
  | cons item items ih =>
    rw [itemsOfJson, List.mapM_cons, bind_eq_ok, List.forall₂_cons_left_iff]
    simp only [bind_eq_ok, ih]
    constructor
    · rintro ⟨a, ha, rest, hrest, hvalues⟩
      exact ⟨a, rest, ha, hrest, (Except.ok.inj hvalues).symm⟩
    · rintro ⟨a, rest, ha, hrest, rfl⟩
      exact ⟨a, ha, rest, hrest, rfl⟩

theorem ofJson_list_eq_ok_iff {value : Json} {values : List α} :
    codec.list.ofJson value = .ok values ↔ ∃ items, value = .array items ∧
      List.Forall₂ (fun item a => codec.ofJson item = .ok a) items values := by
  constructor
  · intro h
    cases value with
    | array items =>
      simp only [ofJson, list, Document.ofJson, bind_eq_ok] at h
      obtain ⟨a, ha, hclosed⟩ := h
      obtain rfl := Except.ok.inj hclosed
      exact ⟨items, rfl, mapM_itemsOfJson_eq_ok_iff.mp ha⟩
    | _ => cases h
  · rintro ⟨items, rfl, hitems⟩
    simp only [ofJson, list, Document.ofJson, mapM_itemsOfJson_eq_ok_iff.mpr hitems]
    rfl

theorem exists_forall₂_iff {β γ : Type} {R : β → γ → Prop} {items : List β} :
    (∃ values, List.Forall₂ R items values) ↔ ∀ item ∈ items, ∃ a, R item a := by
  induction items with
  | nil => simp
  | cons item items ih =>
    rw [List.forall_mem_cons, ← ih]
    simp only [List.forall₂_cons_left_iff]
    constructor
    · rintro ⟨_, a, values, ha, hvalues, -⟩
      exact ⟨⟨a, ha⟩, values, hvalues⟩
    · rintro ⟨⟨a, ha⟩, values, hvalues⟩
      exact ⟨a :: values, a, values, ha, hvalues, rfl⟩

theorem fits_list (h : codec.Fits shape) : codec.list.Fits shape.list where
  accepts hdistinct hplain := by
    simp only [ofJson_list_eq_ok_iff, Shape.list]
    rw [exists_comm]
    refine exists_congr fun items => ?_
    rw [exists_and_left, exists_forall₂_iff]
    refine and_congr_right ?_
    rintro rfl
    exact forall₂_congr fun item hitem =>
      h.accepts (hdistinct.of_mem_items item hitem) (hplain items rfl item hitem)
  writes hdistinct hplain values hvalues := by
    obtain ⟨items, rfl, hitems⟩ := ofJson_list_eq_ok_iff.mp hvalues
    refine congrArg Json.array ?_
    have hwrites := fun item hitem => h.writes (hdistinct.of_mem_items item hitem)
      (hplain items rfl item hitem)
    clear hdistinct hplain hvalues
    induction hitems with
    | nil => rfl
    | cons ha _ ih =>
      rw [List.map_cons, List.map_cons, hwrites _ List.mem_cons_self _ ha,
        ih fun item hitem => hwrites item (List.mem_cons_of_mem _ hitem)]

end Codec

/-! ## Records and shapes -/

/-- Whether a field has the name of a rule, a codec that fits its shape, and its default. -/
structure Field.Fits (f : Field) (rule : Rule) : Prop where
  name : f.name = rule.name
  codec : f.codec.Fits rule.shape
  default : f.whenMissing.map f.codec.write = rule.default

namespace Field.Fits

variable {α : Type} {name : String} {codec : Codec α} {shape : Shape}

theorem required (h : codec.Fits shape) : Field.Fits ⟨name, codec, none⟩ (.required name shape) :=
  ⟨rfl, h, rfl⟩

theorem orElse (h : codec.Fits shape) {a : α} {default : Json}
    (hdefault : codec.write a = default) :
    Field.Fits ⟨name, codec, some a⟩ (.orElse name shape default) :=
  ⟨rfl, h, congrArg some hdefault⟩

end Field.Fits

section Reads

variable {f : Field} {rule : Rule} {found : Option Json} (hf : f.Fits rule)
  (hdistinct : ∀ value, found = some value → value.Distinct) (hplain : rule.Plain found)

include hf hdistinct hplain

theorem Field.exists_reads_iff : (∃ a, f.Reads a found) ↔ rule.Allows found := by
  cases found with
  | none => simp [Reads, Rule.Allows, ← hf.default, Option.ne_none_iff_exists']
  | some value => exact hf.codec.accepts (hdistinct value rfl) hplain

theorem Field.write_of_reads {a : f.Carrier} (h : f.Reads a found) :
    f.codec.write a = rule.normal found := by
  cases found with
  | none =>
    have hmissing : f.whenMissing = some a := h
    rw [Rule.normal, ← hf.default, hmissing]
    rfl
  | some value => exact hf.codec.writes (hdistinct value rfl) hplain a h

end Reads

section Rows

variable {fields : List Field} {rules : List Rule} {found : String → Option Json}
  (hfits : List.Forall₂ Field.Fits fields rules)
  (hdistinct : ∀ name value, found name = some value → value.Distinct)
  (hplain : ∀ rule ∈ rules, rule.Plain (found rule.name))

include hfits hdistinct hplain

theorem Row.exists_reads_iff :
    (∃ row, Reads found fields row) ↔ ∀ rule ∈ rules, rule.Allows (found rule.name) := by
  induction hfits with
  | nil => simp [Reads]
  | @cons f rule fs rules hf _ ih =>
    rw [List.forall_mem_cons] at hplain ⊢
    rw [← ih hplain.2, ← Field.exists_reads_iff hf (hdistinct rule.name) hplain.1, ← hf.name]
    constructor
    · rintro ⟨⟨a, row⟩, ha, hrow⟩
      exact ⟨⟨a, ha⟩, row, hrow⟩
    · rintro ⟨⟨a, ha⟩, row, hrow⟩
      exact ⟨(a, row), ha, hrow⟩

theorem Row.members_of_reads {row : Row fields} (h : Reads found fields row) :
    members fields row = rules.map fun rule => (rule.name, rule.normal (found rule.name)) := by
  induction hfits with
  | nil => rfl
  | @cons f rule fs rules hf _ ih =>
    obtain ⟨a, row⟩ := row
    obtain ⟨ha, hrow⟩ := h
    rw [List.forall_mem_cons] at hplain
    rw [hf.name] at ha
    rw [members, List.map_cons, ih hplain.2 hrow, hf.name,
      Field.write_of_reads hf (hdistinct rule.name) hplain.1 ha]

end Rows

/-- **A record fits the object of the shapes that its fields fit.** -/
theorem Codec.fits_record {α : Type} {name : String} {fields : List Field} {rules : List Rule}
    {ofRow : Row fields → α} {toRow : α → Row fields} (hrow : ∀ row, toRow (ofRow row) = row)
    (hnames : (fields.map Field.name).Nodup) (hfits : List.Forall₂ Field.Fits fields rules) :
    (Codec.record name fields ofRow toRow).Fits (.object rules) := by
  have hread : ∀ {members : List (String × Json)}, (Json.object members).Distinct →
      ∀ a, (Codec.record name fields ofRow toRow).ofJson (.object members) = .ok a ↔
        ∃ row, Row.Reads (members.lookup ·) fields row ∧ ofRow row = a := by
    intro members hdistinct a
    simp only [← Row.ofMembers_eq_ok_iff hnames hdistinct.nodup, ofJson, record, Document.ofJson]
    cases Row.ofMembers .value fields (membersOfJson members) true <;> simp [Except.map]
  have hvalues : ∀ {members : List (String × Json)}, (Json.object members).Distinct →
      ∀ name value, members.lookup name = some value → value.Distinct :=
    fun hdistinct _ _ => hdistinct.of_lookup
  refine ⟨fun hdistinct hplain => ?_, fun hdistinct hplain a ha => ?_⟩
  · obtain ⟨⟨members, rfl⟩, hplain⟩ := hplain
    have hrows := Row.exists_reads_iff hfits (hvalues hdistinct) hplain
    simp only [hread hdistinct]
    rw [exists_comm]
    simpa [Shape.object, get?] using hrows
  · obtain ⟨⟨members, rfl⟩, hplain⟩ := hplain
    obtain ⟨row, hreads, rfl⟩ := (hread hdistinct a).mp ha
    have hwrites := Row.members_of_reads hfits (hvalues hdistinct) hplain hreads
    refine congrArg Json.object ?_
    rw [hrow, hwrites]
    rfl

end Weblog.Json
