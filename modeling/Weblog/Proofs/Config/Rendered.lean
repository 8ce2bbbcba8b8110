import Mathlib.Tactic.Common
import Weblog.Config.Settings
import Weblog.Proofs.Toml.Ranges
import Weblog.Proofs.Toml.Values
/-!
# Settings read back

The text of a settings file shows a TOML table, and the settings are in this table.

* `Settings.toToml`: the table that the text shows; **`ofText_render`**: it does.
* `field?_entry`, `ofToml_toToml`: the settings are in the table.
* **`Settings.ofText_render`**: settings that a file can hold are read back.
* **`Settings.isWritable_of_ofText`**: settings that have been read are such.
-/

namespace Weblog

open Toml

namespace Settings

variable {α : Type} {name other : String} {value : α → Toml} {text : α → String}
  {setting : Option α} {s : Settings}

/-! ## The table -/

/-- The entry of a table for a setting, if it has a value. -/
def entry (name : String) (value : α → Toml) (setting : Option α) : List (String × Toml) :=
  setting.toList.map fun a => (name, value a)

def stringList (texts : List String) : Toml :=
  .array (texts.map .string)

/-- The sections of a settings file. -/
def sections (s : Settings) : List (String × List (String × Toml)) :=
  [("output", entry "color" .boolean s.colors),
    ("listing", entry "limit" (fun n => .integer n.toNat) s.pageSize ++
      entry "sort" .string s.order),
    ("search", entry "fields" stringList s.searchFields?)]

/-- What stands in front of the sections. -/
def heading (s : Settings) : List (String × Toml) :=
  ("version", .integer formatVersion) :: entry "data_file" .string s.dataFile

/-- The table that the text of a settings file shows. -/
def toToml (s : Settings) : Toml :=
  .table (s.heading ++ s.sections.map fun part => (part.1, .table part.2))

/-! ## The text -/

theorem denotes_quoted (text : String) : Denotes (quoted text).toList (.string text) := by
  have h := denotes_quote text.toList
  rwa [String.ofList_toList, ← String.toList_ofList (l := quote text.toList)] at h

theorem denotes_flagText (b : Bool) : Denotes (flagText b).toList (.boolean b) := by
  cases b with
  | true => exact denotes_true
  | false => exact denotes_false

theorem denotes_toString {n : Nat} (hn : (n : Int) ≤ lastInteger) :
    Denotes (toString n).toList (.integer n) := by
  have htext : (toString n).toList = Nat.toDigits 10 n := by simp
  rw [htext]
  exact denotes_toDigits hn

theorem toList_quotedList (texts : List String) :
    (quotedList texts).toList = listText (texts.map String.toList) := by
  unfold quotedList listText
  split
  · simp [quoted]
  · rename_i hmany
    split
    · rename_i one hone
      obtain ⟨text, hmem, -⟩ := List.map_eq_singleton_iff.mp hone
      exact absurd hmem (hmany text)
    · simp [quoted, itemLines, List.flatMap_map]

theorem denotes_quotedList (texts : List String) :
    Denotes (quotedList texts).toList (stringList texts) := by
  have h := denotes_listText (texts.map String.toList)
  rw [← toList_quotedList, strings, List.map_map] at h
  simpa [Function.comp_def, stringList] using h

theorem lines_line (hname : isBare name = true)
    (h : ∀ a, setting = some a → Denotes (text a).toList (value a)) :
    Lines (entry name value setting) (line name text setting).toList := by
  cases setting with
  | none => exact .nil
  | some a =>
    have hline := Lines.cons hname (h a rfl) .nil
    simpa [entry, line] using hline

theorem sections_header (hname : isBare name = true) {entries : List (String × Toml)}
    {lines more : String} {parts : List (String × List (String × Toml))}
    (hlines : Lines entries lines.toList) (hmore : Sections parts more.toList) :
    Sections ((name, entries) :: parts) (header name ++ (lines ++ more)).toList := by
  have hsection := Sections.cons hname hlines hmore
  simpa [header] using hsection

theorem lines_append {first second : List (String × Toml)} {lines more : String}
    (h : Lines first lines.toList) (h' : Lines second more.toList) :
    Lines (first ++ second) (lines ++ more).toList := by
  rw [String.toList_append]
  exact h.append h'

theorem toNat_le_of_isWritable (h : s.isWritable = true) {n : UInt64} (hn : s.pageSize = some n) :
    (n.toNat : Int) ≤ lastInteger := by
  simp only [isWritable, hn, Option.all_some, decide_eq_true_eq] at h
  exact h

/-- The text in front of the sections. -/
def headingText (s : Settings) : String :=
  "version = " ++ toString formatVersion ++ "\n" ++ line "data_file" quoted s.dataFile

/-- The text of the sections. -/
def sectionsText (s : Settings) : String :=
  header "output" ++ (line "color" flagText s.colors ++
    (header "listing" ++ (line "limit" (toString ·.toNat) s.pageSize ++
      line "sort" quoted s.order ++
      (header "search" ++ (line "fields" quotedList s.searchFields? ++ "")))))

theorem render_eq (s : Settings) : s.render = s.headingText ++ s.sectionsText := by
  unfold render headingText sectionsText
  have hlast : line "fields" quotedList s.searchFields? ++ "" =
      line "fields" quotedList s.searchFields? := String.append_empty
  rw [hlast]
  simp only [String.append_assoc]

theorem lines_headingText (s : Settings) : Lines s.heading s.headingText.toList := by
  have hversion : Lines [("version", .integer formatVersion)]
      ("version = " ++ toString formatVersion ++ "\n").toList :=
    .cons (p := ['1']) (by decide) (denotes_toString (n := 1) (by decide)) .nil
  exact lines_append hversion (lines_line (by decide) fun a _ => denotes_quoted a)

theorem sections_sectionsText (h : s.isWritable = true) :
    Sections s.sections s.sectionsText.toList :=
  sections_header (by decide) (lines_line (by decide) fun a _ => denotes_flagText a) <|
    sections_header (by decide)
      (lines_append
        (lines_line (by decide) fun _ hn => denotes_toString (toNat_le_of_isWritable h hn))
        (lines_line (by decide) fun a _ => denotes_quoted a)) <|
      sections_header (by decide) (lines_line (by decide) fun a _ => denotes_quotedList a) .nil

theorem names_entry_sublist (name : String) (value : α → Toml) (setting : Option α) :
    ((entry name value setting).map (·.1)).Sublist [name] := by
  cases setting <;> simp [entry]

theorem nodup_names (s : Settings) :
    (s.heading.map (·.1) ++ s.sections.map (·.1)).Nodup ∧
      ∀ part ∈ s.sections, (part.2.map (·.1)).Nodup := by
  have hone (name : String) : [name].Nodup := by simp
  have htwo : ["limit", "sort"].Nodup := by decide
  have hall : ["version", "data_file", "output", "listing", "search"].Nodup := by decide
  constructor
  · refine hall.sublist ?_
    exact ((names_entry_sublist "data_file" .string s.dataFile).append_right _).cons_cons _
  · intro part hpart
    simp only [sections, List.mem_cons, List.not_mem_nil, or_false] at hpart
    rcases hpart with rfl | rfl | rfl
    · exact (hone _).sublist (names_entry_sublist _ _ _)
    · refine htwo.sublist ?_
      rw [List.map_append]
      exact (names_entry_sublist _ _ _).append (names_entry_sublist _ _ _)
    · exact (hone _).sublist (names_entry_sublist _ _ _)

/-- **The text of a settings file shows the table of the settings.** -/
theorem toml_ofText_render (h : s.isWritable = true) : Toml.ofText s.render = some s.toToml := by
  have htext : s.render = String.ofList (s.headingText.toList ++ s.sectionsText.toList) := by
    rw [render_eq, ← String.toList_append, String.ofList_toList]
  rw [htext]
  exact ofText_of_sections (lines_headingText s) (sections_sectionsText h) (nodup_names s).1
    (nodup_names s).2

/-! ## The settings -/

section Fields

variable {β : Type} {kind : Toml → Option β} {more : List (String × Toml)} {f : α → β}

theorem field?_cons_of_ne (hne : name ≠ other) (v : Toml) :
    Toml.field? name kind ((other, v) :: more) = Toml.field? name kind more := by
  rw [Toml.field?, Toml.field?, lookup_cons_ite, if_neg hne]

theorem field?_cons_self (v : Toml) :
    Toml.field? name kind ((name, v) :: more) = (kind v).map some := by
  rw [Toml.field?, lookup_cons_ite, if_pos rfl]

theorem field?_entry_of_ne (hne : name ≠ other) :
    Toml.field? name kind (entry other value setting ++ more) = Toml.field? name kind more := by
  cases setting with
  | none => rfl
  | some a => exact field?_cons_of_ne hne _

theorem field?_entry (hkind : ∀ a, setting = some a → kind (value a) = some (f a))
    (hmore : more.lookup name = none) :
    Toml.field? name kind (entry name value setting ++ more) = some (setting.map f) := by
  cases setting with
  | none =>
    change Toml.field? name kind more = some none
    rw [Toml.field?, hmore]
  | some a =>
    refine (field?_cons_self (value a)).trans ?_
    rw [hkind a rfl, Option.map_some, Option.map_some]

end Fields

theorem texts?_stringList (texts : List String) : (stringList texts).texts? = some texts := by
  rw [stringList, Toml.texts?, List.mapM_map]
  induction texts with
  | nil => rfl
  | cons text texts ih => rw [List.mapM_cons, ih]; rfl

theorem natBelow?_toNat (n : UInt64) :
    (Toml.integer n.toNat).natBelow? UInt64.size = some n.toNat := by
  have hlt := n.toNat_lt_size
  rw [Toml.natBelow?, if_pos (by omega), Int.toNat_natCast]

theorem searchFields?_getD (s : Settings) : s.searchFields?.getD [] = s.searchFields := by
  unfold searchFields?
  split_ifs with h
  · exact (List.isEmpty_iff.mp h).symm
  · rfl

section Kinds

variable {kind : Toml → Option α} (hkind : ∀ a, kind (value a) = some a)

include hkind

theorem field?_entry_append {more : List (String × Toml)} (hmore : more.lookup name = none) :
    Toml.field? name kind (entry name value setting ++ more) = some setting := by
  have h : _ = some (setting.map id) := field?_entry (fun a _ => hkind a) hmore
  rwa [Option.map_id] at h

theorem field?_entry_alone : Toml.field? name kind (entry name value setting) = some setting := by
  rw [← List.append_nil (entry name value setting)]
  exact field?_entry_append hkind rfl

end Kinds

/-- **The settings are in their table.** -/
theorem ofToml_toToml (s : Settings) : ofToml s.toToml = some s := by
  obtain ⟨root, hroot⟩ : ∃ root, root = s.heading ++ s.sections.map fun part =>
    (part.1, Toml.table part.2) := ⟨_, rfl⟩
  have hfields : s.toToml.fields? [] 0 = some root := hroot ▸ rfl
  have hversion : Toml.field? "version" (·.natBelow? UInt32.size) root = some (some 1) := by
    rw [hroot, heading, List.cons_append, field?_cons_self]
    rfl
  have hdata : Toml.field? "data_file" (·.text?) root = some s.dataFile := by
    rw [hroot, heading, List.cons_append, field?_cons_of_ne (by decide)]
    have hkind (text : String) : (Toml.string text).text? = some text := rfl
    exact field?_entry_append hkind rfl
  have hsection {β : Type} {name : String} {kind : Toml → Option β} (hne : name ≠ "version")
      (hne' : name ≠ "data_file") : Toml.field? name kind root =
        Toml.field? name kind (s.sections.map fun part => (part.1, Toml.table part.2)) := by
    rw [hroot, heading, List.cons_append, field?_cons_of_ne hne, field?_entry_of_ne hne']
  have houtput : Toml.field? "output" (·.fields? ["color"] 1) root =
      some (some (entry "color" .boolean s.colors)) := hsection (by decide) (by decide)
  have hlisting : Toml.field? "listing" (·.fields? ["limit", "sort"] 2) root =
      some (some (entry "limit" (fun n => .integer n.toNat) s.pageSize ++
        entry "sort" .string s.order)) := hsection (by decide) (by decide)
  have hsearch : Toml.field? "search" (·.fields? ["fields"] 0) root =
      some (some (entry "fields" stringList s.searchFields?)) :=
    hsection (by decide) (by decide)
  have hcolors : Toml.field? "color" (·.flag?) (entry "color" .boolean s.colors) =
      some s.colors := field?_entry_alone fun _ => rfl
  have hpageSize : Toml.field? "limit" (·.natBelow? UInt64.size)
      (entry "limit" (fun n => .integer n.toNat) s.pageSize ++ entry "sort" .string s.order) =
      some (s.pageSize.map UInt64.toNat) :=
    field?_entry (fun n _ => natBelow?_toNat n) (by cases s.order <;> rfl)
  have horder : Toml.field? "sort" (·.text?)
      (entry "limit" (fun n => .integer n.toNat) s.pageSize ++ entry "sort" .string s.order) =
      some s.order := by
    rw [field?_entry_of_ne (by decide)]
    exact field?_entry_alone fun _ => rfl
  have hsearchFields : Toml.field? "fields" (·.texts?)
      (entry "fields" stringList s.searchFields?) = some s.searchFields? :=
    field?_entry_alone texts?_stringList
  have hsize : (s.pageSize.map UInt64.toNat).map UInt64.ofNat = s.pageSize := by
    cases s.pageSize <;> simp
  simp only [ofToml, hfields, hversion, hdata, houtput, hlisting, hsearch, hcolors, hpageSize,
    horder, hsearchFields, Option.bind_eq_bind, Option.bind_some, Option.map_some,
    Option.getD_some, hsize, searchFields?_getD]
  rfl

/-- **Settings that a file can hold are read back from their text.** -/
theorem ofText_render (h : s.isWritable = true) : ofText s.render = some s := by
  rw [ofText, toml_ofText_render h, Option.bind_some, ofToml_toToml]

/-! ## Settings that have been read -/

theorem inRange_fields? {document : Toml} {names : List String} {required : Nat}
    {fields : List (String × Toml)} (h : document.InRange)
    (hfields : document.fields? names required = some fields) :
    ∀ field ∈ fields, field.2.InRange := by
  unfold Toml.fields? at hfields
  split at hfields
  · cases hfields
    cases h with
    | table hentries => exact hentries
  · split_ifs at hfields
    cases hfields
    cases h with
    | array hitems => exact fun field hmem => hitems _ (List.of_mem_zip hmem).2
  · cases hfields
    exact fun _ hmem => nomatch hmem
  · cases hfields

theorem field?_cases {β : Type} {kind : Toml → Option β} {fields : List (String × Toml)}
    {found : Option β} (h : ∀ field ∈ fields, field.2.InRange)
    (hfield : Toml.field? name kind fields = some found) :
    found = none ∨ ∃ v b, v.InRange ∧ kind v = some b ∧ found = some b := by
  unfold Toml.field? at hfield
  split at hfield
  · exact .inl (Option.some.inj hfield).symm
  · rename_i v hfind
    obtain ⟨b, hb, rfl⟩ := Option.map_eq_some_iff.mp hfield
    exact .inr ⟨v, b, h (name, v) (mem_of_lookup hfind), hb, rfl⟩

theorem le_of_natBelow? {v : Toml} {bound n : Nat} (hv : v.InRange)
    (hn : v.natBelow? bound = some n) : n < bound ∧ (n : Int) ≤ lastInteger := by
  cases hv with
  | @integer i hi =>
    rw [Toml.natBelow?] at hn
    split_ifs at hn with hrange
    cases hn
    omega
  | _ => cases hn

/-- **Settings that have been read can be written.** -/
theorem isWritable_of_ofText {text : String} (h : ofText text = some s) : s.isWritable = true := by
  obtain ⟨document, hdocument, h⟩ := Option.bind_eq_some_iff.mp h
  obtain ⟨root, hroot, h⟩ := Option.bind_eq_some_iff.mp h
  obtain ⟨-, -, h⟩ := Option.bind_eq_some_iff.mp h
  obtain ⟨dataFile, -, h⟩ := Option.bind_eq_some_iff.mp h
  obtain ⟨output, -, h⟩ := Option.bind_eq_some_iff.mp h
  obtain ⟨colors, -, h⟩ := Option.bind_eq_some_iff.mp h
  obtain ⟨listing, hlisting, h⟩ := Option.bind_eq_some_iff.mp h
  obtain ⟨pageSize, hpageSize, h⟩ := Option.bind_eq_some_iff.mp h
  obtain ⟨order, -, h⟩ := Option.bind_eq_some_iff.mp h
  obtain ⟨search, -, h⟩ := Option.bind_eq_some_iff.mp h
  obtain ⟨searchFields, -, h⟩ := Option.bind_eq_some_iff.mp h
  cases h
  have hfields := inRange_fields? (inRange_of_ofText hdocument) hroot
  have hbelow : ∀ field ∈ listing, field.2.InRange := by
    obtain ⟨found, hfound, rfl⟩ := Option.map_eq_some_iff.mp hlisting
    rcases field?_cases hfields hfound with rfl | ⟨v, entries, hv, hentries, rfl⟩
    · exact fun _ hmem => nomatch hmem
    · exact inRange_fields? hv hentries
  rcases field?_cases hbelow hpageSize with rfl | ⟨v, n, hv, hn, rfl⟩
  · rfl
  · obtain ⟨hsmall, hlast⟩ := le_of_natBelow? hv hn
    have hvalue : ((UInt64.ofNat n).toNat : Int) ≤ lastInteger := by
      rwa [UInt64.toNat_ofNat_of_lt' hsmall]
    simpa [isWritable] using hvalue

end Settings

end Weblog
