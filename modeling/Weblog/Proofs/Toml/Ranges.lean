import Mathlib.Tactic.Common
import Weblog.Proofs.Entries
import Weblog.Toml.Document
/-!
# The integers of a document

No integer of a document lies above the last one of 64 bits, however deep in arrays and tables it
is.

* `InRange`, `Node.InRange`: finished values and tables under construction with such integers.
* `scansInRange`: **values that are read**; `EntriesInRange.changeAt`: a table that is changed;
  `EntriesInRange.readLines`: **lines that are read**.
* **`inRange_of_ofText`**: the whole document.
-/

namespace Weblog.Toml

/-- Whether no integer of a value lies above the last one. -/
inductive InRange : Toml → Prop
  | string (s : String) : InRange (.string s)
  | integer {i : Int} : i ≤ lastInteger → InRange (.integer i)
  | float (x : Binary64) : InRange (.float x)
  | boolean (b : Bool) : InRange (.boolean b)
  | datetime (text : String) : InRange (.datetime text)
  | array {items : List Toml} : (∀ item ∈ items, InRange item) → InRange (.array items)
  | table {entries : List (String × Toml)} : (∀ entry ∈ entries, InRange entry.2) →
      InRange (.table entries)

/-- Whether no integer below a part of a document lies above the last one. -/
inductive Node.InRange : Node → Prop
  | value {v : Toml} : v.InRange → Node.InRange (.value v)
  | table {origin : Origin} {entries : Entries} : (∀ entry ∈ entries, Node.InRange entry.2) →
      Node.InRange (.table origin entries)
  | sequence {before : List Entries} {last : Entries} :
      (∀ entries ∈ before, ∀ entry ∈ entries, Node.InRange entry.2) →
      (∀ entry ∈ last, Node.InRange entry.2) → Node.InRange (.sequence before last)

def EntriesInRange (entries : Entries) : Prop :=
  ∀ entry ∈ entries, entry.2.InRange

variable {entries after : Entries} {name : String} {node : Node} {value : Toml} {key : Key}
  {s rest : List Char}

/-! ## Tables under construction -/

theorem entriesInRange_nil : EntriesInRange [] := fun _ h => nomatch h

theorem EntriesInRange.set (h : EntriesInRange entries) (hnode : node.InRange) :
    EntriesInRange (setEntry name node entries) := by
  intro entry hmem
  rcases mem_setEntry hmem with rfl | hmem
  · exact hnode
  · exact h entry hmem

theorem EntriesInRange.of_lookup (h : EntriesInRange entries)
    (hfind : entries.lookup name = some node) : node.InRange :=
  h _ (mem_of_lookup hfind)

/-- **A table that is changed**, if the change does not bring integers out of range. -/
theorem EntriesInRange.changeAt {dotted : Bool} {change : Origin → Entries → Option Entries}
    (hchange : ∀ origin entries after, EntriesInRange entries →
      change origin entries = some after → EntriesInRange after)
    {path : List String} {origin : Origin} (h : EntriesInRange entries)
    (hafter : Toml.changeAt dotted change path origin entries = some after) :
    EntriesInRange after := by
  induction path generalizing origin entries after with
  | nil => exact hchange origin entries after h hafter
  | cons name path ih =>
    rw [Toml.changeAt] at hafter
    cases hfind : entries.lookup name with
    | none =>
      simp only [hfind, Option.bind_eq_bind, Option.bind_eq_some_iff, Option.pure_def,
        Option.some_inj] at hafter
      obtain ⟨below, hbelow, rfl⟩ := hafter
      exact h.set (.table (ih entriesInRange_nil hbelow))
    | some node =>
      have hnode := h.of_lookup hfind
      cases hnode with
      | value _ => simp [hfind] at hafter
      | @table origin entries hentries =>
        simp only [hfind] at hafter
        split_ifs at hafter
        simp only [Option.bind_eq_bind, Option.bind_eq_some_iff, Option.pure_def,
          Option.some_inj] at hafter
        obtain ⟨below, hbelow, rfl⟩ := hafter
        exact h.set (.table (ih hentries hbelow))
      | @sequence before last hbefore hlast =>
        simp only [hfind, Option.bind_eq_bind, Option.bind_eq_some_iff, Option.pure_def,
          Option.some_inj] at hafter
        obtain ⟨below, hbelow, rfl⟩ := hafter
        exact h.set (.sequence hbefore (ih hlast hbelow))

theorem EntriesInRange.assign {origin : Origin} (h : EntriesInRange entries)
    (hvalue : value.InRange)
    (hafter : Toml.assign key value origin entries = some after) : EntriesInRange after := by
  refine h.changeAt (fun origin entries after h hafter => ?_) hafter
  split_ifs at hafter
  cases hafter
  exact h.set (.value hvalue)

theorem EntriesInRange.assignIn {header : List String} (h : EntriesInRange entries)
    (hvalue : value.InRange) (hafter : Toml.assignIn header key value entries = some after) :
    EntriesInRange after :=
  h.changeAt (fun _ _ _ h hafter => h.assign hvalue hafter) hafter

theorem EntriesInRange.openTable (h : EntriesInRange entries)
    (hafter : Toml.openTable key entries = some after) : EntriesInRange after := by
  refine h.changeAt (fun origin entries after h hafter => ?_) hafter
  split at hafter
  · cases hafter
    exact h.set (.table entriesInRange_nil)
  · rename_i below hfind
    cases hafter
    cases h.of_lookup hfind with
    | table hbelow => exact h.set (.table hbelow)
  · cases hafter

theorem EntriesInRange.openItem (h : EntriesInRange entries)
    (hafter : Toml.openItem key entries = some after) : EntriesInRange after := by
  refine h.changeAt (fun origin entries after h hafter => ?_) hafter
  split at hafter
  · cases hafter
    exact h.set (.sequence (fun _ h => nomatch h) entriesInRange_nil)
  · rename_i before last hfind
    cases hafter
    cases h.of_lookup hfind with
    | sequence hbefore hlast =>
      refine h.set (.sequence (fun entries hmem => ?_) entriesInRange_nil)
      rcases List.mem_append.mp hmem with hmem | hmem
      · exact hbefore entries hmem
      · rw [List.mem_singleton.mp hmem]
        exact hlast
  · cases hafter

/-! ## Finished values -/

theorem finishEntries_eq (entries : Entries) :
    finishEntries entries = entries.map fun entry => (entry.1, entry.2.toToml) := by
  induction entries with
  | nil => rfl
  | cons entry entries ih => rw [finishEntries, ih, List.map_cons]

theorem finishTables_eq (tables : List Entries) :
    finishTables tables = tables.map fun entries => .table (finishEntries entries) := by
  induction tables with
  | nil => rfl
  | cons entries tables ih => rw [finishTables, ih, List.map_cons]

theorem inRange_finishEntries (h : ∀ entry ∈ entries, entry.2.toToml.InRange) :
    (Toml.table (finishEntries entries)).InRange := by
  rw [finishEntries_eq]
  refine .table fun entry hmem => ?_
  obtain ⟨part, hpart, rfl⟩ := List.mem_map.mp hmem
  exact h part hpart

/-- **A part of a document keeps its integers** when it is finished. -/
theorem Node.InRange.toToml (h : node.InRange) : node.toToml.InRange := by
  induction h with
  | value h => rwa [Node.toToml]
  | table _ ih =>
    rw [Node.toToml]
    exact inRange_finishEntries ih
  | sequence _ _ ihbefore ihlast =>
    rw [Node.toToml, finishTables_eq]
    refine .array fun item hmem => ?_
    rcases List.mem_append.mp hmem with hmem | hmem
    · obtain ⟨entries, hentries, rfl⟩ := List.mem_map.mp hmem
      exact inRange_finishEntries (ihbefore entries hentries)
    · rw [List.mem_singleton.mp hmem]
      exact inRange_finishEntries ihlast

theorem EntriesInRange.finish (h : EntriesInRange entries) :
    (Toml.table (finishEntries entries)).InRange :=
  inRange_finishEntries fun entry hmem => (h entry hmem).toToml

/-! ## Values -/

theorem inRange_of_readWord {word : List Char} (h : readWord word = some value) :
    value.InRange := by
  unfold readWord at h
  split_ifs at h
  · cases h; exact .boolean true
  · cases h; exact .boolean false
  · cases h; exact .datetime _
  · split at h
    · rename_i i hread
      cases h
      have hrange := (Option.filter_eq_some_iff.mp hread).2
      rw [Bool.and_eq_true] at hrange
      exact .integer (of_decide_eq_true hrange.2)
    · obtain ⟨x, -, rfl⟩ := Option.map_eq_some_iff.mp h
      exact .float x

theorem inRange_of_scanWord (h : scanWord s = some (value, rest)) : value.InRange := by
  have hmap {word s' : List Char}
      (h : (readWord word).map (fun v => (v, s')) = some (value, rest)) :
      value.InRange := by
    obtain ⟨v, hread, heq⟩ := Option.map_eq_some_iff.mp h
    cases heq
    exact inRange_of_readWord hread
  unfold scanWord at h
  dsimp only at h
  split at h
  · split_ifs at h
    · exact hmap h
    · exact hmap h
  · exact hmap h

theorem EntriesInRange.foldlM_assign {assignments : List (Key × Toml)} {start : Entries}
    (hstart : EntriesInRange start) (h : ∀ assignment ∈ assignments, assignment.2.InRange)
    (hfold : assignments.foldlM
      (fun entries (key, value) => Toml.assign key value .header entries) start = some after) :
    EntriesInRange after := by
  induction assignments generalizing start with
  | nil =>
    cases hfold
    exact hstart
  | cons assignment assignments ih =>
    rw [List.foldlM_cons] at hfold
    obtain ⟨next, hassign, hrest⟩ := Option.bind_eq_some_iff.mp hfold
    exact ih (hstart.assign (h assignment List.mem_cons_self) hassign)
      (fun a ha => h a (List.mem_cons_of_mem _ ha)) hrest

theorem inRange_ofAssignments {assignments : List (Key × Toml)}
    (h : ∀ assignment ∈ assignments, assignment.2.InRange)
    (hvalue : ofAssignments assignments = some value) : value.InRange := by
  obtain ⟨entries, hfold, heq⟩ := Option.bind_eq_some_iff.mp hvalue
  cases heq
  exact (entriesInRange_nil.foldlM_assign h hfold).finish

/-- Whether values, items and assignments that are read with some fuel have no integers out of
range. -/
structure ScansInRange (fuel : Nat) : Prop where
  value : ∀ {depth s value rest}, scanValue fuel depth s = some (value, rest) → value.InRange
  items : ∀ {depth s items rest}, scanItems fuel depth s = some (items, rest) →
    ∀ item ∈ items, item.InRange
  assignments : ∀ {depth s assignments rest},
    scanAssignments fuel depth s = some (assignments, rest) →
    ∀ assignment ∈ assignments, assignment.2.InRange

section Step

variable {fuel depth : Nat} (h : ScansInRange fuel)

include h

theorem ScansInRange.value_succ (hscan : scanValue (fuel + 1) depth s = some (value, rest)) :
    value.InRange := by
  unfold scanValue at hscan
  split at hscan
  · split_ifs at hscan
    obtain ⟨⟨items, rest⟩, hitems, heq⟩ := Option.bind_eq_some_iff.mp hscan
    cases heq
    exact .array (h.items hitems)
  · split_ifs at hscan
    dsimp only at hscan
    split at hscan
    · obtain ⟨⟨assignments, rest⟩, hread, hof⟩ := Option.bind_eq_some_iff.mp hscan
      cases hread
      obtain ⟨v, hv, heq⟩ := Option.bind_eq_some_iff.mp hof
      cases heq
      exact inRange_ofAssignments (by simp) hv
    · obtain ⟨⟨assignments, rest⟩, hread, hof⟩ := Option.bind_eq_some_iff.mp hscan
      obtain ⟨v, hv, heq⟩ := Option.bind_eq_some_iff.mp hof
      cases heq
      exact inRange_ofAssignments (h.assignments hread) hv
  · obtain ⟨_, -, heq⟩ := Option.map_eq_some_iff.mp hscan
    cases heq
    exact .string _
  · obtain ⟨_, -, heq⟩ := Option.map_eq_some_iff.mp hscan
    cases heq
    exact .string _
  · exact inRange_of_scanWord hscan

theorem ScansInRange.items_succ {items : List Toml}
    (hscan : scanItems (fuel + 1) depth s = some (items, rest)) :
    ∀ item ∈ items, item.InRange := by
  unfold scanItems at hscan
  split at hscan
  · cases hscan
  · cases hscan
    exact fun _ h => nomatch h
  · rename_i heq _
    cases heq
    obtain ⟨⟨item, between⟩, hitem, hscan⟩ := Option.bind_eq_some_iff.mp hscan
    dsimp only at hscan
    split at hscan
    · obtain ⟨⟨items, rest⟩, hitems, heq⟩ := Option.bind_eq_some_iff.mp hscan
      cases heq
      exact List.forall_mem_cons.mpr ⟨h.value hitem, h.items hitems⟩
    · cases hscan
      exact List.forall_mem_singleton.mpr (h.value hitem)
    · cases hscan

theorem ScansInRange.assignments_succ {assignments : List (Key × Toml)}
    (hscan : scanAssignments (fuel + 1) depth s = some (assignments, rest)) :
    ∀ assignment ∈ assignments, assignment.2.InRange := by
  unfold scanAssignments at hscan
  obtain ⟨⟨key, between⟩, -, hscan⟩ := Option.bind_eq_some_iff.mp hscan
  obtain ⟨between, -, hscan⟩ := Option.bind_eq_some_iff.mp hscan
  obtain ⟨⟨value, between⟩, hvalue, hscan⟩ := Option.bind_eq_some_iff.mp hscan
  dsimp only at hscan
  split at hscan
  · obtain ⟨⟨assignments, rest⟩, hassignments, heq⟩ := Option.bind_eq_some_iff.mp hscan
    cases heq
    exact List.forall_mem_cons.mpr ⟨h.value hvalue, h.assignments hassignments⟩
  · cases hscan
    exact List.forall_mem_singleton.mpr (h.value hvalue)
  · cases hscan

end Step

/-- **What is read** has no integers out of range. -/
theorem scansInRange (fuel : Nat) : ScansInRange fuel := by
  induction fuel with
  | zero => constructor <;> simp [scanValue, scanItems, scanAssignments]
  | succ fuel ih => exact ⟨ih.value_succ, ih.items_succ, ih.assignments_succ⟩

/-! ## Documents -/

section Lines

variable {above : List String} {root : Entries} (h : EntriesInRange root)

include h

theorem EntriesInRange.readAssignment
    (hread : Toml.readAssignment above root s = some (after, rest)) : EntriesInRange after := by
  unfold Toml.readAssignment at hread
  obtain ⟨⟨key, between⟩, -, hread⟩ := Option.bind_eq_some_iff.mp hread
  obtain ⟨between, -, hread⟩ := Option.bind_eq_some_iff.mp hread
  obtain ⟨⟨value, between⟩, hvalue, hread⟩ := Option.bind_eq_some_iff.mp hread
  obtain ⟨between, -, hread⟩ := Option.bind_eq_some_iff.mp hread
  obtain ⟨next, hassign, heq⟩ := Option.bind_eq_some_iff.mp hread
  cases heq
  exact h.assignIn ((scansInRange _).value hvalue) hassign

theorem EntriesInRange.readHeader {names : List String}
    (hread : Toml.readHeader root s = some (names, after, rest)) : EntriesInRange after := by
  unfold Toml.readHeader at hread
  split at hread
  · obtain ⟨⟨key, between⟩, -, hread⟩ := Option.bind_eq_some_iff.mp hread
    obtain ⟨between, -, hread⟩ := Option.bind_eq_some_iff.mp hread
    obtain ⟨between, -, hread⟩ := Option.bind_eq_some_iff.mp hread
    obtain ⟨next, hopen, heq⟩ := Option.bind_eq_some_iff.mp hread
    cases heq
    exact h.openItem hopen
  · obtain ⟨⟨key, between⟩, -, hread⟩ := Option.bind_eq_some_iff.mp hread
    obtain ⟨between, -, hread⟩ := Option.bind_eq_some_iff.mp hread
    obtain ⟨between, -, hread⟩ := Option.bind_eq_some_iff.mp hread
    obtain ⟨next, hopen, heq⟩ := Option.bind_eq_some_iff.mp hread
    cases heq
    exact h.openTable hopen

end Lines

/-- **Lines that are read** bring no integers out of range. -/
theorem EntriesInRange.readLines {fuel : Nat} {above : List String} {root : Entries}
    (h : EntriesInRange root) (hread : Toml.readLines fuel above root s = some after) :
    EntriesInRange after := by
  induction fuel generalizing above root s with
  | zero => cases hread
  | succ fuel ih =>
    unfold Toml.readLines at hread
    split at hread
    · cases hread
      exact h
    · obtain ⟨⟨names, next, between⟩, hheader, hrest⟩ := Option.bind_eq_some_iff.mp hread
      exact ih (h.readHeader hheader) hrest
    · obtain ⟨⟨next, between⟩, hassignment, hrest⟩ := Option.bind_eq_some_iff.mp hread
      exact ih (h.readAssignment hassignment) hrest

/-- **No integer of a document lies above the last one.** -/
theorem inRange_of_ofText {text : String} {document : Toml} (h : ofText text = some document) :
    document.InRange := by
  obtain ⟨root, hread, heq⟩ := Option.bind_eq_some_iff.mp h
  cases heq
  exact (entriesInRange_nil.readLines hread).finish

end Weblog.Toml
