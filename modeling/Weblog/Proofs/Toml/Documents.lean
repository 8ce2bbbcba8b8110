import Mathlib.Tactic.Common
import Weblog.Proofs.Entries
import Weblog.Toml.Document
/-!
# TOML documents read back

A document that is written line by line, first keys with their values and then tables with headers,
is read as the table that it shows.

* `Denotes`: what stands for a value up to the end of a line.
* `Lines`, `Sections`: lines with keys and values, and tables with headers, as they are written.
* `Reads`: how lines are read; `Reads.assignment`, `Reads.header`: **one line**; `Reads.lines`,
  `Reads.sections`: lines and tables one after another.
* **`ofText_of_sections`**: the whole document.
-/

namespace Weblog.Toml

variable {name : String} {value : Toml} {p s t : List Char} {above : List String}
  {root result : Entries} {entries : List (String × Toml)}
  {parts : List (String × List (String × Toml))}

/-! ## Documents as they are written -/

/-- Whether a name needs no quotes. -/
def isBare (name : String) : Bool :=
  !name.toList.isEmpty && name.toList.all isNameChar

/-- Whether a text, up to the end of its line, stands for a value. -/
structure Denotes (p : List Char) (value : Toml) : Prop where
  read : ∀ fuel rest, p.length < fuel →
    scanValue fuel depthLimit (p ++ '\n' :: rest) = some (value, '\n' :: rest)
  start : ∀ c, p.head? = some c → isSpace c = false
  noReturn : '\r' ∉ p

/-- Lines with a key and its value. -/
inductive Lines : List (String × Toml) → List Char → Prop
  | nil : Lines [] []
  | cons {name : String} {value : Toml} {p : List Char} {entries : List (String × Toml)}
      {s : List Char} : isBare name → Denotes p value → Lines entries s →
      Lines ((name, value) :: entries) (name.toList ++ ' ' :: '=' :: ' ' :: (p ++ '\n' :: s))

/-- Tables with their headers, each one behind an empty line. -/
inductive Sections : List (String × List (String × Toml)) → List Char → Prop
  | nil : Sections [] []
  | cons {name : String} {entries : List (String × Toml)} {s t : List Char}
      {parts : List (String × List (String × Toml))} : isBare name → Lines entries s →
      Sections parts t → Sections ((name, entries) :: parts)
        ('\n' :: '[' :: (name.toList ++ ']' :: '\n' :: (s ++ t)))

theorem Lines.append {more : List (String × Toml)} (h : Lines entries s) (h' : Lines more t) :
    Lines (entries ++ more) (s ++ t) := by
  induction h with
  | nil => exact h'
  | cons hname hvalue _ ih =>
    have hmore := Lines.cons hname hvalue ih
    simpa only [List.cons_append, List.append_assoc] using hmore

/-! ## Names -/

theorem isNameChar_lt {c : Char} (h : isNameChar c = true) : c.toNat < 0x80 := by
  have hcode (a : Char) : a.val.toNat = a.toNat := rfl
  have hranges : c.isAlphanum = (decide ('A'.val ≤ c.val ∧ c.val ≤ 'Z'.val) ||
      (decide ('a'.val ≤ c.val) && decide (c.val ≤ 'z'.val)) ||
      (decide ('0'.val ≤ c.val) && decide (c.val ≤ '9'.val))) := rfl
  simp only [isNameChar, hranges, Bool.or_eq_true, Bool.and_eq_true, decide_eq_true_eq, beq_iff_eq,
    UInt32.le_iff_toNat_le, hcode] at h
  rcases h with (((⟨-, h⟩ | ⟨-, h⟩) | ⟨-, h⟩) | rfl) | rfl
  · exact Nat.lt_of_le_of_lt h (by decide)
  · exact Nat.lt_of_le_of_lt h (by decide)
  · exact Nat.lt_of_le_of_lt h (by decide)
  · decide
  · decide

theorem isBare_cases (h : isBare name = true) :
    ∃ c rest, name.toList = c :: rest ∧ isNameChar c = true ∧
      ∀ d ∈ name.toList, isNameChar d = true := by
  simp only [isBare, Bool.and_eq_true, List.all_eq_true] at h
  obtain ⟨hne, hall⟩ := h
  cases hlist : name.toList with
  | nil => simp [hlist] at hne
  | cons c rest =>
    rw [hlist] at hall
    exact ⟨c, rest, rfl, hall c List.mem_cons_self, hall⟩

theorem ne_of_isNameChar {c d : Char} (h : isNameChar c = true) (hd : isNameChar d = false) :
    c ≠ d := by
  rintro rfl
  rw [h] at hd
  cases hd

theorem isSpace_of_isNameChar {c : Char} (h : isNameChar c = true) : isSpace c = false := by
  have hblank : c ≠ ' ' := ne_of_isNameChar h (by decide)
  have htab : c ≠ '\t' := ne_of_isNameChar h (by decide)
  simp [isSpace, hblank, htab]

theorem skipFiller_cons {c : Char} (hline : c ≠ '\n') (hspace : isSpace c = false)
    (hhash : c ≠ '#') (s : List Char) : skipFiller false (c :: s) = c :: s := by
  rw [skipFiller, if_neg hline]
  simp [hspace, hhash]

section Key

variable (hname : isBare name = true)

include hname

theorem name_append_ne {c : Char} (hc : isNameChar c = false) (s tail : List Char) :
    name.toList ++ s ≠ c :: tail := by
  obtain ⟨first, more, hlist, hfirst, -⟩ := isBare_cases hname
  rw [hlist]
  exact fun h => ne_of_isNameChar hfirst hc (List.cons.inj h).1

theorem skipSpace_name (s : List Char) : skipSpace (name.toList ++ s) = name.toList ++ s := by
  obtain ⟨first, more, hlist, hfirst, -⟩ := isBare_cases hname
  rw [hlist, List.cons_append, skipSpace,
    List.dropWhile_cons_of_neg (by simp [isSpace_of_isNameChar hfirst])]

theorem skipFiller_name (s : List Char) :
    skipFiller false (name.toList ++ s) = name.toList ++ s := by
  obtain ⟨first, more, hlist, hfirst, -⟩ := isBare_cases hname
  rw [hlist, List.cons_append]
  exact skipFiller_cons (ne_of_isNameChar hfirst (by decide)) (isSpace_of_isNameChar hfirst)
    (ne_of_isNameChar hfirst (by decide)) _

variable {c : Char} {rest : List Char} (hc : isNameChar c = false)

include hc

theorem scanName_bare : scanName (name.toList ++ c :: rest) = some (name, c :: rest) := by
  obtain ⟨first, more, hlist, -, hall⟩ := isBare_cases hname
  have htake : (name.toList ++ c :: rest).takeWhile isNameChar = name.toList := by
    rw [List.takeWhile_append_of_pos hall, List.takeWhile_cons_of_neg (by simp [hc]),
      List.append_nil]
  have hdrop : (name.toList ++ c :: rest).dropWhile isNameChar = c :: rest := by
    rw [List.dropWhile_append_of_pos hall, List.dropWhile_cons_of_neg (by simp [hc])]
  unfold scanName
  split
  · rename_i hbegin
    exact absurd hbegin (name_append_ne hname (by decide) _ _)
  · rename_i hbegin
    exact absurd hbegin (name_append_ne hname (by decide) _ _)
  · rw [htake, hdrop, if_neg (by simp [hlist]), String.ofList_toList]

/-- **A name is read as a key.** -/
theorem scanKey_bare (hdot : c ≠ '.') (hspace : isSpace c = false) (space : List Char)
    (hblank : ∀ d ∈ space, isSpace d = true) :
    scanKey (name.toList ++ (space ++ c :: rest)) = some (⟨[], name⟩, c :: rest) := by
  have hafter : skipSpace (space ++ c :: rest) = c :: rest := by
    rw [skipSpace, List.dropWhile_append_of_pos hblank,
      List.dropWhile_cons_of_neg (by simp [hspace])]
  have hscan : scanName (name.toList ++ (space ++ c :: rest)) =
      some (name, space ++ c :: rest) := by
    cases space with
    | nil => exact scanName_bare hname hc
    | cons d space =>
      refine scanName_bare hname ?_
      cases hd : isNameChar d with
      | false => rfl
      | true =>
        have hnot := isSpace_of_isNameChar hd
        rw [hblank d List.mem_cons_self] at hnot
        cases hnot
  rw [scanKey, depthLimit, scanNames, skipSpace_name hname, hscan]
  simp only [Option.bind_eq_bind, Option.bind_some, hafter]
  split
  · rename_i hbegin
    exact absurd (List.cons.inj hbegin).1 hdot
  · rfl

end Key

/-! ## Lines -/

/-- Whether reading a text below a header yields some entries. -/
def Reads (above : List String) (root : Entries) (s : List Char) (result : Entries) : Prop :=
  ∀ fuel, s.length < fuel → readLines fuel above root s = some result

theorem reads_nil (above : List String) (root : Entries) : Reads above root [] root := by
  intro fuel hfuel
  cases fuel with
  | zero => cases hfuel
  | succ fuel => rfl

theorem skipFiller_lineFeed (s : List Char) :
    skipFiller false ('\n' :: s) = skipFiller false s := by
  rw [skipFiller, if_pos rfl]

theorem readLines_lineFeed (fuel : Nat) :
    readLines fuel above root ('\n' :: s) = readLines fuel above root s := by
  cases fuel with
  | zero => rfl
  | succ fuel => rw [readLines, readLines, skipFiller_lineFeed]

theorem lineEnd_lineFeed (s : List Char) : lineEnd ('\n' :: s) = some ('\n' :: s) := rfl

theorem expect_cons (c : Char) (s : List Char) : expect [c] (c :: s) = some s := by
  simp [expect]

theorem Denotes.skipSpace (hvalue : Denotes p value) (s : List Char) :
    skipSpace (' ' :: (p ++ '\n' :: s)) = p ++ '\n' :: s := by
  rw [Toml.skipSpace, List.dropWhile_cons_of_pos (by decide)]
  cases p with
  | nil => rfl
  | cons d p => rw [List.cons_append, List.dropWhile_cons_of_neg (by simp [hvalue.start d rfl])]

theorem readAssignment_bare (hname : isBare name = true) (hvalue : Denotes p value)
    {next : Entries} (hassign : assignIn above ⟨[], name⟩ value root = some next)
    (s : List Char) :
    readAssignment above root (name.toList ++ ' ' :: '=' :: ' ' :: (p ++ '\n' :: s)) =
      some (next, '\n' :: s) := by
  have hkey : scanKey (name.toList ++ ' ' :: '=' :: ' ' :: (p ++ '\n' :: s)) =
      some (⟨[], name⟩, '=' :: ' ' :: (p ++ '\n' :: s)) :=
    scanKey_bare hname (by decide) (by decide) (by decide) [' '] (by simp [isSpace])
  simp only [readAssignment, hkey, Option.bind_eq_bind, Option.bind_some, expect_cons,
    hvalue.skipSpace]
  rw [hvalue.read _ _ (by simp; omega)]
  simp only [Option.bind_some, lineEnd_lineFeed, hassign]
  rfl

/-- **A line with a key and its value is read.** -/
theorem Reads.assignment (hname : isBare name = true) (hvalue : Denotes p value) {next : Entries}
    (hassign : assignIn above ⟨[], name⟩ value root = some next) (h : Reads above next s result) :
    Reads above root (name.toList ++ ' ' :: '=' :: ' ' :: (p ++ '\n' :: s)) result := by
  intro fuel hfuel
  cases fuel with
  | zero => omega
  | succ fuel =>
    rw [readLines, skipFiller_name hname]
    split
    · rename_i hbegin
      simp at hbegin
    · rename_i hbegin
      exact absurd hbegin (name_append_ne hname (by decide) _ _)
    · rw [readAssignment_bare hname hvalue hassign s]
      refine (readLines_lineFeed fuel).trans (h fuel ?_)
      simp only [List.length_cons, List.length_append] at hfuel
      omega

theorem readHeader_bare (hname : isBare name = true) {next : Entries}
    (hopen : openTable ⟨[], name⟩ root = some next) (s : List Char) :
    readHeader root (name.toList ++ ']' :: '\n' :: s) = some ([name], next, '\n' :: s) := by
  have hkey : scanKey (name.toList ++ ']' :: '\n' :: s) = some (⟨[], name⟩, ']' :: '\n' :: s) :=
    scanKey_bare hname (by decide) (by decide) (by decide) [] (by simp)
  unfold readHeader
  split
  · rename_i hbegin
    exact absurd hbegin (name_append_ne hname (by decide) _ _)
  · rw [hkey]
    simp only [Option.bind_eq_bind, Option.bind_some, expect_cons, lineEnd_lineFeed, hopen]
    rfl

/-- **A line with a header is read.** -/
theorem Reads.header (hname : isBare name = true) {next : Entries}
    (hopen : openTable ⟨[], name⟩ root = some next) (h : Reads [name] next s result) :
    Reads above root ('\n' :: '[' :: (name.toList ++ ']' :: '\n' :: s)) result := by
  intro fuel hfuel
  have hbracket := skipFiller_cons (c := '[') (by decide) (by decide) (by decide)
    (name.toList ++ ']' :: '\n' :: s)
  rw [readLines_lineFeed]
  cases fuel with
  | zero => omega
  | succ fuel =>
    rw [readLines, hbracket]
    simp only [readHeader_bare hname hopen s, Option.bind_eq_bind, Option.bind_some]
    refine (readLines_lineFeed fuel).trans (h fuel ?_)
    simp only [List.length_cons, List.length_append] at hfuel
    omega

/-! ## Tables under construction -/

/-- Entries of a table with their values. -/
def nodes (entries : List (String × Toml)) : Entries :=
  entries.map fun entry => (entry.1, .value entry.2)

theorem finishEntries_append (first second : Entries) :
    finishEntries (first ++ second) = finishEntries first ++ finishEntries second := by
  induction first with
  | nil => rfl
  | cons entry first ih =>
    rw [List.cons_append, finishEntries, finishEntries, ih, List.cons_append]

theorem finishEntries_nodes (entries : List (String × Toml)) :
    finishEntries (nodes entries) = entries := by
  induction entries with
  | nil => rfl
  | cons entry entries ih =>
    change (entry.1, (Node.value entry.2).toToml) :: finishEntries (nodes entries) =
      entry :: entries
    rw [ih, Node.toToml]

theorem assign_bare {origin : Origin} (h : root.lookup name = none) :
    assign ⟨[], name⟩ value origin root = some (root ++ [(name, .value value)]) := by
  have hknows : knows root name = false := by rw [knows, h]; rfl
  rw [assign, changeAt, if_neg (by simp), hknows, if_neg (by simp), setEntry_of_lookup_eq_none h]

theorem assignIn_nil (h : root.lookup name = none) :
    assignIn [] ⟨[], name⟩ value root = some (root ++ [(name, .value value)]) := by
  rw [assignIn, changeAt, assign_bare h]

theorem openTable_bare (h : root.lookup name = none) :
    openTable ⟨[], name⟩ root = some (root ++ [(name, .table .header [])]) := by
  rw [openTable, changeAt, h]
  exact congrArg some (setEntry_of_lookup_eq_none h)

theorem assignIn_last {part : String} {below : Entries} (hsection : root.lookup part = none)
    (h : below.lookup name = none) :
    assignIn [part] ⟨[], name⟩ value (root ++ [(part, .table .header below)]) =
      some (root ++ [(part, .table .header (below ++ [(name, .value value)]))]) := by
  have hfind : (root ++ [(part, Node.table .header below)]).lookup part =
      some (.table .header below) := by
    rw [List.lookup_append, hsection, Option.none_or, lookup_cons_ite, if_pos rfl]
  rw [assignIn, changeAt, hfind]
  simp only [Bool.false_and, Bool.false_eq_true, if_false, changeAt, assign_bare h,
    Option.bind_eq_bind, Option.bind_some, Option.pure_def]
  rw [setEntry_append hsection, setEntry, if_pos rfl]

/-! ## Documents -/

/-- **Lines one after another are read**, wherever their table is. -/
theorem Reads.lines (place : Entries → Entries)
    (hassign : ∀ known name value, List.lookup name known = none →
      assignIn above ⟨[], name⟩ value (place known) =
        some (place (known ++ [(name, .value value)])))
    (h : Lines entries s) (known : Entries)
    (hfresh : (known.map (·.1) ++ entries.map (·.1)).Nodup)
    (hrest : Reads above (place (known ++ nodes entries)) t result) :
    Reads above (place known) (s ++ t) result := by
  induction h generalizing known with
  | nil => simpa [nodes] using hrest
  | @cons name value p entries s hname hvalue _ ih =>
    have hnew : name ∉ known.map (·.1) := fun hmem =>
      (List.nodup_append.mp hfresh).2.2 name hmem name List.mem_cons_self rfl
    have hnext : Reads above (place (known ++ [(name, .value value)])) (s ++ t) result := by
      refine ih _ (by simpa using hfresh) ?_
      simpa [nodes] using hrest
    have hread := Reads.assignment hname hvalue
      (hassign known name value (lookup_eq_none_of_not_mem hnew)) hnext
    simpa only [List.append_assoc, List.cons_append] using hread

/-- The tables of some headers. -/
def sectionNodes (parts : List (String × List (String × Toml))) : Entries :=
  parts.map fun part => (part.1, .table .header (nodes part.2))

/-- **Tables one after another are read.** -/
theorem Reads.sections (h : Sections parts t)
    (hfresh : (root.map (·.1) ++ parts.map (·.1)).Nodup)
    (hnames : ∀ part ∈ parts, (part.2.map (·.1)).Nodup) :
    Reads above root t (root ++ sectionNodes parts) := by
  induction h generalizing root above with
  | nil => simpa [sectionNodes] using reads_nil above root
  | @cons name entries s t parts hname hlines _ ih =>
    have hnew : root.lookup name = none := lookup_eq_none_of_not_mem fun hmem =>
      (List.nodup_append.mp hfresh).2.2 name hmem name List.mem_cons_self rfl
    refine Reads.header hname (openTable_bare hnew) ?_
    refine Reads.lines (fun below => root ++ [(name, .table .header below)])
      (fun _ _ _ h => assignIn_last hnew h) hlines []
      (by simpa using hnames _ List.mem_cons_self) ?_
    have hrest : Reads [name] (root ++ [(name, .table .header (nodes entries))]) t
        (root ++ [(name, .table .header (nodes entries))] ++ sectionNodes parts) :=
      ih (by simpa using hfresh) fun part hmem => hnames _ (List.mem_cons_of_mem _ hmem)
    simpa [sectionNodes] using hrest

theorem finishEntries_sectionNodes (parts : List (String × List (String × Toml))) :
    finishEntries (sectionNodes parts) =
      parts.map fun part => (part.1, .table part.2) := by
  induction parts with
  | nil => rfl
  | cons part parts ih =>
    change (part.1, (Node.table .header (nodes part.2)).toToml) ::
      finishEntries (sectionNodes parts) = _
    rw [ih, Node.toToml, finishEntries_nodes, List.map_cons]

theorem return_not_mem_name (hname : isBare name = true) : '\r' ∉ name.toList := by
  obtain ⟨-, -, -, -, hall⟩ := isBare_cases hname
  exact fun hmem => ne_of_isNameChar (hall _ hmem) (by decide) rfl

theorem Lines.noReturn (h : Lines entries s) : '\r' ∉ s := by
  induction h with
  | nil => exact List.not_mem_nil
  | cons hname hvalue _ ih => simp [return_not_mem_name hname, hvalue.noReturn, ih]

theorem Sections.noReturn (h : Sections parts t) : '\r' ∉ t := by
  induction h with
  | nil => exact List.not_mem_nil
  | cons hname hlines _ ih => simp [return_not_mem_name hname, hlines.noReturn, ih]

theorem plainLineEnds_eq_self (h : '\r' ∉ s) : plainLineEnds s = s := by
  induction s with
  | nil => rfl
  | cons c s ih =>
    obtain ⟨hc, hs⟩ := not_or.mp (List.mem_cons.not.mp h)
    rw [plainLineEnds, ih hs]
    rintro _ rfl _
    exact hc rfl

/-- A document that is written line by line does not begin with a byte order mark. -/
theorem dropMark_eq_self (hlines : Lines entries s) (hsections : Sections parts t) :
    dropMark (s ++ t) = s ++ t := by
  cases hlines with
  | cons hname _ _ =>
    obtain ⟨c, rest, hlist, hc, -⟩ := isBare_cases hname
    have hsmall := isNameChar_lt hc
    rw [hlist, List.cons_append, List.cons_append, dropMark, if_neg (by omega)]
  | nil =>
    cases hsections with
    | nil => rfl
    | cons _ _ _ => rfl

/-- **A document that is written line by line is read as the table that it shows.** -/
theorem ofText_of_sections (hlines : Lines entries s) (hsections : Sections parts t)
    (hnames : (entries.map (·.1) ++ parts.map (·.1)).Nodup)
    (hbelow : ∀ part ∈ parts, (part.2.map (·.1)).Nodup) :
    ofText (String.ofList (s ++ t)) =
      some (.table (entries ++ parts.map fun part => (part.1, .table part.2))) := by
  have hreturn : '\r' ∉ s ++ t := by simp [hlines.noReturn, hsections.noReturn]
  have hkeys : (nodes entries).map (·.1) = entries.map (·.1) := by simp [nodes]
  have hread : Reads [] [] (s ++ t) (nodes entries ++ sectionNodes parts) :=
    Reads.lines id (fun _ _ _ h => assignIn_nil h) hlines []
      (by simpa using (List.nodup_append.mp hnames).1)
      (Reads.sections hsections (by simpa [hkeys] using hnames) hbelow)
  rw [ofText, String.toList_ofList, dropMark_eq_self hlines hsections,
    plainLineEnds_eq_self hreturn, hread _ (Nat.lt_succ_self _)]
  simp only [Option.bind_eq_bind, Option.bind_some, Option.pure_def, finishEntries_append,
    finishEntries_nodes, finishEntries_sectionNodes]

end Weblog.Toml
