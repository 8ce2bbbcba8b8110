import Mathlib.Tactic.Common
import Weblog.Proofs.Calendar.Readings
import Weblog.Proofs.Toml.Documents
import Weblog.Proofs.Toml.Strings
/-!
# TOML values read back

Truth values and natural numbers are single words, strings stand between quotes, and an array of
strings goes over several lines.

* `scanWord_of_isWordChar`: the first word of a text; `readWord_toDigits`: **a number is read
  back**.
* `denotes_quote`, `denotes_true`, `denotes_false`, `denotes_toDigits`: what stands for one value.
* `listText`, **`denotes_listText`**: an array of strings.
-/

namespace Weblog.Toml

open Calendar Number Scan

variable {word rest : List Char} {depth fuel : Nat}

/-! ## Words -/

theorem isWordChar_of_isDigit {c : Char} (h : c.isDigit = true) : isWordChar c = true := by
  simp [isWordChar, Char.isAlphanum, h]

theorem isDateTime_of_isDigit (h : ∀ c ∈ word, c.isDigit = true) : isDateTime word = false := by
  have hdate : Needs '-' scanDate :=
    Needs.after (leavesEnd_number 4 4) fun _ => (needs_literal '-').bind _
  have htime : Needs ':' scanTime := by
    refine Needs.after ((leavesEnd_number 2 2).bind fun n => ?_) fun _ => (needs_literal ':').bind _
    split_ifs
    · exact leavesEnd_pure n
    · exact fun _ _ _ h => nomatch h
  have hnone {α : Type} {x : Scan α} {d : Char} (hd : d.isDigit = false) (hx : Needs d x) :
      (x.whole word).isSome = false := by
    cases hread : x.whole word with
    | none => rfl
    | some a =>
      have hdigit := h d (hx.whole hread)
      rw [hd] at hdigit
      cases hdigit
  rw [isDateTime, isDate, isTime, isTimestamp, hnone (by decide) hdate, hnone (by decide) htime,
    hnone (by decide) (hdate.bind _)]
  rfl

theorem joinGroups_of_isDigit (hne : word ≠ []) (h : ∀ c ∈ word, c.isDigit = true) :
    joinGroups word = some word := by
  have hno : '_' ∉ word := fun hmem => absurd (h _ hmem) (by decide)
  have hsplit : ([ '_' ].intercalate [word]).splitOn '_' = [word] :=
    List.splitOn_intercalate '_' (by simpa using hno) (by simp)
  rw [List.intercalate_singleton] at hsplit
  rw [joinGroups, hsplit]
  simp [hne]

theorem wholeDigits_toDigits (n : Nat) :
    wholeDigits (Nat.toDigits 10 n) = some (Nat.toDigits 10 n) := by
  have hall : ∀ c ∈ Nat.toDigits 10 n, c.isDigit = true := isDigit_of_mem_toDigits
  rw [wholeDigits, joinGroups_of_isDigit Nat.toDigits_ne_nil hall]
  rcases Nat.eq_zero_or_pos n with rfl | hn
  · rfl
  · have hhead := head?_toDigits hn
    cases hdigits : Nat.toDigits 10 n with
    | nil => exact absurd hdigits Nat.toDigits_ne_nil
    | cons c cs =>
      rw [hdigits] at hhead hall
      have hc : c ≠ '0' := by simpa using hhead
      split
      · rename_i heq
        exact absurd (List.cons.inj (Option.some.inj heq)).1 hc
      · rename_i heq
        obtain ⟨rfl, rfl⟩ := List.cons.inj (Option.some.inj heq)
        have hrest : (c :: cs).all Char.isDigit = true := List.all_eq_true.mpr hall
        simp [hc, hrest]
      · rename_i hnone
        exact absurd rfl (hnone c cs)

theorem readInteger_toDigits {n : Nat} (hn : (n : Int) ≤ lastInteger) :
    readInteger (Nat.toDigits 10 n) = some (n : Int) := by
  have hall : ∀ c ∈ Nat.toDigits 10 n, c.isDigit = true := isDigit_of_mem_toDigits
  have hletter {c : Char} {digits : List Char} (hc : c.isDigit = false)
      (heq : Nat.toDigits 10 n = '0' :: c :: digits) : False := by
    have hdigit := hall c (by simp [heq])
    rw [hc] at hdigit
    cases hdigit
  have hsign : splitSign (Nat.toDigits 10 n) = (false, Nat.toDigits 10 n) :=
    splitSign_append .absent fun c hc => .inl (hall c (List.mem_of_mem_head? hc))
  have hrange : firstInteger ≤ (n : Int) := by
    rw [firstInteger]
    omega
  unfold readInteger
  split
  · rename_i heq
    exact (hletter (by decide) heq).elim
  · rename_i heq
    exact (hletter (by decide) heq).elim
  · rename_i heq
    exact (hletter (by decide) heq).elim
  · rw [hsign]
    simp [wholeDigits_toDigits, decimalValue_toDigits, hrange, hn]

/-- **A number is read back.** -/
theorem readWord_toDigits {n : Nat} (hn : (n : Int) ≤ lastInteger) :
    readWord (Nat.toDigits 10 n) = some (.integer n) := by
  have hall : ∀ c ∈ Nat.toDigits 10 n, c.isDigit = true := isDigit_of_mem_toDigits
  have hword {w : String} (hw : ∃ c ∈ w.toList, c.isDigit = false) :
      Nat.toDigits 10 n ≠ w.toList := by
    obtain ⟨c, hc, hdigit⟩ := hw
    intro heq
    rw [← heq] at hc
    rw [hall c hc] at hdigit
    cases hdigit
  rw [readWord, if_neg (hword ⟨'t', by decide, by decide⟩),
    if_neg (hword ⟨'f', by decide, by decide⟩), isDateTime_of_isDigit hall, if_neg (by simp),
    readInteger_toDigits hn]

/-- **The first word of a text is read** up to a line feed. -/
theorem scanWord_of_isWordChar (h : ∀ c ∈ word, isWordChar c = true) (rest : List Char) :
    scanWord (word ++ '\n' :: rest) = (readWord word).map fun v => (v, '\n' :: rest) := by
  have htake : (word ++ '\n' :: rest).takeWhile isWordChar = word := by
    rw [List.takeWhile_append_of_pos h, List.takeWhile_cons_of_neg (by decide), List.append_nil]
  have hdrop : (word ++ '\n' :: rest).dropWhile isWordChar = '\n' :: rest := by
    rw [List.dropWhile_append_of_pos h, List.dropWhile_cons_of_neg (by decide)]
  unfold scanWord
  simp only [htake, hdrop]
  rfl

theorem denotes_word {value : Toml} (hword : ∃ c more, word = c :: more ∧ c.isAlphanum = true)
    (h : ∀ c ∈ word, isWordChar c = true) (hread : readWord word = some value) :
    Denotes word value := by
  obtain ⟨c, more, rfl, hc⟩ := hword
  have hne {d : Char} (hd : d.isAlphanum = false) : c ≠ d := by
    rintro rfl
    rw [hc] at hd
    cases hd
  refine ⟨fun fuel rest hfuel => ?_, fun d hd => ?_, fun hmem => ?_⟩
  · cases fuel with
    | zero => omega
    | succ fuel =>
      rw [scanValue]
      · rw [scanWord_of_isWordChar h, hread]
        rfl
      all_goals
        intro tail hbegin
        exact hne (by decide) (List.cons.inj hbegin).1
  · obtain rfl : c = d := Option.some.inj hd
    simp [isSpace, hne (by decide : (' ').isAlphanum = false),
      hne (by decide : ('\t').isAlphanum = false)]
  · exact absurd (h _ hmem) (by decide)

theorem denotes_true : Denotes "true".toList (.boolean true) :=
  denotes_word ⟨'t', _, rfl, rfl⟩ (List.all_eq_true.mp (by decide)) rfl

theorem denotes_false : Denotes "false".toList (.boolean false) :=
  denotes_word ⟨'f', _, rfl, rfl⟩ (List.all_eq_true.mp (by decide)) rfl

theorem denotes_toDigits {n : Nat} (hn : (n : Int) ≤ lastInteger) :
    Denotes (Nat.toDigits 10 n) (.integer n) := by
  have hall : ∀ c ∈ Nat.toDigits 10 n, c.isDigit = true := isDigit_of_mem_toDigits
  refine denotes_word ?_ (fun c hc => isWordChar_of_isDigit (hall c hc)) (readWord_toDigits hn)
  cases hdigits : Nat.toDigits 10 n with
  | nil => exact absurd hdigits Nat.toDigits_ne_nil
  | cons c more =>
    exact ⟨c, more, rfl, by simp [Char.isAlphanum, hall c (by simp [hdigits])]⟩

/-! ## Strings -/

/-- **A string is read back** in front of anything but a quote. -/
theorem scanValue_quote (text : List Char) (hrest : ∀ c, rest.head? = some c → c ≠ '"' ∧ c ≠ '\'') :
    scanValue (fuel + 1) depth (quote text ++ rest) =
      some (.string (String.ofList text), rest) := by
  have hread : scanQuoted (quote text ++ rest) = some (text, rest) := by
    refine scanQuoted_quote text fun hhead => ?_
    obtain ⟨hdouble, hsingle⟩ := hrest _ hhead
    unfold Notation.quoteChar at hdouble hsingle
    split_ifs at hdouble hsingle
    · exact hdouble rfl
    · exact hsingle rfl
  obtain ⟨tail, htail⟩ := quote_eq_cons text
  rw [htail, List.cons_append] at hread ⊢
  unfold Notation.quoteChar at hread ⊢
  split_ifs at hread ⊢
  · rw [scanValue, hread]
    rfl
  · rw [scanValue, hread]
    rfl

theorem quote_head (text : List Char) :
    ∃ c tail, quote text = c :: tail ∧ (c = '"' ∨ c = '\'') := by
  obtain ⟨tail, htail⟩ := quote_eq_cons text
  refine ⟨_, tail, htail, ?_⟩
  unfold Notation.quoteChar
  split_ifs <;> simp

theorem denotes_quote (text : List Char) :
    Denotes (quote text) (.string (String.ofList text)) where
  read fuel rest hfuel := by
    cases fuel with
    | zero => omega
    | succ fuel => exact scanValue_quote text fun c hc => by cases hc; decide
  start c hc := by
    obtain ⟨d, tail, hquote, hd⟩ := quote_head text
    rw [hquote] at hc
    obtain rfl := Option.some.inj hc
    rcases hd with rfl | rfl <;> rfl
  noReturn := return_not_mem_quote text

/-! ## Arrays of strings -/

/-- Strings on lines of their own, each with a comma behind it. -/
def itemLines (texts : List (List Char)) : List Char :=
  texts.flatMap fun text => ' ' :: ' ' :: ' ' :: ' ' :: (quote text ++ [',', '\n'])

/-- An array of strings, on one line if there is only one of them. -/
def listText : List (List Char) → List Char
  | [text] => '[' :: (quote text ++ [']'])
  | texts => '[' :: '\n' :: (itemLines texts ++ [']'])

def strings (texts : List (List Char)) : List Toml :=
  texts.map fun text => .string (String.ofList text)

theorem skipFiller_quote (text rest : List Char) :
    skipFiller false (quote text ++ rest) = quote text ++ rest := by
  obtain ⟨c, tail, hquote, hc⟩ := quote_head text
  rw [hquote, List.cons_append]
  rcases hc with rfl | rfl <;> exact skipFiller_cons (by decide) (by decide) (by decide) _

theorem quote_append_ne (text rest more : List Char) : quote text ++ rest ≠ ']' :: more := by
  obtain ⟨c, tail, hquote, hc⟩ := quote_head text
  rw [hquote, List.cons_append]
  intro hbegin
  obtain rfl := (List.cons.inj hbegin).1
  simp at hc

theorem scanItems_comma (text rest : List Char) :
    scanItems (fuel + 2) depth (quote text ++ ',' :: rest) =
      (scanItems (fuel + 1) depth (skipFiller false rest)).map fun p =>
        (.string (String.ofList text) :: p.1, p.2) := by
  rw [scanItems]
  · have hcomma : skipFiller false (',' :: rest) = ',' :: rest :=
      skipFiller_cons (by decide) (by decide) (by decide) _
    rw [scanValue_quote text (by simp)]
    cases hitems : scanItems (fuel + 1) depth (skipFiller false rest) <;>
      simp [hcomma, hitems]
  · exact fun more => quote_append_ne text _ more

theorem scanItems_bracket (text rest : List Char) :
    scanItems (fuel + 2) depth (quote text ++ ']' :: rest) =
      some ([.string (String.ofList text)], rest) := by
  rw [scanItems]
  · rw [scanValue_quote text (by simp)]
    simp only [Option.bind_eq_bind, Option.bind_some]
    rw [skipFiller_cons (by decide) (by decide) (by decide)]
    rfl
  · exact fun more => quote_append_ne text _ more

theorem skipFiller_blank (s : List Char) : skipFiller false (' ' :: s) = skipFiller false s := by
  rw [skipFiller]
  rfl

/-- **Strings on lines of their own are read**, up to the end of their array. -/
theorem scanItems_itemLines (texts : List (List Char)) (hfuel : texts.length < fuel)
    (rest : List Char) :
    scanItems (fuel + 1) depth (skipFiller false (itemLines texts ++ ']' :: rest)) =
      some (strings texts, rest) := by
  induction texts generalizing fuel with
  | nil =>
    rw [itemLines, List.flatMap_nil, List.nil_append,
      skipFiller_cons (by decide) (by decide) (by decide), scanItems]
    rfl
  | cons text texts ih =>
    obtain ⟨fuel, rfl⟩ : ∃ more, fuel = more + 1 := ⟨fuel - 1, by simp at hfuel; omega⟩
    have hskip : skipFiller false (itemLines (text :: texts) ++ ']' :: rest) =
        quote text ++ ',' :: '\n' :: (itemLines texts ++ ']' :: rest) := by
      simp only [itemLines, List.flatMap_cons, List.cons_append, List.append_assoc, List.nil_append]
      rw [skipFiller_blank, skipFiller_blank, skipFiller_blank, skipFiller_blank, skipFiller_quote]
    rw [hskip, scanItems_comma, skipFiller_lineFeed, ih (by simpa using hfuel)]
    rfl

theorem length_le_itemLines (texts : List (List Char)) :
    texts.length ≤ (itemLines texts).length := by
  induction texts with
  | nil => exact Nat.le_refl 0
  | cons text texts ih =>
    simp only [itemLines, List.flatMap_cons, List.length_append, List.length_cons] at ih ⊢
    omega

theorem return_not_mem_itemLines (texts : List (List Char)) : '\r' ∉ itemLines texts := by
  simp [itemLines, return_not_mem_quote]

/-- **An array of strings is read back.** -/
theorem denotes_listText (texts : List (List Char)) :
    Denotes (listText texts) (.array (strings texts)) := by
  have hbegin : ∃ c tail, listText texts = '[' :: c :: tail := by
    unfold listText
    split
    · rename_i text
      obtain ⟨c, tail, hquote, -⟩ := quote_head text
      exact ⟨c, tail ++ [']'], by rw [hquote, List.cons_append]⟩
    · exact ⟨_, _, rfl⟩
  obtain ⟨c, tail, htail⟩ := hbegin
  refine ⟨fun fuel rest hfuel => ?_, fun d hc => ?_, ?_⟩
  · -- the bracket, the array and its items need one step each
    obtain ⟨fuel, rfl⟩ : ∃ more, fuel = more + 3 :=
      ⟨fuel - 3, by rw [htail] at hfuel; simp at hfuel; omega⟩
    have hvalue {p : List Char} {items : List Toml}
        (hitems : scanItems (fuel + 2) (depthLimit - 1) (skipFiller false (p ++ '\n' :: rest)) =
          some (items, '\n' :: rest)) :
        scanValue (fuel + 3) depthLimit ('[' :: (p ++ '\n' :: rest)) =
          some (.array items, '\n' :: rest) := by
      rw [scanValue, if_neg (by decide), hitems]
      rfl
    unfold listText at hfuel ⊢
    split at hfuel
    · rename_i text
      refine hvalue (p := quote text ++ [']']) ?_
      rw [List.append_assoc, skipFiller_quote]
      exact scanItems_bracket text _
    · refine hvalue (p := '\n' :: (itemLines texts ++ [']'])) ?_
      rw [List.cons_append, skipFiller_lineFeed, List.append_assoc]
      refine scanItems_itemLines texts ?_ _
      have hlength := length_le_itemLines texts
      simp at hfuel
      omega
  · rw [htail] at hc
    cases hc
    rfl
  · unfold listText
    split
    · simp [return_not_mem_quote]
    · simp [return_not_mem_itemLines]

end Weblog.Toml
