import Mathlib.Tactic.Common
import Weblog.Proofs.Number.Numerals
import Weblog.Toml.Text
/-!
# TOML strings read back

A text is written in the notation that needs the fewest escapes and read back in any of them. Only
quotes in a row need care: on several lines up to two of them stand for themselves, also right in
front of the closing ones.

* `Stands`, `Shows`: what stands for a character and for a text between the quotes;
  **`scanText_of_shows`**: it is read back.
* `shows_escapeText`, `shows_of_isPlain`: both ways of writing show the text.
* **`scanQuoted_quote`**: a quoted text is read back, and what follows it is left.
* `return_not_mem_quote`: it has no carriage return.
-/

namespace Weblog.Toml

open Number

variable {n : Notation} {c : Char} {piece body text rest : List Char}

/-! ## Between the quotes -/

/-- How many quotes in a row may stand for themselves. -/
def Notation.bareQuotes (n : Notation) : Nat :=
  if n.multiLine then 2 else 0

/-- What may stand for a character in a notation: the character itself if it is no quote, or an
escape. -/
inductive Stands (n : Notation) (c : Char) : List Char → Prop
  | plain (quote : c ≠ n.quoteChar) (slash : ¬ (c = '\\' ∧ n.escapes))
      (control : isControl c → c = '\n' ∧ n.multiLine) : Stands n c [c]
  | escape (escapes : n.escapes) (small : c.toNat < 0x80) : Stands n c (escape c)

/-- What shows a text in a notation: quotes in a row, not too many of them, and other characters
behind each of the rows but the last one. -/
inductive Shows (n : Notation) : List Char → List Char → Prop
  | quotes {k : Nat} : k ≤ n.bareQuotes →
      Shows n (List.replicate k n.quoteChar) (List.replicate k n.quoteChar)
  | char {k : Nat} {c : Char} {piece body text : List Char} : k ≤ n.bareQuotes → Stands n c piece →
      Shows n body text → Shows n (List.replicate k n.quoteChar ++ (piece ++ body))
        (List.replicate k n.quoteChar ++ c :: text)

theorem quoteChar_of_escapes (h : n.escapes) : n.quoteChar = '"' := if_pos h

theorem quoteChar_ne_slash : n.quoteChar ≠ '\\' := by
  unfold Notation.quoteChar
  split_ifs <;> decide

theorem quoteChar_ne_lineFeed : n.quoteChar ≠ '\n' := by
  unfold Notation.quoteChar
  split_ifs <;> decide

theorem quoteChar_ne_return : n.quoteChar ≠ '\r' := by
  unfold Notation.quoteChar
  split_ifs <;> decide

theorem multiLine_of_lt {k : Nat} (h : k < n.bareQuotes) : n.multiLine = true := by
  unfold Notation.bareQuotes at h
  split_ifs at h with hlines
  · exact hlines
  · omega

theorem bareQuotes_le (n : Notation) : n.bareQuotes ≤ 2 := by
  unfold Notation.bareQuotes
  split_ifs <;> omega

/-! ## Escapes -/

/-- A hexadecimal digit in capitals. -/
def hexDigit (d : Nat) : Char :=
  d.digitChar.toUpper

theorem codeDigits_eq (m : Nat) :
    codeDigits m = ['0', '0', hexDigit (m / 16), hexDigit (m % 16)] := rfl

theorem digitValue_hexDigit {d : Nat} (h : d < 16) : digitValue 16 (hexDigit d) = some d :=
  (digitValue_eq_some_iff (by decide)).mpr ⟨h, .inr rfl⟩

theorem escape_eq_cons (c : Char) : ∃ tail, escape c = '\\' :: tail := by
  unfold escape
  split_ifs <;> exact ⟨_, rfl⟩

theorem return_not_mem_escape (hsmall : c.toNat < 0x80) : '\r' ∉ escape c := by
  have hdigit : ∀ d < 16, '\r' ≠ hexDigit d := by decide
  have hhigh := hdigit (c.toNat / 16) (by omega)
  have hlow := hdigit (c.toNat % 16) (by omega)
  unfold escape
  split_ifs with _ _ _ _ _ hself
  · decide
  · decide
  · decide
  · decide
  · decide
  · rcases hself with rfl | rfl <;> decide
  · simp only [codeDigits_eq, List.mem_cons, List.not_mem_nil, or_false, hhigh, hlow]
    decide

theorem scanText_started {letter : Char} (hescapes : n.escapes)
    (hletter : escapedChar letter = some c) (rest : List Char) :
    scanText n .plain ('\\' :: letter :: rest) =
      (scanText n .plain rest).map fun p => (c :: p.1, p.2) := by
  have hnone : ∀ d ∈ ['u', 'U', '\n', ' ', '\t'], escapedChar d = none := by
    simp [escapedChar]
  have hne : ∀ d ∈ ['u', 'U', '\n', ' ', '\t'], letter ≠ d := by
    rintro d hd rfl
    rw [hnone letter hd] at hletter
    cases hletter
  have hspace : isSpace letter = false := by simp [isSpace, hne]
  rw [scanText, if_neg (by simp)]
  simp only [quoteChar_of_escapes hescapes, hescapes]
  rw [if_neg (by simp), if_neg (by simp), if_pos (by simp), scanText, if_neg (by simp)]
  simp only [hne _ (by simp : 'u' ∈ _), hne _ (by simp : 'U' ∈ _), hne _ (by simp : '\n' ∈ _),
    hspace, hletter]
  cases scanText n .plain rest <;> rfl

theorem scanText_digit {left value d : Nat} (hd : d < 16) (rest : List Char) :
    scanText n (.code (left + 2) value) (hexDigit d :: rest) =
      scanText n (.code (left + 1) (value * 16 + d)) rest := by
  rw [scanText, if_neg (by simp)]
  simp [digitValue_hexDigit hd]

theorem scanText_lastDigit {value d : Nat} (hd : d < 16)
    (hc : charOfCode (value * 16 + d) = some c) (rest : List Char) :
    scanText n (.code 1 value) (hexDigit d :: rest) =
      (scanText n .plain rest).map fun p => (c :: p.1, p.2) := by
  rw [scanText, if_neg (by simp)]
  simp only [digitValue_hexDigit hd, Option.bind_eq_bind, Option.bind_some, hc]
  cases scanText n .plain rest <;> rfl

theorem charOfCode_toNat (c : Char) : charOfCode c.toNat = some c := by
  have hvalid : c.toNat.isValidChar := c.valid
  rw [charOfCode, if_pos hvalid, Char.ofNat_toNat]

theorem scanText_codeDigits (hescapes : n.escapes) (hsmall : c.toNat < 0x80) (rest : List Char) :
    scanText n .plain ('\\' :: 'u' :: codeDigits c.toNat ++ rest) =
      (scanText n .plain rest).map fun p => (c :: p.1, p.2) := by
  have hzero : '0' = hexDigit 0 := by decide
  have hvalue : ((0 * 16 + 0) * 16 + 0) * 16 + c.toNat / 16 = c.toNat / 16 := by omega
  rw [codeDigits_eq, List.cons_append, scanText, if_neg (by simp)]
  simp only [quoteChar_of_escapes hescapes, hescapes]
  rw [if_neg (by simp), if_neg (by simp), if_pos (by simp), List.cons_append, scanText,
    if_neg (by simp)]
  simp only [List.cons_append, List.nil_append, ↓reduceIte]
  rw [hzero, scanText_digit (by omega), scanText_digit (by omega), scanText_digit (by omega),
    scanText_lastDigit (by omega)]
  rw [hvalue, show c.toNat / 16 * 16 + c.toNat % 16 = c.toNat by omega, charOfCode_toNat]

/-- **An escape is read back.** -/
theorem scanText_escape (hescapes : n.escapes) (hsmall : c.toNat < 0x80) (rest : List Char) :
    scanText n .plain (escape c ++ rest) =
      (scanText n .plain rest).map fun p => (c :: p.1, p.2) := by
  unfold escape
  split_ifs with hb ht hn hf hr hself
  · subst hb; exact scanText_started hescapes rfl rest
  · subst ht; exact scanText_started hescapes rfl rest
  · subst hn; exact scanText_started hescapes rfl rest
  · subst hf; exact scanText_started hescapes rfl rest
  · subst hr; exact scanText_started hescapes rfl rest
  · rcases hself with rfl | rfl <;> exact scanText_started hescapes rfl rest
  · exact scanText_codeDigits hescapes hsmall rest

/-! ## Reading -/

theorem scanText_of_stands (h : Stands n c piece) (rest : List Char) :
    scanText n .plain (piece ++ rest) = (scanText n .plain rest).map fun p => (c :: p.1, p.2) := by
  cases h with
  | plain hquote hslash hcontrol =>
    rw [List.singleton_append, scanText, if_neg (by simp)]
    simp only [hquote, hslash, false_and, ↓reduceIte]
    rw [if_neg]
    rintro ⟨hc, hnot⟩
    exact hnot (hcontrol hc)
  | escape hescapes hsmall => exact scanText_escape hescapes hsmall rest

theorem head?_of_stands (h : Stands n c piece) (rest : List Char) :
    (piece ++ rest).head? ≠ some n.quoteChar := by
  cases h with
  | plain hquote _ _ => simpa using hquote
  | escape hescapes hsmall =>
    obtain ⟨tail, htail⟩ := escape_eq_cons c
    rw [htail]
    simpa using quoteChar_ne_slash.symm

section Quotes

variable {k : Nat}

theorem twoQuotes_replicate {q : Char} (hrest : rest.head? ≠ some q) :
    twoQuotes q (List.replicate k q ++ rest) = decide (2 ≤ k) := by
  unfold twoQuotes
  match k, rest with
  | 0, [] | 1, [] => simp
  | 0, c :: rest | 1, c :: rest =>
    have hc : q ≠ c := fun h => hrest (by simp [h])
    simp [List.isPrefixOf, hc]
  | k + 2, rest => simp [List.replicate_succ]

variable (hk : k ≤ n.bareQuotes) (hrest : rest.head? ≠ some n.quoteChar)

include hk hrest

/-- Quotes in front of something else stand for themselves. -/
theorem scanText_quotes : scanText n .plain (List.replicate k n.quoteChar ++ rest) =
    (scanText n .plain rest).map fun p => (List.replicate k n.quoteChar ++ p.1, p.2) := by
  induction k with
  | zero => simp
  | succ k ih =>
    have hlines := multiLine_of_lt hk
    have hmost := bareQuotes_le n
    have htwo : twoQuotes n.quoteChar (List.replicate k n.quoteChar ++ rest) = false := by
      rw [twoQuotes_replicate hrest]
      simp
      omega
    have hcontrol : isControl n.quoteChar = false := by
      unfold Notation.quoteChar
      split_ifs <;> decide
    rw [List.replicate_succ, List.cons_append, scanText, if_neg (by simp)]
    simp only [hlines, htwo, quoteChar_ne_slash, hcontrol, Bool.false_eq_true, and_false, false_and,
      Bool.true_eq_false, ↓reduceIte, ih (by omega), Option.map_map]
    rfl

theorem scanText_close :
    scanText n .plain (List.replicate k n.quoteChar ++ (n.delimiter ++ rest)) =
      some (List.replicate k n.quoteChar, rest) := by
  have hmost := bareQuotes_le n
  unfold Notation.delimiter
  cases hlines : n.multiLine with
  | false =>
    obtain rfl : k = 0 := by simpa [Notation.bareQuotes, hlines] using hk
    simp [scanText, hlines]
  | true =>
    have hquotes : List.replicate k n.quoteChar ++ (List.replicate 3 n.quoteChar ++ rest) =
        n.quoteChar ::
          (List.replicate 2 n.quoteChar ++ (List.replicate k n.quoteChar ++ rest)) := by
      rw [← List.append_assoc, ← List.append_assoc, List.replicate_append_replicate,
        List.replicate_append_replicate, ← List.cons_append, ← List.replicate_succ,
        show k + 3 = 2 + k + 1 by omega]
    have hopen : twoQuotes n.quoteChar
        (List.replicate 2 n.quoteChar ++ (List.replicate k n.quoteChar ++ rest)) = true := by
      simp [twoQuotes]
    simp only [if_true]
    rw [hquotes, scanText, if_neg (by simp)]
    simp only [hlines, hopen, and_false, and_self, Bool.true_eq_false, ↓reduceIte]
    rw [List.drop_left' (by simp)]
    unfold closeLines
    rw [twoQuotes_replicate hrest]
    obtain rfl | rfl | rfl : k = 0 ∨ k = 1 ∨ k = 2 := by omega
    · cases rest with
      | nil => rfl
      | cons c rest =>
        have hc : n.quoteChar ≠ c := fun h => hrest (by simp [h])
        simp [hc]
    · simp
    · simp

end Quotes

/-- **What shows a text is read back.** -/
theorem scanText_of_shows (h : Shows n body text) (hrest : rest.head? ≠ some n.quoteChar) :
    scanText n .plain (body ++ (n.delimiter ++ rest)) = some (text, rest) := by
  induction h with
  | quotes hk => exact scanText_close hk hrest
  | char hk hstands _ ih =>
    rw [List.append_assoc, List.append_assoc, scanText_quotes hk (head?_of_stands hstands _),
      scanText_of_stands hstands, ih]
    rfl

/-! ## Writing -/

theorem small_of_isControl (h : isControl c ∨ c = '\t' ∨ c = '\\') : c.toNat < 0x80 := by
  rcases h with h | rfl | rfl
  · simp [isControl] at h
    omega
  · decide
  · decide

/-- **A text with escapes shows the text.** -/
theorem shows_escapeText (hescapes : n.escapes) {k : Nat} (hk : k ≤ n.bareQuotes)
    (text : List Char) :
    Shows n (List.replicate k n.quoteChar ++ escapeText n.multiLine k text)
      (List.replicate k n.quoteChar ++ text) := by
  have hquote := quoteChar_of_escapes hescapes
  induction text generalizing k with
  | nil => simpa [escapeText] using Shows.quotes hk
  | cons c text ih =>
    have hnext := ih (Nat.zero_le n.bareQuotes)
    rw [List.replicate_zero, List.nil_append, List.nil_append] at hnext
    rw [escapeText]
    split_ifs with hc hbare hline hescape
    · -- one more quote in the row
      have hmore : k + 1 ≤ n.bareQuotes := by
        rw [Notation.bareQuotes, if_pos hbare.1]
        omega
      have hrow := ih hmore
      rw [hquote, ← hc] at hrow ⊢
      rwa [List.replicate_succ', List.append_assoc, List.append_assoc, List.singleton_append,
        List.singleton_append] at hrow
    · exact .char hk (.escape hescapes (by rw [hc]; decide)) hnext
    · exact .char hk (.plain (by rw [hline.1]; exact quoteChar_ne_lineFeed.symm)
        (by rw [hline.1]; simp) fun _ => hline) hnext
    · exact .char hk (.escape hescapes (small_of_isControl hescape)) hnext
    · obtain ⟨hcontrol, -, hslash⟩ : ¬ isControl c ∧ c ≠ '\t' ∧ c ≠ '\\' := by simpa using hescape
      exact .char hk (.plain (by rwa [hquote]) (by simp [hslash]) fun h => absurd h hcontrol) hnext

theorem le_longestRun (c : Char) (run : Nat) (text : List Char) : run ≤ longestRun c run text := by
  induction text generalizing run with
  | nil => exact Nat.le_refl run
  | cons d text ih =>
    rw [longestRun]
    split_ifs
    · exact (Nat.le_succ run).trans (ih (run + 1))
    · exact Nat.le_max_left _ _

/-- **A text that needs no escapes shows itself.** -/
theorem shows_self {k : Nat} (hrun : longestRun n.quoteChar k text ≤ n.bareQuotes)
    (hplain : ∀ c ∈ text, (isControl c → c = '\n' ∧ n.multiLine) ∧ ¬ (c = '\\' ∧ n.escapes)) :
    Shows n (List.replicate k n.quoteChar ++ text) (List.replicate k n.quoteChar ++ text) := by
  induction text generalizing k with
  | nil => simpa using Shows.quotes (k := k) hrun
  | cons c text ih =>
    have hk := (le_longestRun n.quoteChar k (c :: text)).trans hrun
    have hrest := fun d hd => hplain d (List.mem_cons_of_mem c hd)
    rw [longestRun] at hrun
    split_ifs at hrun with hc
    · have hrow := ih hrun hrest
      rw [List.replicate_succ', List.append_assoc, List.singleton_append] at hrow
      rwa [hc]
    · have hnext := ih ((Nat.le_max_right _ _).trans hrun) hrest
      obtain ⟨hcontrol, hslash⟩ := hplain c List.mem_cons_self
      exact .char hk (.plain hc hslash hcontrol) (by simpa using hnext)

theorem shows_of_isPlain (h : isPlain n text = true) : Shows n text text := by
  simp only [isPlain, Bool.and_eq_true, decide_eq_true_eq] at h
  obtain ⟨⟨⟨hcontrol, hline⟩, hslash⟩, hrun⟩ := h
  refine shows_self (k := 0) hrun fun c hc => ⟨fun hcc => ?_, fun hcs => ?_⟩
  · obtain rfl : c = '\n' := by
      have hall := List.all_eq_true.mp hcontrol c hc
      simpa [hcc] using hall
    cases hlines : n.multiLine with
    | true => exact ⟨rfl, rfl⟩
    | false => simp [hlines, hc] at hline
  · obtain ⟨rfl, hescapes⟩ := hcs
    simp [hescapes, hc] at hslash

/-- What stands between the quotes of a quoted text. -/
def quotedBody (text : List Char) : List Char :=
  if (plainest text).escapes then escapeText (plainest text).multiLine 0 text else text

theorem shows_quotedBody (text : List Char) : Shows (plainest text) (quotedBody text) text := by
  unfold quotedBody
  split_ifs with hescapes
  · exact shows_escapeText hescapes (Nat.zero_le _) text
  · refine shows_of_isPlain ?_
    unfold plainest at hescapes ⊢
    split at hescapes
    · rename_i n hfound
      exact List.find?_some (p := fun n => isPlain n text) hfound
    · exact absurd rfl hescapes

/-! ## Quoted texts -/

theorem head?_of_shows (h : Shows n body text) (hbody : body.head? = some '\n') : '\n' ∈ text := by
  cases h with
  | @quotes k hk =>
    cases k with
    | zero => cases hbody
    | succ k => exact absurd (Option.some.inj hbody) quoteChar_ne_lineFeed
  | @char k c piece body text hk hstands _ =>
    cases k with
    | succ k => exact absurd (Option.some.inj hbody) quoteChar_ne_lineFeed
    | zero =>
      cases hstands with
      | plain _ _ _ =>
        obtain rfl : c = '\n' := Option.some.inj hbody
        exact List.mem_cons_self
      | escape _ _ =>
        obtain ⟨tail, htail⟩ := escape_eq_cons c
        rw [htail] at hbody
        exact absurd (Option.some.inj hbody) (by decide)

/-- On one line a text between quotes does not begin with another two quotes. -/
theorem twoQuotes_of_shows (h : Shows n body text) (hline : n.multiLine = false)
    (hrest : rest.head? ≠ some n.quoteChar) :
    twoQuotes n.quoteChar (body ++ (n.delimiter ++ rest)) = false := by
  have hbare : n.bareQuotes = 0 := by simp [Notation.bareQuotes, hline]
  cases h with
  | @quotes k hk =>
    obtain rfl : k = 0 := by omega
    have hdelimiter : n.delimiter = List.replicate 1 n.quoteChar := by
      simp [Notation.delimiter, hline]
    rw [hdelimiter, List.replicate_zero, List.nil_append, twoQuotes_replicate hrest]
    rfl
  | @char k c piece body text hk hstands _ =>
    obtain rfl : k = 0 := by omega
    have hhead := head?_of_stands hstands (body ++ (n.delimiter ++ rest))
    simpa [List.append_assoc] using twoQuotes_replicate (k := 0) hhead

/-- The quotes and what is between them decide the notation. -/
theorem scanQuoted_of_quoteChar (n : Notation) (s : List Char) :
    scanQuoted (n.quoteChar :: s) =
      if twoQuotes n.quoteChar s then
        match s.drop 2 with
        | '\n' :: rest => scanText ⟨n.escapes, true⟩ .plain rest
        | rest => scanText ⟨n.escapes, true⟩ .plain rest
      else scanText ⟨n.escapes, false⟩ .plain s := by
  obtain ⟨escapes, lines⟩ := n
  cases escapes <;> rfl

theorem quote_eq (text : List Char) : quote text = (plainest text).delimiter ++
    ((if (plainest text).multiLine ∧ text.contains '\n' then ['\n'] else []) ++
      (quotedBody text ++ (plainest text).delimiter)) := by
  simp only [quote, quotedBody, List.append_assoc]

theorem quote_eq_cons (text : List Char) :
    ∃ tail, quote text = (plainest text).quoteChar :: tail := by
  rw [quote_eq, Notation.delimiter]
  split_ifs <;> exact ⟨_, rfl⟩

/-- **A quoted text is read back.** -/
theorem scanQuoted_quote (text : List Char) (hrest : rest.head? ≠ some (plainest text).quoteChar) :
    scanQuoted (quote text ++ rest) = some (text, rest) := by
  have hshows := shows_quotedBody text
  have hread := scanText_of_shows hshows hrest
  have hone : (plainest text).multiLine = false → _ := fun h => twoQuotes_of_shows hshows h hrest
  rw [quote_eq]
  generalize plainest text = n at *
  generalize quotedBody text = body at *
  obtain ⟨escapes, lines⟩ := n
  cases lines with
  | false =>
    have hdelimiter : (Notation.mk escapes false).delimiter =
        [(Notation.mk escapes false).quoteChar] := rfl
    simp only [hdelimiter, Bool.false_eq_true, false_and, if_false, List.nil_append,
      List.append_assoc, List.cons_append] at hread hone ⊢
    rw [scanQuoted_of_quoteChar, hone trivial, if_neg (by simp)]
    exact hread
  | true =>
    have hdelimiter (s : List Char) : (Notation.mk escapes true).delimiter ++ s =
        (Notation.mk escapes true).quoteChar :: (Notation.mk escapes true).quoteChar ::
          (Notation.mk escapes true).quoteChar :: s := rfl
    rw [List.append_assoc, hdelimiter, scanQuoted_of_quoteChar, if_pos (by simp [twoQuotes]),
      List.drop_succ_cons, List.drop_succ_cons, List.drop_zero, List.append_assoc,
      List.append_assoc]
    split_ifs with hfeed
    · exact hread
    · -- without a line feed of its own the text does not begin with one
      have hno : '\n' ∉ text := by simpa using hfeed
      rw [List.nil_append]
      split
      · rename_i rest' hbegin
        exfalso
        cases body with
        | nil =>
          exact quoteChar_ne_lineFeed (List.cons.inj hbegin).1
        | cons c body =>
          exact hno (head?_of_shows hshows (congrArg some (List.cons.inj hbegin).1))
      · exact hread

/-! ## Carriage returns -/

theorem return_not_mem_of_shows (h : Shows n body text) : '\r' ∉ body := by
  induction h with
  | quotes _ => exact fun hmem => quoteChar_ne_return (List.eq_of_mem_replicate hmem).symm
  | char _ hstands _ ih =>
    simp only [List.mem_append, not_or]
    refine ⟨fun hmem => quoteChar_ne_return (List.eq_of_mem_replicate hmem).symm, ?_, ih⟩
    cases hstands with
    | plain _ _ hcontrol =>
      rw [List.mem_singleton]
      rintro rfl
      exact absurd (hcontrol (by decide)).1 (by decide)
    | escape _ hsmall => exact return_not_mem_escape hsmall

/-- **A quoted text has no carriage return.** -/
theorem return_not_mem_quote (text : List Char) : '\r' ∉ quote text := by
  have hdelimiter : '\r' ∉ (plainest text).delimiter := fun hmem =>
    quoteChar_ne_return (List.eq_of_mem_replicate hmem).symm
  rw [quote_eq]
  simp only [List.mem_append, not_or]
  refine ⟨hdelimiter, ?_, return_not_mem_of_shows (shows_quotedBody text), hdelimiter⟩
  split_ifs <;> simp

end Weblog.Toml
