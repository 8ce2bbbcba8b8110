import Mathlib.Algebra.Group.Nat.Even
import Mathlib.Tactic.Common
import Weblog.Query.Clause
/-!
# The words of a query

The texts of the tokens of a query without their places. A scanner that has no run open and one
whose run is still empty give the same words, so what has been seen of the open run and whether a
quote is open are the whole state.

* `words`: the words that a scanner finds from a state on; `texts_tokens`: they are the texts of
  the tokens.
* `words_blank_cut`: **where the quotes are balanced, a blank splits the words of a text**.
* `words_quoteIfBlank`: a part without quotes is read as it is, with or without quotes around it.
* `words_ne_nil`, `words_noQuotes`: words hold at least one character, and no quotes.
-/

namespace Weblog.Query

open Text

/-- What has been seen of a run as a word, if it is not empty. -/
def wordOf (seen : List Char) : List (List Char) :=
  if seen.isEmpty then [] else [seen]

/-- The words of a text after what has been seen of the open run, inside or outside of quotes. -/
def words (seen : List Char) (quoted : Bool) : List Char → List (List Char)
  | [] => wordOf seen
  | c :: cs =>
    if c = '"' then words seen (!quoted) cs
    else if isBlank c && !quoted then wordOf seen ++ words [] false cs
    else words (seen ++ [c]) quoted cs

/-! ## Tokens -/

theorem not_isBlank_quote : isBlank '"' = false := by decide

theorem texts_run (run : Run) :
    run.tokens.map (fun t => t.text.toList) = wordOf run.text := by
  unfold Run.tokens wordOf
  split_ifs <;> simp

theorem texts_tokensFrom (cs : List Char) : ∀ (position : Nat) (run : Run),
    (tokensFrom position none cs).map (fun t => t.text.toList) = words [] false cs ∧
      (tokensFrom position (some run) cs).map (fun t => t.text.toList) =
        words run.text run.quoted cs := by
  induction cs with
  | nil => exact fun position run => ⟨rfl, texts_run run⟩
  | cons c cs ih =>
    intro position run
    have hpush : ∀ run : Run, ¬ (isBlank c && !run.quoted) = true →
        (tokensFrom (position + c.utf8Size) (some (run.push c)) cs).map (fun t => t.text.toList) =
          words run.text run.quoted (c :: cs) := by
      intro run hb
      rw [(ih _ _).2, words, Run.push]
      by_cases hc : c = '"'
      · rw [if_pos hc, if_pos hc]
      · rw [if_neg hc, if_neg hc, if_neg hb]
    constructor
    · by_cases hb : isBlank c = true
      · have hc : c ≠ '"' := by rintro rfl; exact absurd hb (by decide)
        rw [tokensFrom, if_pos hb, (ih _ run).1, words, if_neg hc, if_pos (by simp [hb])]
        rfl
      · rw [tokensFrom, if_neg hb]
        exact hpush (Run.start position) (by simp [hb])
    · by_cases hb : (isBlank c && !run.quoted) = true
      · have hc : c ≠ '"' := by rintro rfl; rw [not_isBlank_quote] at hb; exact absurd hb (by simp)
        rw [tokensFrom, if_pos hb, List.map_append, texts_run, (ih _ run).1, words, if_neg hc,
          if_pos hb]
      · rw [tokensFrom, if_neg hb]
        exact hpush run hb

/-- **The texts of the tokens of a query are its words.** -/
theorem texts_tokens (query : String) :
    (tokens query).map (fun t => t.text.toList) = words [] false query.toList :=
  (texts_tokensFrom query.toList 0 (Run.start 0)).1

theorem clauses_parse (query : String) :
    (parse query).clauses = (words [] false query.toList).map Clause.ofChars := by
  rw [← texts_tokens, List.map_map]
  rfl

/-! ## Cuts -/

/-- **A blank behind balanced quotes ends a word.** A quote that is open at the beginning makes the
balance odd. -/
theorem words_blank_cut {w : Char} (hw : isBlank w = true) (b : List Char) (a : List Char) :
    ∀ (seen : List Char) (quoted : Bool), (quoted = false ↔ Even (a.count '"')) →
      words seen quoted (a ++ w :: b) = words seen quoted a ++ words [] false b := by
  have hwq : w ≠ '"' := by rintro rfl; exact absurd hw (by decide)
  induction a with
  | nil =>
    intro seen quoted hq
    obtain rfl : quoted = false := hq.mpr (by simp)
    simp [words, hwq, hw]
  | cons c cs ih =>
    intro seen quoted hq
    rw [List.cons_append, words, words]
    by_cases hc : c = '"'
    · rw [if_pos hc, if_pos hc]
      refine ih seen _ ?_
      rw [hc, List.count_cons_self, Nat.even_add_one] at hq
      cases quoted <;> simp_all
    · rw [List.count_cons_of_ne hc] at hq
      rw [if_neg hc, if_neg hc]
      split_ifs with hb
      · have hq' : quoted = false := by simp at hb; exact hb.2
        rw [ih [] false (by rw [← hq, hq']), List.append_assoc]
      · exact ih _ _ hq

theorem words_append_blank {a : List Char} (ha : Even (a.count '"')) {w : Char}
    (hw : isBlank w = true) (b : List Char) :
    words [] false (a ++ w :: b) = words [] false a ++ words [] false b :=
  words_blank_cut hw b a [] false (by simpa using ha)

/-! ## Parts without quotes -/

theorem words_quoted {part : List Char} (hp : '"' ∉ part) (rest : List Char) :
    ∀ seen, words seen true (part ++ '"' :: rest) = words (seen ++ part) false rest := by
  induction part with
  | nil => intro seen; simp [words]
  | cons c cs ih =>
    intro seen
    rw [List.mem_cons, not_or] at hp
    obtain ⟨hc, hcs⟩ := hp
    rw [List.cons_append, words, if_neg (Ne.symm hc), if_neg (by simp), ih hcs]
    simp

theorem words_plain {part : List Char} (hp : '"' ∉ part) (hb : part.any isBlank = false)
    (rest : List Char) :
    ∀ seen, words seen false (part ++ rest) = words (seen ++ part) false rest := by
  induction part with
  | nil => intro seen; simp
  | cons c cs ih =>
    intro seen
    rw [List.mem_cons, not_or] at hp
    obtain ⟨hc, hcs⟩ := hp
    rw [List.any_cons, Bool.or_eq_false_iff] at hb
    rw [List.cons_append, words, if_neg (Ne.symm hc), if_neg (by simp [hb.1]), ih hcs hb.2]
    simp

/-- **A part without quotes is read as it is.** -/
theorem words_quoteIfBlank {part : List Char} (hp : '"' ∉ part) (seen rest : List Char) :
    words seen false (Clause.quoteIfBlank part ++ rest) = words (seen ++ part) false rest := by
  unfold Clause.quoteIfBlank
  split_ifs with hb
  · rw [List.append_assoc, List.cons_append, words, if_pos rfl]
    exact words_quoted hp rest seen
  · exact words_plain hp (by simpa using hb) rest seen

/-! ## What words hold -/

theorem mem_wordOf {seen word : List Char} : word ∈ wordOf seen ↔ word = seen ∧ seen ≠ [] := by
  unfold wordOf
  split_ifs with h <;> simp_all

theorem words_ne_nil {word : List Char} (cs : List Char) :
    ∀ (seen : List Char) (quoted : Bool), word ∈ words seen quoted cs → word ≠ [] := by
  induction cs with
  | nil =>
    intro seen quoted h
    obtain ⟨rfl, hne⟩ := mem_wordOf.mp h
    exact hne
  | cons c cs ih =>
    intro seen quoted h
    rw [words] at h
    split_ifs at h
    · exact ih _ _ h
    · rcases List.mem_append.mp h with h | h
      · obtain ⟨rfl, hne⟩ := mem_wordOf.mp h
        exact hne
      · exact ih _ _ h
    · exact ih _ _ h

theorem words_noQuotes {word : List Char} (cs : List Char) :
    ∀ (seen : List Char) (quoted : Bool), '"' ∉ seen → word ∈ words seen quoted cs →
      '"' ∉ word := by
  induction cs with
  | nil =>
    intro seen quoted hs h
    obtain ⟨rfl, -⟩ := mem_wordOf.mp h
    exact hs
  | cons c cs ih =>
    intro seen quoted hs h
    rw [words] at h
    split_ifs at h with hc hb
    · exact ih _ _ hs h
    · rcases List.mem_append.mp h with h | h
      · obtain ⟨rfl, -⟩ := mem_wordOf.mp h
        exact hs
      · exact ih _ _ (by simp) h
    · exact ih _ _ (by simp [hs, Ne.symm hc]) h

end Weblog.Query
