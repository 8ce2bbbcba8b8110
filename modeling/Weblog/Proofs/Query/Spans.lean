import Mathlib.Algebra.Group.Nat.Even
import Mathlib.Data.List.Basic
import Mathlib.Tactic.Common
import Weblog.Query.Token
/-!
# Tokens as spans of a query

A scanner remembers whether a quote is open in the token that it reads. That is whether the number
of quotes in front of it in the whole query is odd, since all tokens but the last one end with
balanced quotes. So the separators of a query can be told without a scanner, and the tokens are
what stands between them.

* `Span.IsMaximal`: the maximal spans without separators; `spans` lists them, `mem_spansFrom`:
  **all of them and nothing else**.
* `IsSeparator`: a blank with an even number of quotes in front of it.
* `tokensFrom_eq`: **a scanner finds the tokens of the spans**.
* `content`: what is neither separator nor quote.
* **`tokens_of_maximal_spans`**: the tokens of a query, one for each maximal span that holds more
  than quotes, with their texts and positions.
-/

namespace Weblog.Query

open Text

/-! ## Maximal spans -/

/-- The places from `start` on in front of `stop`. -/
structure Span where
  start : Nat
  stop : Nat
  deriving DecidableEq

/-- Whether a span is not empty, holds no separator and cannot be extended, among the places in
front of `length`. -/
structure Span.IsMaximal (separates : Nat → Prop) (length : Nat) (span : Span) : Prop where
  start_lt : span.start < span.stop
  stop_le : span.stop ≤ length
  inside : ∀ i, span.start ≤ i → i < span.stop → ¬separates i
  before : ∀ i, i + 1 = span.start → separates i
  after : span.stop < length → separates span.stop

/-- A maximal span that begins in an open one and ends at the first separator behind it is the open
one. -/
theorem Span.IsMaximal.eq_of_open {separates : Nat → Prop} {length start i : Nat} {span : Span}
    (h : span.IsMaximal separates length) (hi : i ≤ length)
    (hopen : ∀ j, start ≤ j → j < i → ¬separates j) (hend : i < length → separates i)
    (hstart : start ≤ span.start) (hlt : span.start < i) : span = ⟨start, i⟩ := by
  have hbegin : span.start = start := by
    by_contra hne
    exact hopen (span.start - 1) (by omega) (by omega) (h.before _ (by omega))
  have hle : span.stop ≤ i := by
    by_contra hgt
    exact h.inside i (Nat.le_of_lt hlt) (by omega) (hend (by have := h.stop_le; omega))
  have hstop : span.stop = i := by
    by_contra hne
    have := h.start_lt
    exact hopen span.stop (by omega) (by omega) (h.after (by omega))
  rw [← hbegin, ← hstop]

/-- The span from `start` to `stop`, if it is not empty. -/
def spanOf (start stop : Nat) : List Span :=
  if start < stop then [⟨start, stop⟩] else []

section Spans

variable {separates : Nat → Prop} [DecidablePred separates]

variable (separates) in
/-- The maximal spans of the next places from `i` on, where the open one began at `start`. -/
def spansFrom (start i : Nat) : Nat → List Span
  | 0 => spanOf start i
  | rest + 1 =>
    if separates i then spanOf start i ++ spansFrom (i + 1) (i + 1) rest
    else spansFrom start (i + 1) rest

theorem mem_spanOf {start stop : Nat} {span : Span} :
    span ∈ spanOf start stop ↔ start < stop ∧ span = ⟨start, stop⟩ := by
  unfold spanOf
  split_ifs with h <;> simp [h]

/-- **All maximal spans and nothing else.** -/
theorem mem_spansFrom (rest : Nat) : ∀ {start i : Nat}, start ≤ i →
    (∀ j, start ≤ j → j < i → ¬separates j) → (∀ j, j + 1 = start → separates j) →
    ∀ span : Span, span ∈ spansFrom separates start i rest ↔
      start ≤ span.start ∧ span.IsMaximal separates (i + rest) := by
  induction rest with
  | zero =>
    intro start i hle hopen hbefore span
    rw [spansFrom, mem_spanOf, Nat.add_zero]
    constructor
    · rintro ⟨hlt, rfl⟩
      exact ⟨Nat.le_refl start, hlt, Nat.le_refl i, hopen, hbefore,
        fun h => absurd h (Nat.lt_irrefl i)⟩
    · rintro ⟨hstart, hspan⟩
      have hlt := Nat.lt_of_lt_of_le hspan.start_lt hspan.stop_le
      exact ⟨by omega, hspan.eq_of_open (Nat.le_refl i) hopen
        (fun h => absurd h (Nat.lt_irrefl i)) hstart hlt⟩
  | succ rest ih =>
    intro start i hle hopen hbefore span
    have hlength : i + (rest + 1) = i + 1 + rest := by omega
    rw [spansFrom, hlength]
    split_ifs with hi
    · have hnext := ih (Nat.le_refl (i + 1)) (fun j hj hj' => by omega)
        (fun j hj => by obtain rfl : j = i := by omega
                        exact hi) span
      rw [List.mem_append, mem_spanOf, hnext]
      constructor
      · rintro (⟨hlt, rfl⟩ | ⟨hstart, hspan⟩)
        · exact ⟨Nat.le_refl start, hlt, by dsimp only; omega, hopen, hbefore, fun _ => hi⟩
        · exact ⟨by omega, hspan⟩
      · rintro ⟨hstart, hspan⟩
        have hne : span.start ≠ i := fun heq =>
          hspan.inside i (Nat.le_of_eq heq) (heq ▸ hspan.start_lt) hi
        by_cases hlt : span.start < i
        · exact .inl ⟨by omega, hspan.eq_of_open (by omega) hopen (fun _ => hi) hstart hlt⟩
        · exact .inr ⟨by omega, hspan⟩
    · refine ih (by omega) (fun j hj hj' => ?_) hbefore span
      obtain hlt | rfl : j < i ∨ j = i := by omega
      · exact hopen j hj hlt
      · exact hi

theorem start_le_of_mem_spansFrom {span : Span} (rest : Nat) : ∀ {start i : Nat}, start ≤ i →
    span ∈ spansFrom separates start i rest → start ≤ span.start := by
  induction rest with
  | zero =>
    intro start i _ h
    obtain ⟨-, rfl⟩ := mem_spanOf.mp h
    exact Nat.le_refl start
  | succ rest ih =>
    intro start i hle h
    rw [spansFrom] at h
    split_ifs at h
    · obtain h | h := List.mem_append.mp h
      · obtain ⟨-, rfl⟩ := mem_spanOf.mp h
        exact Nat.le_refl start
      · have := ih (Nat.le_refl (i + 1)) h
        omega
    · exact ih (by omega) h

theorem pairwise_spansFrom (rest : Nat) : ∀ {start i : Nat}, start ≤ i →
    (spansFrom separates start i rest).Pairwise fun a b => a.stop < b.start := by
  have hone : ∀ start stop : Nat, (spanOf start stop).Pairwise fun a b => a.stop < b.start := by
    intro start stop
    unfold spanOf
    split_ifs <;> simp
  induction rest with
  | zero => exact fun _ => hone _ _
  | succ rest ih =>
    intro start i hle
    rw [spansFrom]
    split_ifs
    · refine List.pairwise_append.mpr ⟨hone start i, ih (Nat.le_refl (i + 1)), fun a ha b hb => ?_⟩
      obtain ⟨-, rfl⟩ := mem_spanOf.mp ha
      exact start_le_of_mem_spansFrom rest (Nat.le_refl (i + 1)) hb
    · exact ih (by omega)

end Spans

/-! ## Separators -/

/-- Whether there is a blank with an even number of quotes in front of it. -/
def IsSeparator (s : List Char) (i : Nat) : Prop :=
  s[i]?.any isBlank = true ∧ Even ((s.take i).count '"')

instance (s : List Char) : DecidablePred (IsSeparator s) := fun _ =>
  inferInstanceAs (Decidable (_ ∧ _))

/-- The maximal spans of a text between its separators, in order. -/
def spans (s : List Char) : List Span := spansFrom (IsSeparator s) 0 0 s.length

/-- What is neither separator nor quote. -/
def content (s : List Char) : List Char :=
  ((s.zipIdx.filter fun p => ¬IsSeparator s p.2).map Prod.fst).filter (· ≠ '"')

/-- How many bytes a text has in front of a place. -/
def bytesBefore (s : List Char) (i : Nat) : Nat := (String.ofList (s.take i)).utf8ByteSize

namespace Span

/-- The characters of a span of a text. -/
def chars (s : List Char) (span : Span) : List Char := (s.take span.stop).drop span.start

/-- Whether a span holds more than quotes. -/
def HoldsText (s : List Char) (span : Span) : Prop := ∃ c ∈ span.chars s, c ≠ '"'

instance (s : List Char) : DecidablePred (HoldsText s) := fun span =>
  inferInstanceAs (Decidable (∃ c ∈ span.chars s, c ≠ '"'))

/-- The characters of a span without quotes, and the place where it begins. -/
def token (s : List Char) (span : Span) : Token where
  text := String.ofList ((span.chars s).filter (· ≠ '"'))
  position := bytesBefore s span.start

end Span

/-! ## Scanning -/

/-- The run of a scanner that has read a span. Whether a quote is open depends on all that is in
front of the end of the span. -/
def Run.over (s : List Char) (span : Span) : Run where
  position := bytesBefore s span.start
  text := (span.chars s).filter (· ≠ '"')
  quoted := !decide (Even ((s.take span.stop).count '"'))

/-- The open run of a scanner, if it has read something of it. -/
def openRun (s : List Char) (start i : Nat) : Option Run :=
  if start < i then some (.over s ⟨start, i⟩) else none

section Scanning

variable {s : List Char}

theorem lt_length_of_drop {i : Nat} {c : Char} {cs : List Char} (h : s.drop i = c :: cs) :
    i < s.length := by
  have hlength := congrArg List.length h
  rw [List.length_drop, List.length_cons] at hlength
  omega

theorem take_succ_of_drop {i : Nat} {c : Char} {cs : List Char} (h : s.drop i = c :: cs) :
    s.take (i + 1) = s.take i ++ [c] := by
  have hget : s[i]? = some c := by rw [← List.head?_drop, h, List.head?_cons]
  rw [List.take_add_one, hget]
  rfl

theorem drop_succ_of_drop {i : Nat} {c : Char} {cs : List Char} (h : s.drop i = c :: cs) :
    s.drop (i + 1) = cs := by
  rw [← List.tail_drop, h, List.tail_cons]

theorem isSeparator_iff_of_drop {i : Nat} {c : Char} {cs : List Char} (h : s.drop i = c :: cs) :
    IsSeparator s i ↔ isBlank c = true ∧ Even ((s.take i).count '"') := by
  have hget : s[i]? = some c := by rw [← List.head?_drop, h, List.head?_cons]
  rw [IsSeparator, hget, Option.any_some]

theorem bytesBefore_succ {i : Nat} {c : Char} {cs : List Char} (h : s.drop i = c :: cs) :
    bytesBefore s (i + 1) = bytesBefore s i + c.utf8Size := by
  have hone : (String.ofList [c]).utf8ByteSize = c.utf8Size := String.utf8ByteSize_singleton
  rw [bytesBefore, take_succ_of_drop h, String.ofList_append, String.utf8ByteSize_append, hone]
  rfl

theorem chars_succ {start i : Nat} (hle : start ≤ i) {c : Char} {cs : List Char}
    (h : s.drop i = c :: cs) :
    Span.chars s ⟨start, i + 1⟩ = Span.chars s ⟨start, i⟩ ++ [c] := by
  have hlength := lt_length_of_drop h
  have hstart : start ≤ (s.take i).length := by
    rw [List.length_take]
    omega
  rw [Span.chars, Span.chars, take_succ_of_drop h, List.drop_append_of_le_length hstart]

/-- A run that takes one more character has read a span that is longer by one. -/
theorem push_over {start i : Nat} (hle : start ≤ i) {c : Char} {cs : List Char}
    (h : s.drop i = c :: cs) : (Run.over s ⟨start, i⟩).push c = .over s ⟨start, i + 1⟩ := by
  unfold Run.push Run.over
  rw [chars_succ hle h, take_succ_of_drop h, List.filter_append]
  by_cases hc : c = '"'
  · have hflip : decide (Even ((s.take i).count '"' + 1)) =
        !decide (Even ((s.take i).count '"')) := by
      simp only [Nat.even_add_one, decide_not]
    simp [hc, hflip]
  · simp [hc]

theorem over_self {i : Nat} (h : Even ((s.take i).count '"')) :
    Run.over s ⟨i, i⟩ = .start (bytesBefore s i) := by
  simp [Run.over, Run.start, Span.chars, h]

theorem tokensFrom_separator {start i : Nat} {c : Char} (cs : List Char) (hc : isBlank c = true)
    (heven : Even ((s.take i).count '"')) (position : Nat) :
    tokensFrom position (openRun s start i) (c :: cs) =
      (spanOf start i).flatMap (fun span => (Run.over s span).tokens) ++
        tokensFrom (position + c.utf8Size) none cs := by
  unfold openRun spanOf
  split_ifs
  · simp [tokensFrom, hc, Run.over, heven]
  · simp [tokensFrom, hc]

theorem tokensFrom_push {start i : Nat} (hle : start ≤ i) {c : Char} {cs : List Char}
    (h : s.drop i = c :: cs) (hseparator : ¬IsSeparator s i)
    (hbegin : start = i → Even ((s.take i).count '"')) :
    tokensFrom (bytesBefore s i) (openRun s start i) (c :: cs) =
      tokensFrom (bytesBefore s i + c.utf8Size) (openRun s start (i + 1)) cs := by
  rw [isSeparator_iff_of_drop h] at hseparator
  have hnext : openRun s start (i + 1) = some ((Run.over s ⟨start, i⟩).push c) := by
    rw [push_over hle h, openRun, if_pos (by omega)]
  rw [hnext]
  obtain hlt | rfl := Nat.lt_or_eq_of_le hle
  · have hstay : (isBlank c && !(Run.over s ⟨start, i⟩).quoted) = false := by
      simpa [Run.over] using hseparator
    rw [openRun, if_pos hlt, tokensFrom]
    simp [hstay]
  · have hblank : isBlank c = false := by
      simpa [hbegin rfl] using hseparator
    rw [openRun, if_neg (Nat.lt_irrefl start), tokensFrom, over_self (hbegin rfl)]
    simp [hblank]

/-- **A scanner finds the tokens of the spans**, from every place on. -/
theorem tokensFrom_eq (cs : List Char) : ∀ {start i : Nat}, s.drop i = cs → start ≤ i →
    (start = i → Even ((s.take i).count '"')) →
    tokensFrom (bytesBefore s i) (openRun s start i) cs =
      (spansFrom (IsSeparator s) start i cs.length).flatMap fun span =>
        (Run.over s span).tokens := by
  induction cs with
  | nil =>
    intro start i _ hle _
    rw [List.length_nil, spansFrom, openRun, spanOf]
    split_ifs <;> simp [tokensFrom]
  | cons c cs ih =>
    intro start i hdrop hle hbegin
    have hdrop' := drop_succ_of_drop hdrop
    rw [List.length_cons, spansFrom]
    by_cases hi : IsSeparator s i
    · obtain ⟨hc, heven⟩ := (isSeparator_iff_of_drop hdrop).mp hi
      have hnext : Even ((s.take (i + 1)).count '"') := by
        have hquote : c ≠ '"' := by
          rintro rfl
          exact absurd hc (by decide)
        rw [take_succ_of_drop hdrop, List.count_append, List.count_singleton]
        simpa [hquote] using heven
      have hrest := ih hdrop' (Nat.le_refl (i + 1)) fun _ => hnext
      rw [openRun, if_neg (Nat.lt_irrefl (i + 1)), bytesBefore_succ hdrop] at hrest
      rw [if_pos hi, tokensFrom_separator cs hc heven, List.flatMap_append, hrest]
    · rw [if_neg hi, tokensFrom_push hle hdrop hi hbegin, ← bytesBefore_succ hdrop]
      exact ih hdrop' (by omega) fun h => absurd h (by omega)

theorem flatMap_chars (cs : List Char) : ∀ {start i : Nat}, s.drop i = cs → start ≤ i →
    (spansFrom (IsSeparator s) start i cs.length).flatMap (Span.chars s) =
      Span.chars s ⟨start, i⟩ ++
        ((cs.zipIdx i).filter fun p => ¬IsSeparator s p.2).map Prod.fst := by
  have hone : ∀ {start i : Nat}, start ≤ i →
      (spanOf start i).flatMap (Span.chars s) = Span.chars s ⟨start, i⟩ := by
    intro start i hle
    unfold spanOf
    split_ifs with hlt
    · simp
    · obtain rfl : start = i := by omega
      simp [Span.chars]
  induction cs with
  | nil =>
    intro start i _ hle
    rw [List.length_nil, spansFrom, hone hle]
    simp
  | cons c cs ih =>
    intro start i hdrop hle
    have hdrop' := drop_succ_of_drop hdrop
    rw [List.length_cons, spansFrom, List.zipIdx_cons, List.filter_cons]
    by_cases hi : IsSeparator s i
    · have hempty : Span.chars s ⟨i + 1, i + 1⟩ = [] := by simp [Span.chars]
      rw [if_pos hi, List.flatMap_append, hone hle, ih hdrop' (Nat.le_refl (i + 1)), hempty]
      simp [hi]
    · rw [if_neg hi, ih hdrop' (by omega), chars_succ hle hdrop]
      simp [hi]

end Scanning

/-! ## Tokens -/

section Tokens

variable {s : List Char}

theorem tokens_over (span : Span) :
    (Run.over s span).tokens = if span.HoldsText s then [span.token s] else [] := by
  have hempty : (Run.over s span).text.isEmpty = true ↔ ¬span.HoldsText s := by
    rw [List.isEmpty_iff, Run.over, List.filter_eq_nil_iff, Span.HoldsText]
    simp
  unfold Run.tokens
  by_cases h : span.HoldsText s
  · rw [if_pos h, if_neg (hempty.not.mpr (not_not.mpr h))]
    rfl
  · rw [if_neg h, if_pos (hempty.mpr h)]

theorem flatMap_ite_singleton {α β : Type} (p : α → Prop) [DecidablePred p] (f : α → β)
    (l : List α) : l.flatMap (fun a => if p a then [f a] else []) = (l.filter p).map f := by
  induction l with
  | nil => rfl
  | cons a l ih =>
    rw [List.flatMap_cons, ih, List.filter_cons]
    by_cases h : p a <;> simp [h]

theorem tokens_eq_flatMap (query : String) : tokens query =
    (spans query.toList).flatMap fun span => (Run.over query.toList span).tokens :=
  tokensFrom_eq query.toList rfl (Nat.le_refl 0) fun _ => by simp

theorem tokens_eq (query : String) : tokens query =
    ((spans query.toList).filter (Span.HoldsText query.toList)).map (Span.token query.toList) := by
  rw [tokens_eq_flatMap]
  simp only [tokens_over]
  exact flatMap_ite_singleton _ _ _

theorem mem_spans {span : Span} :
    span ∈ spans s ↔ span.IsMaximal (IsSeparator s) s.length := by
  rw [spans, mem_spansFrom s.length (Nat.le_refl 0) (fun j _ hj => absurd hj (by omega))
    (fun j hj => absurd hj (by omega)), Nat.zero_add]
  exact and_iff_right (Nat.zero_le span.start)

theorem bytesBefore_lt {i j : Nat} (h : i < j) (hi : i < s.length) :
    bytesBefore s i < bytesBefore s j := by
  have hne : s.drop i ≠ [] := by
    rw [ne_eq, List.drop_eq_nil_iff]
    omega
  obtain ⟨c, cs, hdrop⟩ := List.exists_cons_of_ne_nil hne
  have hpos := c.utf8Size_pos
  have hmono : bytesBefore s (i + 1) ≤ bytesBefore s j := by
    obtain ⟨rest, hrest⟩ := List.take_prefix_take_left (l := s) (show i + 1 ≤ j from h)
    rw [bytesBefore, bytesBefore, ← hrest, String.ofList_append, String.utf8ByteSize_append]
    exact Nat.le_add_right _ _
  rw [bytesBefore_succ hdrop] at hmono
  omega

theorem isValid_bytesBefore (query : String) (i : Nat) :
    (String.Pos.Raw.mk (bytesBefore query.toList i)).IsValid query := by
  refine String.Pos.Raw.isValid_iff_exists_append.mpr
    ⟨String.ofList (query.toList.take i), String.ofList (query.toList.drop i), ?_, rfl⟩
  rw [← String.ofList_append, List.take_append_drop, String.ofList_toList]

theorem mem_tokens {query : String} {t : Token} :
    t ∈ tokens query ↔ ∃ span ∈ spans query.toList, span.HoldsText query.toList ∧
      span.token query.toList = t := by
  rw [tokens_eq]
  simp [and_assoc]

theorem pairwise_position (query : String) :
    (tokens query).Pairwise fun t u => t.position < u.position := by
  rw [tokens_eq, List.pairwise_map]
  refine List.Pairwise.filter _ ?_
  have hordered : (spans query.toList).Pairwise fun a b => a.stop < b.start :=
    pairwise_spansFrom _ (Nat.le_refl 0)
  refine hordered.imp_of_mem fun {a b} ha hb hlt => ?_
  have hstart := (mem_spans.mp ha).start_lt
  have hlength := (mem_spans.mp ha).stop_le
  exact bytesBefore_lt (by omega) (by omega)

theorem flatMap_text (query : String) :
    (tokens query).flatMap (fun t => t.text.toList) = content query.toList := by
  have htext : ∀ run : Run, run.tokens.flatMap (fun t => t.text.toList) = run.text := by
    intro run
    unfold Run.tokens
    split_ifs with h
    · rw [List.isEmpty_iff.mp h]
      rfl
    · simp
  have hchars : (spans query.toList).flatMap (Span.chars query.toList) =
      (query.toList.zipIdx.filter fun p => ¬IsSeparator query.toList p.2).map Prod.fst :=
    flatMap_chars query.toList rfl (Nat.le_refl 0)
  rw [content, ← hchars, List.filter_flatMap, tokens_eq_flatMap, List.flatMap_assoc]
  simp only [htext]
  rfl

/-- **Every query is cut at its separators.** There is one token for each maximal span without
separators that holds more than quotes, in order: its text is the span without quotes, and its
position is that of the first character of the span in bytes. So positions increase and lie
between characters, texts are not empty and hold no quotes, and together they are what is neither
separator nor quote. -/
theorem tokens_of_maximal_spans (query : String) :
    (∀ span, span ∈ spans query.toList ↔
        span.IsMaximal (IsSeparator query.toList) query.toList.length) ∧
      (spans query.toList).Pairwise (fun a b => a.stop < b.start) ∧
      tokens query = ((spans query.toList).filter (Span.HoldsText query.toList)).map
        (Span.token query.toList) ∧
      (tokens query).Pairwise (fun t u => t.position < u.position) ∧
      (∀ t ∈ tokens query, (String.Pos.Raw.mk t.position).IsValid query ∧ t.text ≠ "" ∧
        '"' ∉ t.text.toList) ∧
      (tokens query).flatMap (fun t => t.text.toList) = content query.toList := by
  refine ⟨fun span => mem_spans, pairwise_spansFrom _ (Nat.le_refl 0), tokens_eq query,
    pairwise_position query, fun t ht => ?_, flatMap_text query⟩
  obtain ⟨span, -, ⟨c, hc, hquote⟩, rfl⟩ := mem_tokens.mp ht
  refine ⟨isValid_bytesBefore query span.start, fun hempty => ?_, ?_⟩
  · have htext : c ∈ (span.token query.toList).text.toList := by simp [Span.token, hc, hquote]
    rw [hempty] at htext
    exact absurd htext (by simp)
  · simp [Span.token]

/-- Quotes alone are no token, and a quote that is never closed holds the blanks behind it. -/
example : tokens "é \"\" ab\"c d" = [⟨"é", 0⟩, ⟨"abc d", 6⟩] := by decide

end Tokens

end Weblog.Query
