import Mathlib.Data.List.TakeWhile
import Weblog.Proofs.Query.Words
/-!
# Canonical queries

Not every list of clauses can be written as a query: quotes cannot be part of a word, and a word is
split at its first colon and behind the longest operator. The clauses that survive this are
canonical.

* `Clause.IsCanonical`, `Query.IsCanonical`: the clauses and queries that a text can denote.
* `Clause.token`: a clause as one word, without quotes; `Clause.ofChars_token`: a canonical clause
  is read back from its word.
* `Query.isCanonical_parse`: every text denotes a canonical query.
* `Query.parse_render`: a canonical query is read back from its text.
* **`Query.parse_render_eq_self_iff`**: the queries that are read back are the canonical ones, and
  those are the queries that some text denotes.
-/

namespace Weblog

/-! ## Operators -/

/-- Whether a literal does not lengthen the operator in front of it. -/
def Operator.EndsBefore (literal : List Char) : Operator → Prop
  | .equal => literal.head? ≠ some '<' ∧ literal.head? ≠ some '>'
  | .greater | .less => literal.head? ≠ some '='
  | .atLeast | .atMost => True

theorem Operator.split_symbol {op : Operator} {literal : List Char} (h : op.EndsBefore literal) :
    split (op.symbol.toList ++ literal) = (op, literal) := by
  cases op with
  | atLeast | atMost => simp [symbol, split]
  | equal | greater | less =>
    simp only [symbol, String.toList_empty, String.reduceToList, List.nil_append,
      List.cons_append]
    unfold split
    split <;> simp_all [EndsBefore]

theorem head?_ne_some {c : Char} {l : List Char} (h : ∀ cs, l = c :: cs → False) :
    l.head? ≠ some c := fun he => (List.head?_eq_some_iff.mp he).elim h

/-- **The operator at the beginning of a text is the longest one.** -/
theorem Operator.endsBefore_split (rest : List Char) :
    (split rest).1.EndsBefore (split rest).2 := by
  fun_cases split rest with
  | case1 | case3 => trivial
  | case2 rest h | case4 rest h => exact head?_ne_some h
  | case5 rest _ hgreater _ hless => exact ⟨head?_ne_some hless, head?_ne_some hgreater⟩

theorem Operator.split_suffix (rest : List Char) : (split rest).2 <:+ rest := by
  unfold split
  split <;> simp [List.suffix_cons_iff]

/-! ## Clauses -/

namespace Clause

/-- The clauses that a word can denote. -/
def IsCanonical : Clause → Prop
  | text term =>
    term.toList ≠ [] ∧ '"' ∉ term.toList ∧ (':' ∉ term.toList ∨ term.toList.head? = some ':')
  | field name operator literal =>
    name.toList ≠ [] ∧ ':' ∉ name.toList ∧ '"' ∉ name.toList ∧ '"' ∉ literal.toList ∧
      operator.EndsBefore literal.toList

/-- A clause as one word. -/
def token : Clause → List Char
  | field name operator literal => name.toList ++ ':' :: operator.symbol.toList ++ literal.toList
  | text term => term.toList

theorem ofChars_text {t : List Char} (h : ':' ∉ t ∨ t.head? = some ':') :
    ofChars t = .text (String.ofList t) := by
  unfold ofChars
  rcases h with h | h
  · have hd : t.dropWhile (· != ':') = [] := by
      rw [List.dropWhile_eq_nil_iff]
      intro c hc
      simpa using fun e : c = ':' => h (e ▸ hc)
    rw [hd]
    cases t.takeWhile (· != ':') <;> rfl
  · obtain ⟨cs, rfl⟩ := List.head?_eq_some_iff.mp h
    simp

theorem ofChars_field {name : List Char} (hne : name ≠ []) (hname : ':' ∉ name)
    (rest : List Char) :
    ofChars (name ++ ':' :: rest) =
      .field (String.ofList name) (Operator.split rest).1
        (String.ofList (Operator.split rest).2) := by
  have hp : ∀ c ∈ name, (c != ':') = true := fun c hc => by
    simpa using fun e : c = ':' => hname (e ▸ hc)
  obtain ⟨c, cs, rfl⟩ := List.exists_cons_of_ne_nil hne
  unfold ofChars
  rw [List.takeWhile_append_of_pos hp, List.dropWhile_append_of_pos hp]
  simp

/-- **A canonical clause is read back from its word.** -/
theorem ofChars_token {c : Clause} (h : c.IsCanonical) : ofChars c.token = c := by
  cases c with
  | text term => rw [token, ofChars_text h.2.2, String.ofList_toList]
  | field name operator literal =>
    obtain ⟨hne, hcolon, -, -, hop⟩ := h
    rw [token, List.append_assoc, List.cons_append, ofChars_field hne hcolon,
      Operator.split_symbol hop, String.ofList_toList, String.ofList_toList]

/-- **A word denotes a canonical clause.** -/
theorem isCanonical_ofChars {t : List Char} (hne : t ≠ []) (hq : '"' ∉ t) :
    (ofChars t).IsCanonical := by
  by_cases h : ':' ∉ t ∨ t.head? = some ':'
  · rw [ofChars_text h]
    simpa [IsCanonical] using ⟨hne, hq, h⟩
  · obtain ⟨hmem, hhead⟩ := not_or.mp h
    obtain ⟨name, rest, rfl, hname⟩ := List.eq_append_cons_of_mem (not_not.mp hmem)
    have hne' : name ≠ [] := by rintro rfl; exact hhead rfl
    have hsplit := Operator.split_suffix rest
    rw [ofChars_field hne' hname]
    simp only [IsCanonical, String.toList_ofList]
    refine ⟨hne', hname, fun hm => hq (by simp [hm]), fun hm => hq ?_,
      Operator.endsBefore_split rest⟩
    simp [hsplit.subset hm]

theorem words_chars {c : Clause} (h : c.IsCanonical) (rest : List Char) :
    Query.words [] false (c.chars ++ rest) = Query.words c.token false rest := by
  cases c with
  | text term => rw [chars, Query.words_quoteIfBlank h.2.1]; rfl
  | field name operator literal =>
    obtain ⟨-, -, hname, hliteral, -⟩ := h
    have hop : '"' ∉ ':' :: operator.symbol.toList ∧
        (':' :: operator.symbol.toList).any Text.isBlank = false := by
      cases operator <;> decide
    rw [chars, List.append_assoc, List.append_assoc, Query.words_quoteIfBlank hname,
      Query.words_plain hop.1 hop.2, Query.words_quoteIfBlank hliteral]
    simp [token]

theorem token_ne_nil {c : Clause} (h : c.IsCanonical) : c.token ≠ [] := by
  cases c with
  | text term => exact h.1
  | field name operator literal => simp [token]

end Clause

/-! ## Queries -/

namespace Query

/-- The queries that a text can denote. -/
def IsCanonical (q : Query) : Prop := ∀ c ∈ q.clauses, c.IsCanonical

/-- **Every text denotes a canonical query.** -/
theorem isCanonical_parse (s : String) : (parse s).IsCanonical := by
  intro c hc
  rw [clauses_parse] at hc
  obtain ⟨word, hword, rfl⟩ := List.mem_map.mp hc
  exact Clause.isCanonical_ofChars (words_ne_nil _ _ _ hword)
    (words_noQuotes _ _ _ List.not_mem_nil hword)

theorem words_intercalate (clauses : List Clause) (h : ∀ c ∈ clauses, c.IsCanonical) :
    words [] false ([' '].intercalate (clauses.map Clause.chars)) = clauses.map Clause.token := by
  induction clauses with
  | nil => rfl
  | cons c rest ih =>
    have hc := h c List.mem_cons_self
    have hword : wordOf c.token = [c.token] := by simp [wordOf, Clause.token_ne_nil hc]
    have hrest := ih fun d hd => h d (List.mem_cons_of_mem _ hd)
    cases rest with
    | nil =>
      have := Clause.words_chars hc []
      simpa [words, hword] using this
    | cons d rest =>
      rw [List.map_cons, List.map_cons, List.intercalate_cons_cons, ← List.map_cons,
        List.append_assoc, Clause.words_chars hc, List.singleton_append, words,
        if_neg (by decide), if_pos (by decide), hrest, hword]
      rfl

/-- **A canonical query is read back from its text.** -/
theorem parse_render {q : Query} (h : q.IsCanonical) : parse q.render = q := by
  have hwords : (parse q.render).clauses = q.clauses.map fun c => Clause.ofChars c.token := by
    rw [clauses_parse, render, String.toList_ofList, chars, words_intercalate _ h, List.map_map]
    rfl
  have hid : q.clauses.map (fun c => Clause.ofChars c.token) = q.clauses := by
    conv_rhs => rw [← List.map_id q.clauses]
    exact List.map_congr_left fun c hc => Clause.ofChars_token (h c hc)
  exact congrArg Query.mk (hwords.trans hid)

/-- **The queries that are read back from their texts are those that some text denotes**, and these
are the canonical ones. -/
theorem parse_render_eq_self_iff (q : Query) :
    (parse q.render = q ↔ ∃ s, q = parse s) ∧ ((∃ s, q = parse s) ↔ q.IsCanonical) ∧
      ∀ s, parse (parse s).render = parse s := by
  refine ⟨⟨fun h => ⟨_, h.symm⟩, ?_⟩, ⟨?_, fun h => ⟨_, (parse_render h).symm⟩⟩, fun s => ?_⟩
  · rintro ⟨s, rfl⟩
    exact parse_render (isCanonical_parse s)
  · rintro ⟨s, rfl⟩
    exact isCanonical_parse s
  · exact parse_render (isCanonical_parse s)

end Query

end Weblog
