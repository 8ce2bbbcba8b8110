import Weblog.Proofs.Listing.CutOffs
import Weblog.Proofs.Number.Integers
import Weblog.Proofs.Query.Comparisons
/-!
# View counts

Views are natural numbers of 64 bits, but a query compares them as binary64 numbers, and what a
literal denotes is rounded in the same way. Rounding may make different counts equal, but it never
changes their order.

* `Operator.Relates`: the relation of two numbers that an operator asks for;
  `Operands.satisfy_iff_relates`: operands with an order satisfy the operators that their places
  satisfy.
* `parse_plain`: a comparison that is written without quotes.
* `holds_views_iff`: **views are compared by rank**.
* `FollowsIntegers`: how comparisons of views follow the natural numbers.
* **`views_follow_integers`**: they do so for all views and all digits.
-/

namespace Weblog

open Number

/-! ## Operators as relations -/

/-- Whether two numbers are related as an operator asks for. -/
def Operator.Relates {β : Type} [LinearOrder β] (a b : β) : Operator → Prop
  | equal => a = b
  | greater => b < a
  | atLeast => b ≤ a
  | less => a < b
  | atMost => a ≤ b

theorem Operator.relates_cast {m n : Nat} (op : Operator) :
    op.Relates (m : Int) (n : Int) ↔ op.Relates m n := by
  cases op with
  | equal => exact Int.ofNat_inj
  | greater | less => exact Int.ofNat_lt
  | atLeast | atMost => exact Int.ofNat_le

namespace Query

theorem Operands.satisfy_iff_relates {operands : Operands} (hd : operands.domain ≠ .textual)
    {a b : Int} (ho : operands.order = some (Ord.compare a b)) (op : Operator) :
    operands.satisfy op = true ↔ op.Relates a b := by
  have hany : ∀ f : Ordering → Bool, operands.order.any f = f (Ord.compare a b) := fun f => by
    rw [ho, Option.any_some]
  cases op with
  | equal =>
    rw [satisfy, areEqual_eq_order hd, ho, beq_iff_eq, Option.some_inj]
    exact Int.compare_eq_eq
  | greater => exact (Bool.eq_iff_iff.mp (hany _)).trans Listing.isGT_compare
  | atLeast => exact (Bool.eq_iff_iff.mp (hany _)).trans Int.isGE_compare
  | less =>
    exact (Bool.eq_iff_iff.mp (hany _)).trans (Ordering.isLT_iff_eq_lt.trans Int.compare_eq_lt)
  | atMost => exact (Bool.eq_iff_iff.mp (hany _)).trans Int.isLE_compare

/-! ## Comparisons without quotes -/

/-- A comparison that is written without quotes. -/
def plainQuery (name : String) (op : Operator) (literal : String) : String :=
  name ++ ":" ++ op.symbol ++ literal

/-- **A literal without quotes and blanks needs no quotes around it.** -/
theorem parse_plain {name : String} (hname : IsPlainName name) {op : Operator} {literal : String}
    (hquote : '"' ∉ literal.toList) (hblank : literal.toList.any Text.isBlank = false)
    (hop : op.EndsBefore literal.toList) :
    (parse (plainQuery name op literal)).clauses = [.field name op literal] := by
  obtain ⟨hne, hcolon, hnameQuote, hnameBlank⟩ := hname
  let q : Query := ⟨[.field name op literal]⟩
  have hcanonical : q.IsCanonical := by
    intro c hc
    rw [List.mem_singleton.mp hc]
    exact ⟨hne, hcolon, hnameQuote, hquote, hop⟩
  have htext : plainQuery name op literal = q.render := by
    rw [← String.toList_inj]
    simp [plainQuery, q, render, chars, Clause.chars, Clause.quoteIfBlank, hnameBlank, hblank]
  rw [htext, parse_render hcanonical]

end Query

/-! ## Views -/

open Query

/-- **Views are compared by rank.** -/
theorem holds_views_iff {fields : List String} (p : Post) {literal : String} {n : Nat}
    (h : IsNatural 10 literal.toList n) (hn : n < 2 ^ 64) (op : Operator) :
    (Clause.field "visitas" op literal).holds fields p = true ↔
      op.Relates (rankOfNat p.views.toNat) (rankOfNat n) := by
  have hoperands := Listing.operands_views p (readNumber_of_isNatural h hn)
  have horder : (Operands.of (Record.field p "visitas") literal).order =
      some (Ord.compare (rankOfNat p.views.toNat : Int) (rankOfNat n)) := by
    rw [hoperands, Operands.order, order_ofNat]
    rfl
  have hdomain : (Operands.of (Record.field p "visitas") literal).domain ≠ .textual := by
    rw [hoperands, Operands.domain]
    decide
  rw [Clause.holds, compare_eq_satisfy rfl, Operands.satisfy_iff_relates hdomain horder,
    Operator.relates_cast]

/-- How the comparisons of a post's views with a literal that denotes `n` follow the natural
numbers. -/
structure FollowsIntegers (fields : List String) (p : Post) (literal : String) (n : Nat) :
    Prop where
  /-- The literal needs no quotes. -/
  parsed : ∀ op, (parse (plainQuery "visitas" op literal)).clauses =
    [.field "visitas" op literal]
  greater : (Clause.field "visitas" .greater literal).holds fields p = true → n < p.views.toNat
  less : (Clause.field "visitas" .less literal).holds fields p = true → p.views.toNat < n
  same : p.views.toNat = n → ∀ op ∈ [Operator.equal, .atLeast, .atMost],
    (Clause.field "visitas" op literal).holds fields p = true
  exact : p.views.toNat ≤ 2 ^ 53 → n ≤ 2 ^ 53 → ∀ op,
    ((Clause.field "visitas" op literal).holds fields p = true ↔ op.Relates p.views.toNat n)

theorem head?_ne_of_isNatural {digits : List Char} {n : Nat} (h : IsNatural 10 digits n) {c : Char}
    (hc : c.isDigit = false) : digits.head? ≠ some c := by
  intro hhead
  have hdigit := (isNatural_ten_iff.mp h).2.1 c (List.mem_of_mem_head? hhead)
  exact absurd hdigit (by simp [hc])

/-- **Comparisons of views follow the natural numbers**: no comparison turns their order around,
equal counts are found equal, and up to `2 ^ 53` all comparisons are exact. -/
theorem views_follow_integers (fields : List String) (p : Post) {literal : String} {n : Nat}
    (h : IsNatural 10 literal.toList n) (hn : n < 2 ^ 64) :
    FollowsIntegers fields p literal n := by
  have hholds : ∀ op, (Clause.field "visitas" op literal).holds fields p = true ↔
      op.Relates (rankOfNat p.views.toNat) (rankOfNat n) := holds_views_iff p h hn
  obtain ⟨-, hdigits, -⟩ := isNatural_ten_iff.mp h
  refine ⟨fun op => parse_plain (by decide) ?_ ?_ ?_, fun hgreater => ?_, fun hless => ?_,
    fun heq op hop => ?_, fun hp hn' op => ?_⟩
  · exact fun hmem => absurd (hdigits _ hmem) (by decide)
  · simpa using fun c hc => Calendar.not_isBlank (hdigits c hc)
  · have hhead : ∀ c : Char, c.isDigit = false → literal.toList.head? ≠ some c :=
      fun c hc => head?_ne_of_isNatural h hc
    cases op with
    | equal => exact ⟨hhead '<' rfl, hhead '>' rfl⟩
    | greater | less => exact hhead '=' rfl
    | atLeast | atMost => trivial
  · exact lt_of_rankOfNat_lt ((hholds .greater).mp hgreater)
  · exact lt_of_rankOfNat_lt ((hholds .less).mp hless)
  · rw [hholds, heq]
    simp only [List.mem_cons, List.not_mem_nil, or_false] at hop
    obtain rfl | rfl | rfl := hop
    · exact rfl
    · exact le_refl (rankOfNat n)
    · exact le_refl (rankOfNat n)
  · rw [hholds]
    cases op with
    | equal => exact rankOfNat_inj_iff hp hn'
    | greater => exact rankOfNat_lt_iff hn' hp
    | less => exact rankOfNat_lt_iff hp hn'
    | atLeast => exact not_lt.symm.trans ((not_congr (rankOfNat_lt_iff hp hn')).trans not_lt)
    | atMost => exact not_lt.symm.trans ((not_congr (rankOfNat_lt_iff hn' hp)).trans not_lt)

/-- One view more than the greatest count up to which numbers are exact, compared with this count:
the two have one number, so they are found equal and neither is found greater. -/
theorem views_follow_integers_halfway :
    let p : Post := { BlogData.samplePost with views := 9007199254740993 }
    IsNatural 10 "0009007199254740992".toList 9007199254740992 ∧ 9007199254740992 < 2 ^ 64 ∧
      (Clause.field "visitas" .equal "0009007199254740992").holds [] p = true ∧
      FollowsIntegers [] p "0009007199254740992" 9007199254740992 := by
  intro p
  have hdigits : IsNatural 10 "0009007199254740992".toList 9007199254740992 :=
    isNatural_ten_iff.mpr ⟨by decide, by simp, by decide +kernel⟩
  have hlt : 9007199254740992 < 2 ^ 64 := by decide
  exact ⟨hdigits, hlt, by decide +kernel, views_follow_integers [] p hdigits hlt⟩

end Weblog
