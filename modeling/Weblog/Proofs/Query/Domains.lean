import Mathlib.Tactic.Common
import Weblog.Proofs.Calendar.Beginnings
import Weblog.Proofs.Query.Comparisons
/-!
# Domains of comparisons

Numbers are tried before instants, but the order does not matter: no text denotes both, and the
text of a number denotes that number. So the domain of two texts is a matter of what both denote.

* `Operands.ofInstantsFirst`, `domainInstantsFirst`, `compareInstantsFirst`: the comparison that
  tries instants first.
* `Operands.not_isInstant_of_numberOf`: a value that is taken for a number has no instant.
* `Operands.ofInstantsFirst_eq`: **both orders give the same operands**.
* `domain_texts`: the domain of two texts.
* **`number_or_instant_never_both`**: all of this for every text and every pair of operands.
-/

namespace Weblog.Query

open Number Calendar

/-! ## Trying instants first -/

/-- The operands of a comparison that tries instants before numbers. -/
def Operands.ofInstantsFirst (value : Value) (literal : String) : Operands :=
  match readInstant value.text, readInstant literal with
  | some a, some b => instants a b
  | _, _ =>
    match numberOf value, readNumber literal with
    | some a, some b => numbers a b
    | _, _ => texts value.text literal

/-- Whether a value and a literal satisfy an operator, where instants are tried first. -/
def compareInstantsFirst (value : Value) (literal : String) (operator : Operator) : Bool :=
  !value.isAbsent && (Operands.ofInstantsFirst value literal).satisfy operator

/-- The domain of a comparison that tries instants first. -/
def domainInstantsFirst (value : Value) (literal : String) : Option Domain :=
  if value.isAbsent then none else some (Operands.ofInstantsFirst value literal).domain

/-! ## Numbers and instants -/

theorem readNumber_none_or_readInstant_none (s : String) :
    readNumber s = none ∨ readInstant s = none := by
  cases h : readInstant s with
  | none => exact .inr rfl
  | some i => exact .inl (readNumber_eq_none_of_readInstant h)

namespace Operands

theorem not_isInstant_of_numberOf {v : Value} {x : Binary64} (h : numberOf v = some x) :
    readInstant v.text = none := by
  apply (readNumber_none_or_readInstant_none v.text).resolve_left
  obtain htext | htext := readNumber_text v
  · simp [htext, h]
  · simp [htext, h]

/-- **Both orders give the same operands.** -/
theorem ofInstantsFirst_eq (v : Value) (literal : String) :
    ofInstantsFirst v literal = of v literal := by
  unfold ofInstantsFirst of
  cases hv : numberOf v with
  | none => cases readInstant v.text <;> cases readInstant literal <;> simp
  | some x =>
    have hinstant := not_isInstant_of_numberOf hv
    cases readNumber literal <;> simp [hinstant]

end Operands

/-! ## Two texts -/

theorem domain_string (s t : String) :
    domain (.string s) t = some (Operands.ofNumbers (readNumber s) (readNumber t) s t).domain := by
  rw [← Operands.of_string]
  rfl

/-- What the domain of two texts says about them. -/
structure DomainTells (s t : String) : Prop where
  numeric : domain (.string s) t = some .numeric ↔
    (readNumber s).isSome = true ∧ (readNumber t).isSome = true
  temporal : domain (.string s) t = some .temporal ↔
    (readInstant s).isSome = true ∧ (readInstant t).isSome = true
  textual : domain (.string s) t = some .textual ↔
    ¬((readNumber s).isSome = true ∧ (readNumber t).isSome = true) ∧
      ¬((readInstant s).isSome = true ∧ (readInstant t).isSome = true)

theorem domain_texts (s t : String) : DomainTells s t := by
  have hs := readNumber_none_or_readInstant_none s
  constructor
  all_goals
    rw [domain_string]
    unfold Operands.ofNumbers
    generalize readNumber s = a, readNumber t = b, readInstant s = i, readInstant t = j at hs
    cases a <;> cases b <;> cases i <;> cases j <;> simp [Operands.domain] at hs ⊢

/-- **No text is both a number and an instant.** Therefore two texts are compared as numbers if
both are numbers, as instants if both are instants, and otherwise as texts, and for all operands
it does not matter which domain is tried first. -/
theorem number_or_instant_never_both :
    (∀ s : String, readNumber s = none ∨ readInstant s = none) ∧
      (∀ s t : String, DomainTells s t) ∧
      ∀ (v : Value) (literal : String), domainInstantsFirst v literal = domain v literal ∧
        ∀ op : Operator, compareInstantsFirst v literal op = compare v literal op := by
  refine ⟨readNumber_none_or_readInstant_none, domain_texts,
    fun v literal => ⟨?_, fun op => ?_⟩⟩
  · rw [domainInstantsFirst, Operands.ofInstantsFirst_eq, domain]
  · rw [compareInstantsFirst, Operands.ofInstantsFirst_eq, compare]

end Weblog.Query
