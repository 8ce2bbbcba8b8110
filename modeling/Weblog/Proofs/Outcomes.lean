/-!
# Outcomes

* **`bind_eq_ok`**: when two computations in a row succeed.
* `bind_pure_eq_map`: what is done with a success only.
-/

namespace Weblog

variable {ε α β γ : Type}

/-- **Two computations in a row succeed** if the first one does and then the second one. -/
theorem bind_eq_ok {x : Except ε α} {f : α → Except ε β} {b : β} :
    x >>= f = .ok b ↔ ∃ a, x = .ok a ∧ f a = .ok b := by
  cases x with
  | error e => exact ⟨fun h => absurd h (by simp [bind, Except.bind]), by simp⟩
  | ok a => simp [bind, Except.bind]

theorem bind_pure_eq_map (x : Except ε α) (f : α → β) (g : β → γ) :
    (x >>= fun a => pure (g (f a))) = (x.map f).map g := by
  cases x <;> rfl

end Weblog
