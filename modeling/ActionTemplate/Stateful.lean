/-!
# Running computations that carry a state

The cursor over a text and the lookahead over tokens are moved by computations that carry a state
and may fail. A failed computation keeps the state it had reached. Two computations in a row run the
second one from where the first one led, and fail where the first one fails.
-/

namespace ActionTemplate

namespace Stateful

variable {ε σ α β : Type}

/-- Running a computation is applying it to a state. -/
theorem run_eq (m : EStateM ε σ α) (s : σ) : m.run s = m s := rfl

/-- If the first computation succeeds, the second one runs in the state it led to. -/
theorem run_bind_of_ok {m : EStateM ε σ α} {f : α → EStateM ε σ β} {s s' : σ} {a : α}
    (h : m.run s = .ok a s') : (m >>= f).run s = (f a).run s' := by
  rw [EStateM.run_bind, h]

/-- If the first computation fails, both do. -/
theorem run_bind_of_error {m : EStateM ε σ α} {f : α → EStateM ε σ β} {s s' : σ} {e : ε}
    (h : m.run s = .error e s') : (m >>= f).run s = .error e s' := by
  rw [EStateM.run_bind, h]

/-- Applying a function to the result of a computation changes neither its states nor its
failures. -/
@[simp] theorem run_map (f : α → β) (m : EStateM ε σ α) (s : σ) :
    (f <$> m).run s = match m.run s with
      | .ok a s' => .ok (f a) s'
      | .error e s' => .error e s' := by
  rw [← bind_pure_comp, EStateM.run_bind]
  rfl

/-- If two computations in a row succeed, the first one does, and the second one from where it
led. -/
theorem exists_of_run_bind_eq_ok {m : EStateM ε σ α} {f : α → EStateM ε σ β} {s s' : σ} {b : β}
    (h : (m >>= f).run s = .ok b s') :
    ∃ a s₁, m.run s = .ok a s₁ ∧ (f a).run s₁ = .ok b s' := by
  cases hm : m.run s with
  | ok a s₁ => exact ⟨a, s₁, rfl, by rw [← h, run_bind_of_ok hm]⟩
  | error e s₁ => simp [run_bind_of_error hm] at h

end Stateful

end ActionTemplate
