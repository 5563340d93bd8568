/-!
# Sequences of checks

A validator is a chain of results in `Except`, and what it accepts passed
every one of them. The two lemmas take such a chain apart from the front.
-/

namespace FlanForge

theorem ok_bind {ε α β : Type} (a : α) (f : α → Except ε β) : (Except.ok a >>= f) = f a := rfl

theorem bind_eq_ok {ε α β : Type} {x : Except ε α} {f : α → Except ε β} {b : β} :
    (x >>= f) = .ok b ↔ ∃ a, x = .ok a ∧ f a = .ok b := by
  cases x with
  | error e => simp [bind, Except.bind]
  | ok a => simp [ok_bind]

end FlanForge
