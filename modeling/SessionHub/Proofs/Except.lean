set_option autoImplicit false

/-! # Steps that succeed

A computation in `Except ε` gives a result exactly if each of its steps does. -/

namespace SessionHub

variable {ε α β : Type}

theorem bind_eq_ok {first : Except ε α} {next : α → Except ε β} {b : β} :
    first >>= next = .ok b ↔ ∃ a, first = .ok a ∧ next a = .ok b := by
  cases first <;> simp [bind, Except.bind]

theorem map_eq_ok {f : α → β} {value : Except ε α} {b : β} :
    f <$> value = .ok b ↔ ∃ a, value = .ok a ∧ f a = b := by
  cases value <;> simp [Functor.map, Except.map]

end SessionHub
