/-!
# Results and errors

What a computation that may fail gives is what each of its parts gives.
-/

namespace RoleLookup

variable {ε α β : Type} {r : Except ε α} {f : α → Except ε β} {a : α} {b : β}

theorem ok_of_toOption (h : r.toOption = some a) : r = .ok a := by
  cases r with
  | error => cases h
  | ok => exact congrArg Except.ok (Option.some.inj h)

theorem bind_eq_ok : r >>= f = .ok b ↔ ∃ a, r = .ok a ∧ f a = .ok b := by
  cases r with
  | error => simp [bind, Except.bind]
  | ok => simp [bind, Except.bind]

theorem map_eq_ok {g : α → β} : r.map g = .ok b ↔ ∃ a, r = .ok a ∧ g a = b := by
  cases r with
  | error => simp [Except.map]
  | ok => simp [Except.map]

theorem map_eq_error {e : ε} {g : α → β} : r.map g = .error e ↔ r = .error e := by
  cases r <;> simp [Except.map]

end RoleLookup
