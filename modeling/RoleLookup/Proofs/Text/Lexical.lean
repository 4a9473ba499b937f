import Mathlib.Data.List.Basic
import RoleLookup.Text.Digits

/-!
# Runs of characters and hexadecimal digits

* `takeWhile_run`, `dropWhile_run`, a run ends where something else starts;
* `IsHexDigit`, a digit of either case and its value, with `IsHexDigit.of_forall`: what holds of
  the digits in the two tables holds of every digit;
* `IsHexDigit.hexDigit?_eq_some`, `IsHexDigit.value_inj`, a digit is read as its value, which is
  its only one;
* `isHexDigit_digitChar`, every number below sixteen has a digit.
-/

namespace RoleLookup.Text

/-! ### Runs -/

section Run

variable {α : Type} {p : α → Bool} {xs rest : List α}

theorem takeWhile_run (hxs : ∀ x ∈ xs, p x = true) (hrest : ∀ x ∈ rest.head?, p x = false) :
    (xs ++ rest).takeWhile p = xs := by
  rw [List.takeWhile_append_of_pos hxs]
  cases rest with
  | nil => exact List.append_nil xs
  | cons x rest => simp [hrest x rfl]

theorem dropWhile_run (hxs : ∀ x ∈ xs, p x = true) (hrest : ∀ x ∈ rest.head?, p x = false) :
    (xs ++ rest).dropWhile p = rest := by
  rw [List.dropWhile_append_of_pos hxs]
  cases rest with
  | nil => rfl
  | cons x rest => exact List.dropWhile_cons_of_neg (by simp [hrest x rfl])

end Run

/-! ### Digits -/

def lowerDigits : List Char :=
  ['0', '1', '2', '3', '4', '5', '6', '7', '8', '9', 'a', 'b', 'c', 'd', 'e', 'f']

def upperDigits : List Char :=
  ['0', '1', '2', '3', '4', '5', '6', '7', '8', '9', 'A', 'B', 'C', 'D', 'E', 'F']

/-- A hexadecimal digit of either case, and its value. -/
def IsHexDigit (c : Char) (n : Nat) : Prop := lowerDigits[n]? = some c ∨ upperDigits[n]? = some c

namespace IsHexDigit

variable {c : Char} {n m : Nat}

theorem of_forall {P : Char → Nat → Prop}
    (h : ∀ d ∈ lowerDigits.zipIdx ++ upperDigits.zipIdx, P d.1 d.2) (hc : IsHexDigit c n) :
    P c n := by
  refine h (c, n) (List.mem_append.2 ?_)
  rw [List.mem_zipIdx_iff_getElem?, List.mem_zipIdx_iff_getElem?]
  exact hc

theorem hexDigit?_eq_some (h : IsHexDigit c n) : hexDigit? c = some n :=
  of_forall (P := fun c n => hexDigit? c = some n) (by decide) h

theorem value_inj (h : IsHexDigit c n) (h' : IsHexDigit c m) : n = m :=
  Option.some_inj.1 (h.hexDigit?_eq_some.symm.trans h'.hexDigit?_eq_some)

theorem val_lt (h : IsHexDigit c n) : c.val < 0x80 :=
  of_forall (P := fun c _ => c.val < 0x80) (by decide) h

end IsHexDigit

theorem isHexDigit_digitChar {n : Nat} (h : n < 16) : IsHexDigit (Nat.digitChar n) n :=
  .inl ((by decide : ∀ n < 16, lowerDigits[n]? = some (Nat.digitChar n)) n h)

end RoleLookup.Text
