import Mathlib.Data.List.Basic
import RoleLookup.Text.Digits

/-!
# Numerals

A number that is written in decimal digits is read as itself.

* `isDigit_of_mem_toString`, `toString_ne_nil`, `head?_toString_ne`, what a numeral is made of;
* `decimal_toString`, its value.
-/

namespace RoleLookup.Text

theorem toList_toString (n : Nat) : (toString n).toList = Nat.toDigits 10 n := by
  simp [toString, Nat.repr]

theorem isDigit_of_mem_toString {n : Nat} {c : Char} (h : c ∈ (toString n).toList) :
    c.isDigit = true := by
  rw [toList_toString] at h
  exact Nat.isDigit_of_mem_toDigits (by decide) (by decide) h

theorem toString_ne_nil (n : Nat) : (toString n).toList ≠ [] := by
  rw [toList_toString]
  exact Nat.toDigits_ne_nil

/-- Only the numeral of zero begins with a zero. -/
theorem head?_toString_ne {n : Nat} (h : 0 < n) : (toString n).toList.head? ≠ some '0' := by
  rw [toList_toString]
  induction n using Nat.strongRecOn with
  | ind n ih =>
    by_cases hn : n < 10
    · rw [Nat.toDigits_of_lt_base hn, List.head?_singleton, ne_eq, Option.some.injEq,
        Nat.digitChar_eq_zero]
      omega
    · rw [Nat.toDigits_of_base_le (by decide) (by omega),
        List.head?_append_of_ne_nil _ Nat.toDigits_ne_nil]
      exact ih (n / 10) (by omega) (by omega)

theorem hexDigit?_of_isDigit {c : Char} (h : c.isDigit = true) :
    hexDigit? c = some (c.toNat - '0'.toNat) := by
  have hrange : '0' ≤ c ∧ c ≤ '9' := by simpa [Char.isDigit, Char.le_def] using h
  simp [hexDigit?, hrange]

theorem decimal_eq_ofDigitChars {ds : List Char} (h : ∀ c ∈ ds, c.isDigit = true) :
    decimal ds = Nat.ofDigitChars 10 ds 0 := by
  rw [Nat.ofDigitChars_eq_foldl, decimal, numberIn]
  refine List.foldl_ext _ _ 0 fun n c hc => ?_
  rw [hexDigit?_of_isDigit (h c hc), Option.getD_some, Nat.mul_comm]

/-- A numeral is read as the number that it writes. -/
theorem decimal_toString (n : Nat) : decimal (toString n).toList = n := by
  rw [decimal_eq_ofDigitChars fun _ => isDigit_of_mem_toString, toList_toString]
  exact Nat.ofDigitChars_toDigits (by decide) (by decide)

end RoleLookup.Text
