import Mathlib.Data.List.Basic

/-!
# Decimal digits in texts

Numbers written in decimal digits, and the scan that takes the digits off the front of a text.
-/

namespace Decimal

/-- A number is written in digits. -/
theorem isDigit_toDigits (n : Nat) : ∀ c ∈ Nat.toDigits 10 n, c.isDigit = true :=
  fun _ member => Nat.isDigit_of_mem_toDigits (by decide) (by decide) member

/-- Digits are ASCII. -/
theorem ascii_of_isDigit {c : Char} (digit : c.isDigit = true) : c.toNat < 128 := by
  have bounds := Char.isDigit_iff_toNat.mp digit
  have zero : '0'.toNat = 48 := rfl
  have nine : '9'.toNat = 57 := rfl
  omega

/-- Digits end where something else begins. -/
theorem takeWhile_digits {taken : List Char} (rest : List Char)
    (all : ∀ c ∈ taken, c.isDigit = true)
    (stop : rest.head?.all (!·.isDigit) = true) :
    (taken ++ rest).takeWhile Char.isDigit = taken ∧
      (taken ++ rest).dropWhile Char.isDigit = rest := by
  rw [List.takeWhile_append_of_pos all, List.dropWhile_append_of_pos all]
  cases rest with
  | nil => simp
  | cons c rest =>
    have other : c.isDigit = false := by simpa using stop
    simp [other]

end Decimal
