import Mathlib.Data.List.Basic
import Mathlib.Data.List.TakeDrop
import PageCapture.Text

/-!
# Digits that are written

What a reader meets in a numeral that the program has written. A decimal numeral consists of digits
(`Decimal.isDigit_of_mem`), it has no zero in front (`Decimal.head?_digits_ne`) and it ends where
the next character is no digit (`Decimal.span_digits`). Four digits of base sixteen name the code of
a character below U+0100 (`Hexadecimal.value?_code`).
-/

set_option autoImplicit false
set_option relaxedAutoImplicit false

namespace PageCapture

/-- The front of a text with a property ends where a character without it follows. -/
theorem span_append {holds : Char → Bool} {front rest : List Char}
    (hfront : ∀ c ∈ front, holds c = true) (hrest : ∀ c ∈ rest.head?, holds c = false) :
    (front ++ rest).span holds = (front, rest) := by
  rw [List.span_eq_takeWhile_dropWhile, List.takeWhile_append_of_pos hfront,
    List.dropWhile_append_of_pos hfront]
  rcases rest with _ | ⟨c, rest⟩
  · simp
  · have hc : holds c = false := hrest c rfl
    simp [hc]

/-- A character with a property is none of the characters without it. -/
theorem ne_of_holds {holds : Char → Bool} {c other : Char} (hc : holds c = true)
    (hother : holds other = false) : c ≠ other := by
  rintro rfl
  rw [hc] at hother
  cases hother

namespace Decimal

theorem isDigit_of_mem {n : Nat} {c : Char} (hc : c ∈ digits n) : c.isDigit = true :=
  Nat.isDigit_of_mem_toDigits (by decide) (by decide) hc

theorem digits_ne_nil (n : Nat) : digits n ≠ [] :=
  Nat.toDigits_ne_nil

/-- A numeral is its first digit and the digits behind it. -/
theorem exists_digits_eq_cons (n : Nat) : ∃ c cs, digits n = c :: cs ∧ c.isDigit = true := by
  obtain ⟨c, cs, hdigits⟩ := List.exists_cons_of_ne_nil (digits_ne_nil n)
  exact ⟨c, cs, hdigits, isDigit_of_mem (n := n) (hdigits ▸ List.mem_cons_self)⟩

/-- A number that is not zero has no zero in front. -/
theorem head?_digits_ne {n : Nat} (hn : n ≠ 0) : (digits n).head? ≠ some '0' := by
  induction n using Nat.strongRecOn with
  | ind n ih =>
    unfold digits at ih ⊢
    by_cases hsmall : n < 10
    · rw [Nat.toDigits_of_lt_base hsmall, List.head?_cons, ne_eq, Option.some.injEq]
      have hall : ∀ k : Fin 10, k.val ≠ 0 → Nat.digitChar k.val ≠ '0' := by decide
      exact hall ⟨n, hsmall⟩ hn
    · rw [Nat.toDigits_of_base_le (by decide) (by omega),
        List.head?_append_of_ne_nil _ Nat.toDigits_ne_nil]
      exact ih (n / 10) (by omega) (by omega)

/-- A character of the numeral of an integer. -/
def isNumeralCharacter (c : Char) : Bool := c = '-' || c.isDigit

/-- The numeral of an integer is a first character and those behind it. -/
theorem exists_characters_eq_cons (n : Int) :
    ∃ c cs, characters n = c :: cs ∧ isNumeralCharacter c = true := by
  rcases n with n | n
  · obtain ⟨c, cs, hdigits, hc⟩ := exists_digits_eq_cons n
    exact ⟨c, cs, hdigits, by rw [isNumeralCharacter, hc, Bool.or_true]⟩
  · exact ⟨'-', digits (n + 1), rfl, rfl⟩

/-- The digits of a numeral end where something else than a digit follows. -/
theorem span_digits (n : Nat) {rest : List Char} (hrest : ∀ c ∈ rest.head?, c.isDigit = false) :
    (digits n ++ rest).span Char.isDigit = (digits n, rest) :=
  span_append (fun _ ↦ isDigit_of_mem) hrest

end Decimal

namespace Hexadecimal

/-- A digit that is written is read as the number it was written for. -/
theorem digitValue?_digit (n : Nat) : digitValue? (digit n) = some (n % 16) := by
  have hall : ∀ k : Fin 16, digitValue? (Nat.digitChar k.val) = some k.val := by decide
  exact hall ⟨n % 16, Nat.mod_lt n (by decide)⟩

/-- The four digits of a code with two zeros in front. -/
theorem value?_code {n : Nat} (hn : n < 256) :
    value? ['0', '0', digit (n / 16), digit n] = some n := by
  have hzero : digitValue? '0' = some 0 := rfl
  have hcode : 16 * (n / 16 % 16) + n % 16 = n := by omega
  simp [value?, hzero, digitValue?_digit, hcode]

end Hexadecimal

end PageCapture
