import Mathlib.Algebra.Group.Nat.Defs
import MediaGrid.Text.Blank
import MediaGrid.Text.Digit

/-!
# Digits read back

A number that is written in decimal digits, with any zeros in front of them, is the number that
the digits stand for. A number that is written in hexadecimal digits is read back if it fits into
their count, and is cut off at the front if it does not.
-/

namespace MediaGrid.Text

/-! ## Decimal digits -/

theorem isDigit_iff {c : Char} : isDigit c = true ↔ c.isDigit = true := by
  simp only [isDigit, Char.isDigit, Bool.and_eq_true, decide_eq_true_eq]
  rfl

/-- Digits are not blank. -/
theorem isBlank_of_isDigit {c : Char} (h : isDigit c = true) : isBlank c = false := by
  simp only [isDigit, Bool.and_eq_true, decide_eq_true_eq] at h
  have hlow : 48 ≤ c.toNat := h.1
  have hhigh : c.toNat ≤ 57 := h.2
  simp only [isBlank, Bool.or_eq_false_iff, Bool.and_eq_false_iff, decide_eq_false_iff_not,
    beq_eq_false_iff_ne]
  omega

theorem isDigit_of_mem_toDigits {n : Nat} {c : Char} (h : c ∈ Nat.toDigits 10 n) :
    isDigit c = true :=
  isDigit_iff.mpr (Nat.isDigit_of_mem_toDigits (by decide) (by decide) h)

/-- Zeros in front do not change a number. -/
theorem numeral_replicate_append (count n : Nat) :
    numeral (List.replicate count '0' ++ Nat.toDigits 10 n) = n := by
  have hfold : ∀ digits, numeral digits = Nat.ofDigitChars 10 digits 0 := fun _ => rfl
  rw [hfold, Nat.ofDigitChars_append, Nat.ofDigitChars_replicate_zero, Nat.mul_zero,
    Nat.ofDigitChars_ten_toDigits]

/-! ## Hexadecimal digits -/

/-- The last digit comes on top. -/
theorem hexNumeral?_concat (digits : List Char) (last : Char) :
    hexNumeral? (digits ++ [last]) =
      (hexNumeral? digits).bind fun n => (hexValue? last).map fun d => n * 16 + d := by
  rw [hexNumeral?, List.foldl_append, ← hexNumeral?]
  cases hexNumeral? digits with
  | none => rfl
  | some n => cases h : hexValue? last <;> simp [h]

/-- What is read back of a number is what fits into the digits. -/
theorem hexNumeral?_hexDigits (count n : Nat) :
    hexNumeral? (hexDigits count n) = some (n % 16 ^ count) := by
  induction count generalizing n with
  | zero => rw [Nat.pow_zero, Nat.mod_one]; rfl
  | succ count ih =>
    have hlast : n % 16 < 16 := Nat.mod_lt n (by decide)
    have hvalue : n / 16 % 16 ^ count * 16 + n % 16 = n % 16 ^ (count + 1) := by
      rw [Nat.pow_succ', Nat.mod_mul]
      omega
    rw [hexDigits, hexNumeral?_concat, ih, hexValue?_hexDigitLower hlast, Option.bind_some,
      Option.map_some, hvalue]

theorem exists_of_mem_hexDigits {count n : Nat} {c : Char} (h : c ∈ hexDigits count n) :
    ∃ d < 16, c = hexDigitLower d := by
  induction count generalizing n with
  | zero => cases h
  | succ count ih =>
    rcases List.mem_append.mp h with hm | hm
    · exact ih hm
    · exact ⟨n % 16, Nat.mod_lt n (by decide), List.mem_singleton.mp hm⟩

end MediaGrid.Text
