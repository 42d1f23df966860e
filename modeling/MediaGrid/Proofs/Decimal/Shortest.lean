import MediaGrid.Decimal.Notation
import Mathlib.Algebra.Order.Field.Power
import Mathlib.Data.Rat.Cast.Order
import Mathlib.Tactic.Linarith
import Mathlib.Tactic.Positivity
import Mathlib.Tactic.Ring

/-!
# The decimals of doubles

The decimal that is written for a double rounds to it, has the fewest digits of all that do so, and
is as near as any with so few; this holds with either rule for ties. So the two written forms of a
double round to the same double, though they may end in different digits.

The search goes from the coarsest grid of decimals on which the double has a leading digit to finer
ones. On each it looks at the two points around the double, which is enough because the numbers that
round to a double form an interval. A decimal with so many digits has one on the grid for so many
that is not further away, so none with fewer digits is missed.
-/

namespace MediaGrid.Decimal

/-- The number that a decimal stands for. -/
def Scaled.number (s : Scaled) : ℚ := s.digits * 10 ^ s.exponent

/-- Of two decimals that are equally near to a double, whether the rule takes the first and not the
second. -/
def Tie.Takes (tie : Tie) (s t : Scaled) : Prop :=
  match tie with
  | .up => t.number < s.number
  | .toEven => t.digits % 2 = 1

theorem Tie.takes_lower {tie : Tie} {below : ℕ} {k : ℤ} (h : tie.takesUpper below = false) :
    tie.Takes ⟨below, k⟩ ⟨below + 1, k⟩ := by
  cases tie with
  | up => cases h
  | toEven =>
    have heven : ¬below % 2 = 1 := of_decide_eq_false h
    have hodd : (below + 1) % 2 = 1 := by omega
    exact hodd

theorem Tie.takes_upper {tie : Tie} {below : ℕ} {k : ℤ} (h : tie.takesUpper below = true) :
    tie.Takes ⟨below + 1, k⟩ ⟨below, k⟩ := by
  cases tie with
  | up =>
    have hunit : (0 : ℚ) < 10 ^ k := by positivity
    exact mul_lt_mul_of_pos_right (Nat.cast_lt.mpr (Nat.lt_succ_self below)) hunit
  | toEven =>
    have hodd : below % 2 = 1 := of_decide_eq_true h
    exact hodd

namespace Rounding

/-- The number that a double stands for. -/
def number (r : Rounding) : ℚ := r.value / r.den

theorem number_roundingOf (significand : ℕ) (exponent : ℤ) :
    (roundingOf significand exponent).number = significand * 2 ^ exponent := by
  have hpower : (2 : ℚ) ^ exponent * 2 ^ (2 - exponent).toNat = 4 * 2 ^ (exponent - 2).toNat := by
    rw [show (4 : ℚ) = 2 ^ (2 : ℤ) by norm_num, ← zpow_natCast, ← zpow_natCast,
      ← zpow_add₀ two_ne_zero, ← zpow_add₀ two_ne_zero]
    congr 1
    omega
  have hden : (2 : ℚ) ^ (2 - exponent).toNat ≠ 0 := by positivity
  simp only [number, roundingOf, Nat.one_shiftLeft, Nat.cast_mul, Nat.cast_pow, Nat.cast_ofNat]
  rw [div_eq_iff hden, mul_assoc (significand : ℚ), hpower]
  ring

/-- Whether a number rounds to the double. -/
def Covers (r : Rounding) (q : ℚ) : Prop :=
  if r.closed then r.low ≤ q * r.den ∧ q * r.den ≤ r.high
  else r.low < q * r.den ∧ q * r.den < r.high

/-- A decimal that rounds to the double, with the fewest digits, and as near as any with so few. -/
structure Shortest (r : Rounding) (tie : Tie) (s : Scaled) : Prop where
  /-- It rounds to the double. -/
  covers : r.Covers s.number
  /-- No decimal with fewer digits does. -/
  fewest : ∀ t : Scaled, r.Covers t.number → digitCount s.digits ≤ digitCount t.digits
  /-- None with as many digits is nearer to the double. -/
  nearest : ∀ t : Scaled, r.Covers t.number → digitCount t.digits = digitCount s.digits →
    |s.number - r.number| ≤ |t.number - r.number|
  /-- Where another with as many digits is as near, the rule for ties takes this one. -/
  ties : ∀ t : Scaled, r.Covers t.number → digitCount t.digits = digitCount s.digits →
    |s.number - r.number| = |t.number - r.number| → t.number ≠ s.number → tie.Takes s t

/-- The interval of a positive double. It is not too narrow for seventeen digits. -/
structure Proper (r : Rounding) : Prop where
  /-- The denominator. -/
  den_pos : 0 < r.den
  /-- Zero does not round to the double. -/
  low_pos : 0 < r.low
  /-- The interval reaches below the double. -/
  low_lt : r.low < r.value
  /-- The interval reaches above the double. -/
  lt_high : r.value < r.high
  /-- The interval is wider than the seventeenth digit of the double. -/
  wide : r.value < 10 ^ 16 * (r.high - r.low)

/-- The interval of a double with a significand of at most 53 bits. -/
theorem proper_roundingOf {significand : Nat} (hpos : 0 < significand)
    (hlt : significand < 2 ^ 53) (exponent : Int) : (roundingOf significand exponent).Proper := by
  obtain ⟨gap, hgap, hle, hbelow, hwide⟩ : ∃ gap, 0 < gap ∧ gap ≤ 2 ∧
      (if significand = 1 <<< 52 ∧ exponent ≠ -1074 then 1 else 2) = gap ∧
      4 * significand < 10 ^ 16 * (2 + gap) := by
    split
    · rename_i hnarrow
      exact ⟨1, by decide, by decide, rfl, by rw [hnarrow.1]; decide⟩
    · exact ⟨2, by decide, by decide, rfl, by omega⟩
  have hup : 0 < 1 <<< (exponent - 2).toNat := by
    rw [Nat.one_shiftLeft]
    exact Nat.two_pow_pos _
  have hden : 0 < 1 <<< (2 - exponent).toNat := by
    rw [Nat.one_shiftLeft]
    exact Nat.two_pow_pos _
  have hreach : 4 * significand + 2 - (4 * significand - gap) = 2 + gap := by omega
  simp only [roundingOf, hbelow]
  generalize 1 <<< (exponent - 2).toNat = up at hup
  refine ⟨hden, Nat.mul_pos (by omega) hup, Nat.mul_lt_mul_of_pos_right (by omega) hup,
    Nat.mul_lt_mul_of_pos_right (by omega) hup, ?_⟩
  dsimp only
  rw [← Nat.sub_mul, hreach, ← Nat.mul_assoc]
  exact Nat.mul_lt_mul_of_pos_right hwide hup

/-! ## The interval -/

variable {r : Rounding} {tie : Tie} {k : ℤ}

/-- What lies between two numbers that round to the double does so too. -/
theorem Covers.between {p q t : ℚ} (hp : r.Covers p) (ht : r.Covers t) (hpq : p ≤ q)
    (hqt : q ≤ t) : r.Covers q := by
  have hden : (0 : ℚ) ≤ r.den := Nat.cast_nonneg _
  have hlow := mul_le_mul_of_nonneg_right hpq hden
  have hhigh := mul_le_mul_of_nonneg_right hqt hden
  unfold Covers at hp ht ⊢
  split
  · rename_i hclosed
    rw [if_pos hclosed] at hp ht
    exact ⟨hp.1.trans hlow, hhigh.trans ht.2⟩
  · rename_i hopen
    rw [if_neg hopen] at hp ht
    exact ⟨hp.1.trans_le hlow, hhigh.trans_lt ht.2⟩

namespace Proper

variable (h : r.Proper)
include h

theorem number_mul_den : r.number * r.den = r.value :=
  div_mul_cancel₀ _ (Nat.cast_ne_zero.mpr (Nat.ne_of_gt h.den_pos))

/-- A double rounds to itself. -/
theorem covers_number : r.Covers r.number := by
  have hlow : (r.low : ℚ) < r.value := Nat.cast_lt.mpr h.low_lt
  have hhigh : (r.value : ℚ) < r.high := Nat.cast_lt.mpr h.lt_high
  unfold Covers
  rw [h.number_mul_den]
  split
  · exact ⟨hlow.le, hhigh.le⟩
  · exact ⟨hlow, hhigh⟩

end Proper

/-! ## One grid -/

/-- On a common denominator, a point of a grid and a number over the denominator of the interval. -/
theorem grid_scale (den n : ℕ) (k : ℤ) : ((n * (den * Nat.pow 10 k.toNat) : ℕ) : ℚ) =
    n * 10 ^ k * den * 10 ^ (-k).toNat := by
  have hpower : (10 : ℚ) ^ k * 10 ^ (-k).toNat = 10 ^ k.toNat := by
    rw [← zpow_natCast, ← zpow_natCast, ← zpow_add₀ (by norm_num)]
    congr 1
    omega
  have hcast : ((Nat.pow 10 k.toNat : ℕ) : ℚ) = 10 ^ k.toNat := Nat.cast_pow 10 _
  rw [Nat.cast_mul, Nat.cast_mul, hcast, ← hpower]
  ring

theorem cast_scale (a : ℕ) (k : ℤ) :
    ((a * Nat.pow 10 (-k).toNat : ℕ) : ℚ) = a * 10 ^ (-k).toNat := by
  rw [Nat.cast_mul]
  exact congrArg _ (Nat.cast_pow 10 _)

/-- Whether a point of the grid rounds to the double is decided over a common denominator. -/
theorem admits_scale_iff (n : ℕ) :
    (r.scale (Nat.pow 10 (-k).toNat)).admits (n * (r.den * Nat.pow 10 k.toNat)) = true ↔
      r.Covers (n * 10 ^ k) := by
  have hpos : (0 : ℚ) < 10 ^ (-k).toNat := by positivity
  have hle : ∀ a : ℕ, a * Nat.pow 10 (-k).toNat ≤ n * (r.den * Nat.pow 10 k.toNat) ↔
      (a : ℚ) ≤ n * 10 ^ k * r.den := fun a => by
    rw [← Nat.cast_le (α := ℚ), grid_scale, cast_scale, mul_le_mul_iff_of_pos_right hpos]
  have hge : ∀ a : ℕ, n * (r.den * Nat.pow 10 k.toNat) ≤ a * Nat.pow 10 (-k).toNat ↔
      n * 10 ^ k * r.den ≤ (a : ℚ) := fun a => by
    rw [← Nat.cast_le (α := ℚ), grid_scale, cast_scale, mul_le_mul_iff_of_pos_right hpos]
  have hlt : ∀ a : ℕ, a * Nat.pow 10 (-k).toNat < n * (r.den * Nat.pow 10 k.toNat) ↔
      (a : ℚ) < n * 10 ^ k * r.den := fun a => by rw [← Nat.not_le, hge, not_le]
  have hgt : ∀ a : ℕ, n * (r.den * Nat.pow 10 k.toNat) < a * Nat.pow 10 (-k).toNat ↔
      n * 10 ^ k * r.den < (a : ℚ) := fun a => by rw [← Nat.not_le, hle, not_le]
  cases hclosed : r.closed with
  | true =>
    simp only [admits, scale, Covers, hclosed, if_true, Bool.and_eq_true, decide_eq_true_eq, hle,
      hge]
  | false =>
    simp only [admits, scale, Covers, hclosed, Bool.false_eq_true, if_false, Bool.and_eq_true,
      decide_eq_true_eq, hlt, hgt]

/-- What is found on a grid for a double: one of the two points around it, if one of them rounds to
it, and the nearer one, or the one that the rule for ties says, if both do. -/
inductive Finds (r : Rounding) (tie : Tie) (k : ℤ) (below : ℕ) : Option Scaled → Prop where
  /-- The lower point. -/
  | lower (hcovers : r.Covers (below * 10 ^ k))
      (hnear : r.Covers ((below + 1) * 10 ^ k) → 2 * r.number ≤ (2 * below + 1) * 10 ^ k ∧
        (2 * r.number = (2 * below + 1) * 10 ^ k → tie.takesUpper below = false)) :
    Finds r tie k below (some ⟨below, k⟩)
  /-- The upper point. -/
  | upper (hcovers : r.Covers ((below + 1) * 10 ^ k))
      (hnear : r.Covers (below * 10 ^ k) → (2 * below + 1) * 10 ^ k ≤ 2 * r.number ∧
        (2 * r.number = (2 * below + 1) * 10 ^ k → tie.takesUpper below = true)) :
    Finds r tie k below (some ⟨below + 1, k⟩)
  /-- Neither. -/
  | nothing (hbelow : ¬r.Covers (below * 10 ^ k)) (habove : ¬r.Covers ((below + 1) * 10 ^ k)) :
    Finds r tie k below none

/-- Where a number lies between two points of a grid, told by quotient and rest over a common
denominator. -/
theorem between_grid_points {unit value below rest : ℕ} {step number factor : ℚ}
    (hfactor : 0 < factor) (hunit : (unit : ℚ) = step * factor)
    (hvalue : (value : ℚ) = number * factor) (hsplit : below * unit + rest = value)
    (hsmall : rest < unit) :
    below * step ≤ number ∧ number < (below + 1) * step ∧
      (unit < 2 * rest ↔ (2 * below + 1) * step < 2 * number) ∧
      (unit = 2 * rest ↔ 2 * number = (2 * below + 1) * step) := by
  have hrest : (rest : ℚ) = (number - below * step) * factor := by
    have hcast := congrArg (Nat.cast (R := ℚ)) hsplit
    push_cast at hcast
    rw [hunit, hvalue] at hcast
    linarith
  refine ⟨?_, ?_, ?_, ?_⟩
  · have hpos : (0 : ℚ) ≤ rest := Nat.cast_nonneg _
    rw [hrest] at hpos
    linarith [nonneg_of_mul_nonneg_left hpos hfactor]
  · have hlt : (rest : ℚ) < unit := Nat.cast_lt.mpr hsmall
    rw [hrest, hunit] at hlt
    linarith [lt_of_mul_lt_mul_right hlt hfactor.le]
  · rw [← Nat.cast_lt (α := ℚ), Nat.cast_mul, Nat.cast_two, hunit, hrest, ← mul_assoc,
      mul_lt_mul_iff_of_pos_right hfactor]
    constructor <;> intro hlt <;> linarith
  · rw [← Nat.cast_inj (R := ℚ), Nat.cast_mul, Nat.cast_two, hunit, hrest, ← mul_assoc,
      mul_left_inj' hfactor.ne']
    constructor <;> intro he <;> linarith

/-- On a grid, the two points around the double are looked at. -/
theorem finds_onGrid? (h : r.Proper) (tie : Tie) (k : ℤ) : ∃ below : ℕ,
    below * 10 ^ k ≤ r.number ∧ r.number < (below + 1) * 10 ^ k ∧
      r.Finds tie k below (r.onGrid? tie k) := by
  let unit := r.den * Nat.pow 10 k.toNat
  let value := r.value * Nat.pow 10 (-k).toNat
  let below := value / unit
  let rest := value - below * unit
  let lower := (r.scale (Nat.pow 10 (-k).toNat)).admits (below * unit)
  let upper := (r.scale (Nat.pow 10 (-k).toNat)).admits ((below + 1) * unit)
  let near := decide (unit < 2 * rest) || (unit == 2 * rest && tie.takesUpper below)
  have hgrid : r.onGrid? tie k = if lower && !(upper && near) then some ⟨below, k⟩
    else if upper then some ⟨below + 1, k⟩ else none := rfl
  have hlower : lower = true ↔ r.Covers (below * 10 ^ k) := admits_scale_iff below
  have hupper : upper = true ↔ r.Covers ((below + 1) * 10 ^ k) := by
    rw [← Nat.cast_succ]
    exact admits_scale_iff (below + 1)
  -- Among the numbers, the grid and the double are smaller by a common factor.
  obtain ⟨factor, hfactor, hunit, hvalue⟩ : ∃ factor : ℚ, 0 < factor ∧
      (unit : ℚ) = 10 ^ k * factor ∧ (value : ℚ) = r.number * factor := by
    refine ⟨r.den * 10 ^ (-k).toNat, mul_pos (Nat.cast_pos.mpr h.den_pos) (by positivity), ?_, ?_⟩
    · have hone := grid_scale r.den 1 k
      rwa [Nat.one_mul, Nat.cast_one, one_mul, mul_assoc] at hone
    · rw [← mul_assoc, h.number_mul_den]
      exact cast_scale r.value k
  have hsplit : below * unit + rest = value := Nat.add_sub_of_le (Nat.div_mul_le_self value unit)
  have hsmall : rest < unit := by
    have hpos : 0 < unit := Nat.mul_pos h.den_pos (Nat.pow_pos (by decide))
    have hless := Nat.lt_mul_div_succ value hpos
    rw [Nat.mul_comm, Nat.succ_mul] at hless
    exact Nat.lt_of_add_lt_add_left (hsplit.trans_lt hless)
  have hnear : near =
      (decide (unit < 2 * rest) || (unit == 2 * rest && tie.takesUpper below)) := rfl
  obtain ⟨hbelow, habove, hless, hsame⟩ :=
    between_grid_points hfactor hunit hvalue hsplit hsmall
  clear_value near lower upper rest below value unit
  refine ⟨below, hbelow, habove, ?_⟩
  rw [hgrid]
  cases lower with
  | false =>
    have hout : ¬r.Covers (below * 10 ^ k) := fun hc => Bool.false_ne_true (hlower.mpr hc)
    cases upper with
    | false => exact .nothing hout fun hc => Bool.false_ne_true (hupper.mpr hc)
    | true => exact .upper (hupper.mp rfl) fun hc => absurd hc hout
  | true =>
    cases upper with
    | false => exact .lower (hlower.mp rfl) fun hc => absurd (hupper.mpr hc) Bool.false_ne_true
    | true =>
      cases near with
      | true =>
        refine .upper (hupper.mp rfl) fun _ => ?_
        rw [eq_comm, Bool.or_eq_true, decide_eq_true_eq, Bool.and_eq_true, beq_iff_eq, hless,
          hsame] at hnear
        rcases hnear with hlt | ⟨he, htakes⟩
        · exact ⟨hlt.le, fun he => absurd he hlt.ne'⟩
        · exact ⟨he.ge, fun _ => htakes⟩
      | false =>
        refine .lower (hlower.mp rfl) fun _ => ?_
        rw [eq_comm, Bool.or_eq_false_iff, decide_eq_false_iff_not, hless, not_lt,
          Bool.and_eq_false_imp, beq_iff_eq, hsame] at hnear
        exact hnear

/-- A point of the grid that rounds to the double has one of the two points around it between
itself and the double, which then does so too. -/
theorem Proper.covers_neighbour (h : r.Proper) {below n : ℕ} (hbelow : below * 10 ^ k ≤ r.number)
    (habove : r.number < (below + 1) * 10 ^ k) (hn : r.Covers (n * 10 ^ k)) :
    n ≤ below ∧ r.Covers (below * 10 ^ k) ∨ below + 1 ≤ n ∧ r.Covers ((below + 1) * 10 ^ k) := by
  have hunit : (0 : ℚ) ≤ 10 ^ k := by positivity
  rcases Nat.lt_or_ge below n with hlt | hle
  · have hcast : (below : ℚ) + 1 ≤ n := by exact_mod_cast hlt
    exact Or.inr ⟨hlt, h.covers_number.between hn habove.le
      (mul_le_mul_of_nonneg_right hcast hunit)⟩
  · have hcast : (n : ℚ) ≤ below := Nat.cast_le.mpr hle
    exact Or.inl ⟨hle, hn.between h.covers_number (mul_le_mul_of_nonneg_right hcast hunit) hbelow⟩

/-- Where nothing is found, no point of the grid rounds to the double. -/
theorem not_covers_of_onGrid? (h : r.Proper) (hnone : r.onGrid? tie k = none) (n : ℕ) :
    ¬r.Covers (n * 10 ^ k) := by
  obtain ⟨below, hbelow, habove, hfinds⟩ := finds_onGrid? h tie k
  rw [hnone] at hfinds
  cases hfinds with
  | nothing hlower hupper =>
    intro hn
    rcases h.covers_neighbour hbelow habove hn with ⟨-, hc⟩ | ⟨-, hc⟩
    · exact hlower hc
    · exact hupper hc

/-- What is found on a grid. -/
structure OnGrid (r : Rounding) (tie : Tie) (k : ℤ) (s : Scaled) : Prop where
  /-- It stands on the grid. -/
  exponent : s.exponent = k
  /-- It rounds to the double. -/
  covers : r.Covers s.number
  /-- It is at most one step above the double. -/
  digits : ∃ below : ℕ, below * 10 ^ k ≤ r.number ∧ s.digits ≤ below + 1
  /-- No point of the grid that rounds to the double is nearer. -/
  nearest : ∀ n : ℕ, r.Covers (n * 10 ^ k) → |s.number - r.number| ≤ |n * 10 ^ k - r.number|
  /-- Where another is as near, the rule for ties takes this one. -/
  ties : ∀ n : ℕ, r.Covers (n * 10 ^ k) → |s.number - r.number| = |n * 10 ^ k - r.number| →
    n * 10 ^ k ≠ s.number → tie.Takes s ⟨n, k⟩

section

variable {below n : ℕ} (h : r.Proper) (hbelow : below * 10 ^ k ≤ r.number)
  (habove : r.number < (below + 1) * 10 ^ k) (hn : r.Covers (n * 10 ^ k))
include h hbelow habove hn

/-- Where the lower point is found, none on the grid is nearer, and as near at most the upper one,
which the rule for ties does not take. -/
theorem nearest_lower (hnear : r.Covers ((below + 1) * 10 ^ k) →
      2 * r.number ≤ (2 * below + 1) * 10 ^ k ∧
        (2 * r.number = (2 * below + 1) * 10 ^ k → tie.takesUpper below = false)) :
    |below * 10 ^ k - r.number| ≤ |n * 10 ^ k - r.number| ∧
      (|below * 10 ^ k - r.number| = |n * 10 ^ k - r.number| →
        n = below ∨ n = below + 1 ∧ tie.takesUpper below = false) := by
  have hunit : (0 : ℚ) < 10 ^ k := by positivity
  rw [abs_sub_comm (below * 10 ^ k : ℚ), abs_of_nonneg (sub_nonneg.mpr hbelow)]
  rcases h.covers_neighbour hbelow habove hn with ⟨hle, -⟩ | ⟨hle, hc⟩
  · have hcast : (n : ℚ) * 10 ^ k ≤ below * 10 ^ k :=
      mul_le_mul_of_nonneg_right (Nat.cast_le.mpr hle) hunit.le
    rw [abs_sub_comm, abs_of_nonneg (sub_nonneg.mpr (hcast.trans hbelow))]
    refine ⟨sub_le_sub_left hcast _, fun he => Or.inl ?_⟩
    exact Nat.cast_injective (mul_right_cancel₀ hunit.ne' (sub_right_injective he).symm)
  · have hcast : ((below : ℚ) + 1) * 10 ^ k ≤ n * 10 ^ k :=
      mul_le_mul_of_nonneg_right (by exact_mod_cast hle) hunit.le
    obtain ⟨hhalf, htakes⟩ := hnear hc
    rw [abs_of_nonneg (sub_nonneg.mpr (habove.le.trans hcast))]
    refine ⟨by linarith, fun he => Or.inr ⟨?_, htakes (by linarith)⟩⟩
    have hsame : (n : ℚ) * 10 ^ k = (below + 1) * 10 ^ k := by linarith
    exact_mod_cast mul_right_cancel₀ hunit.ne' hsame

/-- Where the upper point is found, none on the grid is nearer, and as near at most the lower one,
which the rule for ties does not take. -/
theorem nearest_upper (hnear : r.Covers (below * 10 ^ k) →
      (2 * below + 1) * 10 ^ k ≤ 2 * r.number ∧
        (2 * r.number = (2 * below + 1) * 10 ^ k → tie.takesUpper below = true)) :
    |(below + 1) * 10 ^ k - r.number| ≤ |n * 10 ^ k - r.number| ∧
      (|(below + 1) * 10 ^ k - r.number| = |n * 10 ^ k - r.number| →
        n = below + 1 ∨ n = below ∧ tie.takesUpper below = true) := by
  have hunit : (0 : ℚ) < 10 ^ k := by positivity
  rw [abs_of_nonneg (sub_nonneg.mpr habove.le)]
  rcases h.covers_neighbour hbelow habove hn with ⟨hle, hc⟩ | ⟨hle, -⟩
  · have hcast : (n : ℚ) * 10 ^ k ≤ below * 10 ^ k :=
      mul_le_mul_of_nonneg_right (Nat.cast_le.mpr hle) hunit.le
    obtain ⟨hhalf, htakes⟩ := hnear hc
    rw [abs_sub_comm, abs_of_nonneg (sub_nonneg.mpr (hcast.trans hbelow))]
    refine ⟨by linarith, fun he => Or.inr ⟨?_, htakes (by linarith)⟩⟩
    have hsame : (n : ℚ) * 10 ^ k = below * 10 ^ k := by linarith
    exact_mod_cast mul_right_cancel₀ hunit.ne' hsame
  · have hcast : ((below : ℚ) + 1) * 10 ^ k ≤ n * 10 ^ k :=
      mul_le_mul_of_nonneg_right (by exact_mod_cast hle) hunit.le
    rw [abs_of_nonneg (sub_nonneg.mpr (habove.le.trans hcast))]
    refine ⟨sub_le_sub_right hcast _, fun he => Or.inl ?_⟩
    have hsame : (n : ℚ) * 10 ^ k = (below + 1) * 10 ^ k := by linarith
    exact_mod_cast mul_right_cancel₀ hunit.ne' hsame

end

/-- What is found on a grid. -/
theorem onGrid?_spec (h : r.Proper) {s : Scaled} (hs : r.onGrid? tie k = some s) :
    r.OnGrid tie k s := by
  obtain ⟨below, hbelow, habove, hfinds⟩ := finds_onGrid? h tie k
  rw [hs] at hfinds
  cases hfinds with
  | lower hcovers hnear =>
    have hothers : ∀ n : ℕ, r.Covers (n * 10 ^ k) → _ := fun n hn =>
      nearest_lower h hbelow habove hn hnear
    refine ⟨rfl, hcovers, ⟨below, hbelow, Nat.le_succ below⟩, fun n hn => (hothers n hn).1,
      fun n hn he hne => ?_⟩
    rcases (hothers n hn).2 he with rfl | ⟨rfl, htakes⟩
    · exact absurd rfl hne
    · exact Tie.takes_lower htakes
  | upper hcovers hnear =>
    have hsucc : Scaled.number ⟨below + 1, k⟩ = (below + 1) * 10 ^ k := by
      rw [Scaled.number, Nat.cast_succ]
    have hothers : ∀ n : ℕ, r.Covers (n * 10 ^ k) → _ := fun n hn =>
      nearest_upper h hbelow habove hn hnear
    rw [← hsucc] at hcovers hothers
    refine ⟨rfl, hcovers, ⟨below, hbelow, Nat.le_refl _⟩, fun n hn => (hothers n hn).1,
      fun n hn he hne => ?_⟩
    rcases (hothers n hn).2 he with rfl | ⟨rfl, htakes⟩
    · exact absurd rfl hne
    · exact Tie.takes_upper htakes

end Rounding

/-! ## Digits -/

theorem digitCount_pos (n : ℕ) : 0 < digitCount n := List.length_pos_iff.mpr Nat.toDigits_ne_nil

theorem digitCount_le_iff {n count : ℕ} (hcount : 0 < count) :
    digitCount n ≤ count ↔ n < 10 ^ count :=
  Nat.length_toDigits_le_iff (by decide) hcount

theorem lt_pow_digitCount (n : ℕ) : n < 10 ^ digitCount n :=
  (digitCount_le_iff (digitCount_pos n)).mp (Nat.le_refl _)

theorem pow_digitCount_le {n : ℕ} (hn : 0 < n) : 10 ^ (digitCount n - 1) ≤ n := by
  by_cases hone : digitCount n = 1
  · rw [hone]
    exact hn
  · have hpos := digitCount_pos n
    by_contra hlt
    have hle := (digitCount_le_iff (by omega)).mpr (Nat.not_le.mp hlt)
    omega

theorem digitCount_mono {m n : ℕ} (hle : m ≤ n) : digitCount m ≤ digitCount n :=
  (digitCount_le_iff (digitCount_pos n)).mpr (Nat.lt_of_le_of_lt hle (lt_pow_digitCount n))

/-- The leading digit of a positive number stands at its leading power. -/
theorem leadingPower_spec {num den : ℕ} (hnum : 0 < num) (hden : 0 < den) :
    (10 : ℚ) ^ leadingPower num den ≤ num / den ∧
      (num : ℚ) / den < 10 ^ (leadingPower num den + 1) := by
  have hd : (0 : ℚ) < den := Nat.cast_pos.mpr hden
  have hn : (0 : ℚ) < num := Nat.cast_pos.mpr hnum
  unfold leadingPower
  split
  · rename_i hle
    have hquotient : 0 < num / den := Nat.div_pos hle hden
    have hcount := digitCount_pos (num / den)
    have hlow := pow_digitCount_le hquotient
    have hhigh := lt_pow_digitCount (num / den)
    generalize digitCount (num / den) = count at *
    obtain ⟨place, rfl⟩ : ∃ place, count = place + 1 := Nat.exists_eq_add_of_le' hcount
    rw [Nat.add_sub_cancel, Nat.le_div_iff_mul_le hden] at hlow
    rw [Nat.div_lt_iff_lt_mul hden] at hhigh
    have hexponent : ((place + 1 : ℕ) : ℤ) - 1 = (place : ℕ) := by omega
    rw [hexponent, ← Nat.cast_succ, zpow_natCast, zpow_natCast, le_div_iff₀ hd, div_lt_iff₀ hd]
    exact ⟨by exact_mod_cast hlow, by exact_mod_cast hhigh⟩
  · rename_i hlt
    have hround : (den + num - 1) / num - 1 = (den - 1) / num := by
      rw [show den + num - 1 = den - 1 + num by omega, Nat.add_div_right _ hnum]
      rfl
    have hquotient : 0 < (den - 1) / num := Nat.div_pos (by omega) hnum
    have hcount := digitCount_pos ((den - 1) / num)
    have hlow := pow_digitCount_le hquotient
    have hhigh := lt_pow_digitCount ((den - 1) / num)
    rw [hround]
    generalize digitCount ((den - 1) / num) = count at *
    obtain ⟨place, rfl⟩ : ∃ place, count = place + 1 := Nat.exists_eq_add_of_le' hcount
    rw [Nat.add_sub_cancel, Nat.le_div_iff_mul_le hnum] at hlow
    rw [Nat.div_lt_iff_lt_mul hnum] at hhigh
    have hbelow : 10 ^ place * num < den := by omega
    have habove : den ≤ 10 ^ (place + 1) * num := by omega
    have hexponent : -((place + 1 : ℕ) : ℤ) + 1 = -(place : ℕ) := by omega
    have hpower : ∀ power : ℕ, (0 : ℚ) < 10 ^ power := fun power => by positivity
    rw [hexponent, zpow_neg, zpow_neg, zpow_natCast, zpow_natCast]
    constructor
    · rw [inv_eq_one_div, div_le_div_iff₀ (hpower _) hd, one_mul, mul_comm]
      exact_mod_cast habove
    · rw [inv_eq_one_div, div_lt_div_iff₀ hd (hpower _), one_mul, mul_comm]
      exact_mod_cast hbelow

/-- Dropping trailing zeros keeps the number. -/
theorem Scaled.number_strip (fuel : ℕ) (s : Scaled) : (s.strip fuel).number = s.number := by
  induction fuel generalizing s with
  | zero => rfl
  | succ fuel ih =>
    rw [strip]
    split
    · rename_i hzero
      have hdigits : s.digits = s.digits / 10 * 10 := by omega
      rw [ih, number, number]
      conv_rhs => rw [hdigits]
      rw [zpow_add_one₀ (by norm_num), Nat.cast_mul]
      push_cast
      ring
    · rfl

/-- Dropping trailing zeros adds no digits. -/
theorem Scaled.digits_strip_le (fuel : ℕ) (s : Scaled) : (s.strip fuel).digits ≤ s.digits := by
  induction fuel generalizing s with
  | zero => exact Nat.le_refl _
  | succ fuel ih =>
    rw [strip]
    split
    · exact (ih _).trans (Nat.div_le_self _ _)
    · exact Nat.le_refl _

namespace Rounding

variable {r : Rounding} {tie : Tie} {top : ℤ}

/-- Whatever rounds to the double has a point on the grid for its number of digits that does so and
is not further away: itself, or the power of ten below the double. -/
theorem Proper.exists_grid_point (h : r.Proper) (htop : 10 ^ top ≤ r.number) {t : Scaled}
    (ht : r.Covers t.number) : ∃ n : ℕ, r.Covers (n * 10 ^ (top - (digitCount t.digits - 1 : ℕ))) ∧
      (t.number < n * 10 ^ (top - (digitCount t.digits - 1 : ℕ)) ∧
          n * 10 ^ (top - (digitCount t.digits - 1 : ℕ)) ≤ r.number ∨
        t.number = n * 10 ^ (top - (digitCount t.digits - 1 : ℕ)) ∧
          (n % 2 = 1 → t.digits % 2 = 1)) := by
  have hten : (10 : ℚ) ≠ 0 := by norm_num
  have hcount := digitCount_pos t.digits
  rcases lt_or_ge t.number (10 ^ top) with hlt | hge
  · have hpower : ((10 ^ (digitCount t.digits - 1) : ℕ) : ℚ) *
        10 ^ (top - (digitCount t.digits - 1 : ℕ)) = 10 ^ top := by
      rw [Nat.cast_pow, ← zpow_natCast, Nat.cast_ofNat, ← zpow_add₀ hten]
      congr 1
      omega
    refine ⟨10 ^ (digitCount t.digits - 1), ?_, Or.inl ?_⟩
    · rw [hpower]
      exact ht.between h.covers_number hlt.le htop
    · rw [hpower]
      exact ⟨hlt, htop⟩
  · have hreach : top - (digitCount t.digits - 1 : ℕ) ≤ t.exponent := by
      have hdigits : (t.digits : ℚ) < 10 ^ (digitCount t.digits : ℤ) := by
        rw [zpow_natCast]
        exact_mod_cast lt_pow_digitCount t.digits
      have hless : (10 : ℚ) ^ top < 10 ^ (digitCount t.digits + t.exponent) := by
        rw [zpow_add₀ hten]
        exact hge.trans_lt (mul_lt_mul_of_pos_right hdigits (by positivity))
      have hexponents := (zpow_lt_zpow_iff_right₀ (by norm_num : (1 : ℚ) < 10)).mp hless
      omega
    obtain ⟨shift, hshift⟩ := Int.le.dest hreach
    have hsame : t.number =
        ((t.digits * 10 ^ shift : ℕ) : ℚ) * 10 ^ (top - (digitCount t.digits - 1 : ℕ)) := by
      rw [Scaled.number, ← hshift, zpow_add₀ hten, zpow_natCast]
      push_cast
      ring
    refine ⟨t.digits * 10 ^ shift, hsame ▸ ht, Or.inr ⟨hsame, fun hodd => ?_⟩⟩
    exact Nat.odd_iff.mp (Nat.odd_mul.mp (Nat.odd_iff.mpr hodd)).1

/-- What lies below the double and does not round to it lies below the interval. -/
theorem Proper.le_low_of_not_covers (h : r.Proper) {q : ℚ} (hle : q ≤ r.number)
    (hout : ¬r.Covers q) : q * r.den ≤ r.low := by
  have hden : (0 : ℚ) ≤ r.den := Nat.cast_nonneg _
  have hhigh : q * r.den < r.high := (mul_le_mul_of_nonneg_right hle hden).trans_lt
    (h.number_mul_den ▸ Nat.cast_lt.mpr h.lt_high)
  by_contra hlow
  rw [not_le] at hlow
  refine hout ?_
  unfold Covers
  split
  · exact ⟨hlow.le, hhigh.le⟩
  · exact ⟨hlow, hhigh⟩

/-- What lies above the double and does not round to it lies above the interval. -/
theorem Proper.high_le_of_not_covers (h : r.Proper) {q : ℚ} (hle : r.number ≤ q)
    (hout : ¬r.Covers q) : r.high ≤ q * r.den := by
  have hden : (0 : ℚ) ≤ r.den := Nat.cast_nonneg _
  have hlow : (r.low : ℚ) < q * r.den := lt_of_lt_of_le
    (h.number_mul_den ▸ Nat.cast_lt.mpr h.low_lt) (mul_le_mul_of_nonneg_right hle hden)
  by_contra hhigh
  rw [not_le] at hhigh
  refine hout ?_
  unfold Covers
  split
  · exact ⟨hlow.le, hhigh.le⟩
  · exact ⟨hlow, hhigh⟩

/-- Seventeen digits always suffice. -/
theorem onGrid?_seventeenth (h : r.Proper) (tie : Tie) (htop : 10 ^ top ≤ r.number) :
    r.onGrid? tie (top - 16) ≠ none := by
  intro hnone
  obtain ⟨below, hbelow, habove, hfinds⟩ := finds_onGrid? h tie (top - 16)
  rw [hnone] at hfinds
  cases hfinds with
  | nothing hlower hupper =>
    have hlow := h.le_low_of_not_covers hbelow hlower
    have hhigh := h.high_le_of_not_covers habove.le hupper
    have hstep : (10 : ℚ) ^ (top - 16) * 10 ^ 16 = 10 ^ top := by
      rw [← zpow_natCast, ← zpow_add₀ (by norm_num)]
      congr 1
      omega
    have hreach : (10 : ℚ) ^ top * r.den ≤ r.value :=
      h.number_mul_den ▸ mul_le_mul_of_nonneg_right htop (Nat.cast_nonneg _)
    have hwide : (r.value : ℚ) < 10 ^ 16 * (r.high - r.low) := by
      have hle : r.low ≤ r.high := (h.low_lt.trans h.lt_high).le
      have hcast : (r.value : ℚ) < ((10 ^ 16 * (r.high - r.low) : ℕ) : ℚ) :=
        Nat.cast_lt.mpr h.wide
      rwa [Nat.cast_mul, Nat.cast_sub hle, Nat.cast_pow, Nat.cast_ofNat] at hcast
    rw [← hstep] at hreach
    linarith

/-- The search finds a decimal on the coarsest grid that has one. -/
theorem exists_found (h : r.Proper) (tie : Tie) (htop : 10 ^ top ≤ r.number) :
    ∃ (n : ℕ) (s : Scaled),
      ((List.range 17).findSome? fun i : ℕ => r.onGrid? tie (top - i)) = some s ∧
      r.onGrid? tie (top - n) = some s ∧ ∀ i < n, r.onGrid? tie (top - i) = none := by
  cases hfound : (List.range 17).findSome? fun i : ℕ => r.onGrid? tie (top - i) with
  | none =>
    have hlast := List.findSome?_eq_none_iff.mp hfound 16 (by decide)
    exact absurd hlast (onGrid?_seventeenth h tie htop)
  | some s =>
    obtain ⟨early, n, late, hrange, hs, hnone⟩ := List.findSome?_eq_some_iff.mp hfound
    refine ⟨n, s, rfl, hs, fun i hi => hnone i ?_⟩
    -- The range increases, so what is less stands in front.
    have hsorted : (early ++ n :: late).Pairwise (· < ·) := hrange ▸ List.pairwise_lt_range
    have hn : n ∈ List.range 17 := hrange ▸ List.mem_append_right early List.mem_cons_self
    have hm : i ∈ early ++ n :: late :=
      hrange ▸ List.mem_range.mpr (hi.trans (List.mem_range.mp hn))
    refine (List.mem_append.mp hm).resolve_right fun hlate => ?_
    rcases List.mem_cons.mp hlate with rfl | hlate
    · exact Nat.lt_irrefl _ hi
    · exact Nat.lt_asymm hi (List.rel_of_pairwise_cons (List.pairwise_append.mp hsorted).2.1 hlate)

/-- What is found on the grid for the next digit has no more digits than were tried, once trailing
zeros are dropped. -/
theorem OnGrid.digitCount_strip_le (h : r.Proper) (htop : r.number < 10 ^ (top + 1)) {n : ℕ}
    {s : Scaled} (hs : r.OnGrid tie (top - n) s)
    (hnone : ∀ i < n, r.onGrid? tie (top - (i : ℕ)) = none) :
    digitCount (s.strip 20).digits ≤ n + 1 := by
  have hten : (10 : ℚ) ≠ 0 := by norm_num
  obtain ⟨below, hbelow, hdigits⟩ := hs.digits
  have hpower : (10 : ℚ) ^ (top + 1) = 10 ^ (n + 1) * 10 ^ (top - n) := by
    rw [← zpow_natCast, ← zpow_add₀ hten]
    congr 1
    omega
  have hlt : below < 10 ^ (n + 1) := by
    have hunit : (0 : ℚ) < 10 ^ (top - n) := by positivity
    rw [hpower] at htop
    exact_mod_cast lt_of_mul_lt_mul_right (hbelow.trans_lt htop) hunit.le
  rcases Nat.lt_or_ge s.digits (10 ^ (n + 1)) with hfits | hfull
  · exact (digitCount_mono (s.digits_strip_le 20)).trans
      ((digitCount_le_iff (Nat.succ_pos n)).mpr hfits)
  · -- The digits are a power of ten, so the decimal stands on the coarsest grid.
    have hsame : s.digits = 10 ^ (n + 1) := by omega
    have hcoarse : r.Covers ((10 : ℕ) * 10 ^ (top - (0 : ℕ))) := by
      have hnumber : s.number = (10 : ℕ) * 10 ^ (top - (0 : ℕ)) := by
        rw [Scaled.number, hs.exponent, hsame, Nat.cast_pow, Nat.cast_ofNat, ← hpower,
          zpow_add_one₀ hten, mul_comm, Nat.cast_zero, sub_zero]
      exact hnumber ▸ hs.covers
    cases n with
    | zero =>
      obtain ⟨digits, exponent⟩ := s
      cases hsame
      have hstrip : (Scaled.strip 20 ⟨10, exponent⟩).digits = 1 := by simp [Scaled.strip]
      rw [hstrip]
      exact (digitCount_le_iff Nat.one_pos).mpr (by decide)
    | succ n => exact absurd hcoarse (not_covers_of_onGrid? h (hnone 0 (Nat.succ_pos n)) 10)

end Rounding

/-- The decimal that is chosen for a positive double is a shortest one. -/
theorem shortest_spec {significand : ℕ} (hpos : 0 < significand) (hlt : significand < 2 ^ 53)
    (exponent : ℤ) (tie : Tie) :
    (roundingOf significand exponent).Shortest tie (shortest tie significand exponent) := by
  have h := Rounding.proper_roundingOf hpos hlt exponent
  rw [shortest, if_neg hpos.ne']
  dsimp only
  generalize roundingOf significand exponent = r at h ⊢
  obtain ⟨htop, habove⟩ := leadingPower_spec (h.low_pos.trans h.low_lt) h.den_pos
  generalize leadingPower r.value r.den = top at htop habove ⊢
  obtain ⟨n, s, hfound, hs, hnone⟩ := Rounding.exists_found h tie htop
  have hgrid := Rounding.onGrid?_spec h hs
  have hcount := Rounding.OnGrid.digitCount_strip_le h habove hgrid hnone
  have hnumber := s.number_strip 20
  rw [hfound, Option.getD_some]
  -- A decimal with fewer digits would have been found on a coarser grid.
  have hfewest : ∀ t : Scaled, r.Covers t.number → n + 1 ≤ digitCount t.digits := by
    intro t ht
    obtain ⟨m, hm, -⟩ := h.exists_grid_point htop ht
    have hdigits := digitCount_pos t.digits
    by_contra hless
    exact Rounding.not_covers_of_onGrid? h (hnone (digitCount t.digits - 1) (by omega)) m hm
  have hpoint : ∀ t : Scaled, r.Covers t.number →
      digitCount t.digits = digitCount (s.strip 20).digits →
      ∃ m : ℕ, r.Covers (m * 10 ^ (top - n)) ∧
        (t.number < m * 10 ^ (top - n) ∧ m * 10 ^ (top - n) ≤ r.number ∨
          t.number = m * 10 ^ (top - n) ∧ (m % 2 = 1 → t.digits % 2 = 1)) := by
    intro t ht hsame
    have hdigits : digitCount t.digits - 1 = n := by
      have hleast := hfewest t ht
      omega
    exact hdigits ▸ h.exists_grid_point htop ht
  have hcloser : ∀ {p q : ℚ}, p < q → q ≤ r.number → |q - r.number| < |p - r.number| := by
    intro p q hpq hq
    rw [abs_sub_comm, abs_of_nonneg (sub_nonneg.mpr hq), abs_sub_comm,
      abs_of_nonneg (sub_nonneg.mpr (hpq.le.trans hq))]
    exact sub_lt_sub_left hpq _
  refine ⟨hnumber ▸ hgrid.covers, fun t ht => hcount.trans (hfewest t ht), fun t ht hsame => ?_,
    fun t ht hsame he hne => ?_⟩
  · obtain ⟨m, hm, ⟨hless, hle⟩ | ⟨ht, -⟩⟩ := hpoint t ht hsame
    · exact hnumber ▸ (hgrid.nearest m hm).trans (hcloser hless hle).le
    · rw [hnumber, ht]
      exact hgrid.nearest m hm
  · rw [hnumber] at he hne
    obtain ⟨m, hm, ⟨hless, hle⟩ | ⟨ht, hodd⟩⟩ := hpoint t ht hsame
    · exact absurd he ((hgrid.nearest m hm).trans_lt (hcloser hless hle)).ne
    · rw [ht] at he hne
      have htakes := hgrid.ties m hm he hne
      cases tie with
      | up =>
        have hup : m * 10 ^ (top - n) < s.number := htakes
        rw [← ht, ← hnumber] at hup
        exact hup
      | toEven => exact hodd htakes

/-- The significand of a double has at most 53 bits. -/
theorem significand_lt {bits : UInt64} {significand : ℕ} {exponent : ℤ}
    (h : magnitude bits = .finite significand exponent) : significand < 2 ^ 53 := by
  have hfraction : bits.toNat % (1 <<< 52) < 2 ^ 52 := Nat.mod_lt _ (by decide)
  unfold magnitude at h
  dsimp only at h
  split at h
  · split at h <;> cases h
  · split at h
    · cases h
      omega
    · cases h
      rw [show 1 <<< 52 = 2 ^ 52 by decide] at *
      omega

/-- However a positive double is written, the text is a shortest decimal of its magnitude behind its
sign. Where two are equally near, messages show the larger one, and data texts the one with the even
digit. -/
theorem written_shortest {bits : UInt64} {significand : ℕ} {exponent : ℤ}
    (h : magnitude bits = .finite significand exponent) (hpos : 0 < significand) :
    (∃ s, (roundingOf significand exponent).Shortest .up s ∧
      display bits = signed bits s.positional) ∧
    ∃ s, (roundingOf significand exponent).Shortest .toEven s ∧
      dataForm bits = signed bits s.marked := by
  have hspec := shortest_spec hpos (significand_lt h) exponent
  refine ⟨⟨_, hspec .up, ?_⟩, _, hspec .toEven, ?_⟩
  · rw [display, h]
  · rw [dataForm, h]

/-- Two decimals are equally near to this double. -/
example : display 0x4310000000000001 = "1125899906842624.3" ∧
    dataForm 0x4310000000000001 = "1125899906842624.2" := by decide +kernel

end MediaGrid.Decimal
