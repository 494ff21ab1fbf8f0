import Mathlib.Algebra.Order.Field.Power
import Mathlib.Data.Rat.Cast.Order
import Mathlib.Tactic.FieldSimp
import Mathlib.Tactic.Linarith
import Mathlib.Tactic.Positivity
import Mathlib.Tactic.Ring
import SceneScript.Decimal.Fixed

/-
  Doubles with six decimals, told from the numbers they stand for. The bits of a
  double are a sign, an exponent and a fraction, and a finite one stands for a
  rational number (`magnitude`). Its text spells the millionths that are nearest
  to that number, the even ones between two that are equally near (`Nearest`),
  and keeps the sign also where they are none; infinity is `inf` with its sign,
  and what is not a number is `NaN` without one (`Shows`). The program writes
  this text (`shows_fixed`).
-/

namespace SceneScript.Double

/-! ## What the bits stand for -/

def exponent (bits : UInt64) : ℕ := bits.toNat / 2 ^ 52 % 2 ^ 11

def fraction (bits : UInt64) : ℕ := bits.toNat % 2 ^ 52

def sign (bits : UInt64) : String := if 2 ^ 63 ≤ bits.toNat then "-" else ""

/-- The number that a finite double stands for, its sign aside. -/
def magnitude (bits : UInt64) : ℚ :=
  if exponent bits = 0 then fraction bits * 2 ^ (-1074 : ℤ)
  else (2 ^ 52 + fraction bits) * 2 ^ ((exponent bits : ℤ) - 1075)

/-- `n` is the nearest to `x`, or of two that are equally near the even one. -/
structure Nearest (x : ℚ) (n : ℕ) : Prop where
  close : |x - n| ≤ 1 / 2
  even : |x - n| = 1 / 2 → Even n

/-- The text of a double with six decimals. -/
inductive Shows (bits : UInt64) : String → Prop where
  | notNumber (hexponent : exponent bits = 2047) (hfraction : fraction bits ≠ 0) :
    Shows bits "NaN"
  | infinite (hexponent : exponent bits = 2047) (hfraction : fraction bits = 0) :
    Shows bits (sign bits ++ "inf")
  | finite {whole : ℕ} {decimals : List Char} (hexponent : exponent bits ≠ 2047)
    (hlength : decimals.length = 6) (hdigits : ∀ d ∈ decimals, d.isDigit)
    (hnearest : Nearest (magnitude bits * 10 ^ 6)
      (whole * 10 ^ 6 + Nat.ofDigitChars 10 decimals 0)) :
    Shows bits (sign bits ++ toString whole ++ "." ++ String.ofList decimals)

/-! ## Rounding -/

theorem Nearest.of_lt {x : ℚ} {n : ℕ} (h : |x - n| < 1 / 2) : Nearest x n :=
  ⟨h.le, fun htie => absurd htie h.ne⟩

/-- A number and less than one more, rounded by comparing the rest to a half. -/
theorem nearest_add (q : ℕ) {rest : ℚ} (hleast : 0 ≤ rest) (hless : rest < 1) :
    Nearest (q + rest)
      (if rest < 1 / 2 then q
       else if 1 / 2 < rest then q + 1
       else if q % 2 = 0 then q else q + 1) := by
  split_ifs with hlow hhigh heven
  · refine .of_lt ?_
    rwa [add_sub_cancel_left, abs_of_nonneg hleast]
  · refine .of_lt ?_
    rw [Nat.cast_add_one, add_sub_add_left_eq_sub, abs_sub_comm, abs_of_pos (by linarith)]
    linarith
  · obtain rfl : rest = 1 / 2 := le_antisymm (not_lt.mp hhigh) (not_lt.mp hlow)
    refine ⟨?_, fun _ => Nat.even_iff.mpr heven⟩
    rw [add_sub_cancel_left, abs_of_nonneg hleast]
  · obtain rfl : rest = 1 / 2 := le_antisymm (not_lt.mp hhigh) (not_lt.mp hlow)
    refine ⟨?_, fun _ => Nat.even_add_one.mpr (fun h => heven (Nat.even_iff.mp h))⟩
    rw [Nat.cast_add_one, add_sub_add_left_eq_sub, abs_sub_comm, abs_of_pos (by norm_num)]
    norm_num

/-- Division with a remainder rounds to the nearest. -/
theorem nearest_roundHalfEven (num : ℕ) {den : ℕ} (h : 0 < den) :
    Nearest (num / den) (Decimal.roundHalfEven num den) := by
  have hden : (0 : ℚ) < den := by exact_mod_cast h
  have hless : ((num % den : ℕ) : ℚ) / den < 1 := by
    rw [div_lt_one hden]
    exact_mod_cast Nat.mod_lt num h
  have hvalue : (num : ℚ) / den = (num / den : ℕ) + ((num % den : ℕ) : ℚ) / den := by
    rw [div_eq_iff hden.ne', add_mul, div_mul_cancel₀ _ hden.ne', mul_comm]
    exact_mod_cast (Nat.div_add_mod num den).symm
  have hbelow : ((num % den : ℕ) : ℚ) / den < 1 / 2 ↔ 2 * (num % den) < den := by
    rw [div_lt_iff₀ hden, ← Nat.cast_lt (α := ℚ)]
    push_cast
    constructor <;> intro <;> linarith
  have habove : 1 / 2 < ((num % den : ℕ) : ℚ) / den ↔ den < 2 * (num % den) := by
    rw [lt_div_iff₀ hden, ← Nat.cast_lt (α := ℚ)]
    push_cast
    constructor <;> intro <;> linarith
  rw [hvalue]
  simp only [Decimal.roundHalfEven, ← hbelow, ← habove]
  exact nearest_add _ (by positivity) hless

theorem magnitude_eq (bits : UInt64) :
    magnitude bits =
      Decimal.significand bits * 2 ^ ((Decimal.biasedExponent bits : ℤ) - 1075) := by
  have hexponent : bits.toNat / Nat.pow 2 52 % Nat.pow 2 11 = exponent bits := rfl
  have hfraction : bits.toNat % Nat.pow 2 52 = fraction bits := rfl
  rw [magnitude, Decimal.significand, Decimal.biasedExponent, hexponent, hfraction]
  split
  case isTrue hzero =>
    rw [hzero]
    rfl
  case isFalse hne =>
    rw [Nat.max_eq_right (Nat.one_le_iff_ne_zero.mpr hne), Nat.cast_add]
    rfl

/-- A power of two as one that multiplies and one that divides. -/
theorem two_zpow_sub (n k : ℕ) :
    (2 : ℚ) ^ ((n : ℤ) - k) = (2 ^ (n - k) : ℕ) / (2 ^ (k - n) : ℕ) := by
  push_cast
  obtain h | h := le_total k n
  · rw [Nat.sub_eq_zero_of_le h, pow_zero, div_one, ← Int.natCast_sub h, zpow_natCast]
  · rw [Nat.sub_eq_zero_of_le h, pow_zero, one_div, ← neg_sub, ← Int.natCast_sub h, zpow_neg,
      zpow_natCast]

/-- The millionths that the program writes are nearest to the number. -/
theorem nearest_scaled (bits : UInt64) :
    Nearest (magnitude bits * 10 ^ 6)
      (Decimal.scaled 6 (Decimal.significand bits) (Decimal.biasedExponent bits - 1075)
        (1075 - Decimal.biasedExponent bits)) := by
  have hscaled : magnitude bits * 10 ^ 6 =
      (Decimal.significand bits * Nat.pow 2 (Decimal.biasedExponent bits - 1075) *
        Nat.pow 10 6 : ℕ) / (Nat.pow 2 (1075 - Decimal.biasedExponent bits) : ℕ) := by
    have hpower : (2 : ℚ) ^ ((Decimal.biasedExponent bits : ℤ) - 1075) =
        (2 ^ (Decimal.biasedExponent bits - 1075) : ℕ) /
          (2 ^ (1075 - Decimal.biasedExponent bits) : ℕ) :=
      two_zpow_sub (Decimal.biasedExponent bits) 1075
    rw [magnitude_eq, hpower]
    simp only [Nat.pow_eq]
    push_cast
    ring
  rw [hscaled]
  exact nearest_roundHalfEven _ (Nat.pow_pos (by decide))

/-! ## Digits -/

/-- A number of at most six digits, filled up with zeros. -/
theorem exists_decimals {n : ℕ} (h : n < 10 ^ 6) :
    ∃ decimals : List Char, padZeros 6 (toString n) = String.ofList decimals ∧
      decimals.length = 6 ∧ (∀ d ∈ decimals, d.isDigit) ∧
      Nat.ofDigitChars 10 decimals 0 = n := by
  have hlength : (Nat.toDigits 10 n).length ≤ 6 :=
    (Nat.length_toDigits_le_iff (by decide) (by decide)).mpr h
  have hshown : toString n = String.ofList (Nat.toDigits 10 n) := rfl
  refine ⟨List.replicate (6 - (Nat.toDigits 10 n).length) '0' ++ Nat.toDigits 10 n, ?_, ?_, ?_,
    ?_⟩
  · rw [padZeros, hshown, String.length_ofList, String.ofList_append]
  · rw [List.length_append, List.length_replicate]
    omega
  · intro d hd
    rcases List.mem_append.mp hd with hzero | hd
    · rw [List.eq_of_mem_replicate hzero]
      rfl
    · exact Nat.isDigit_of_mem_toDigits (by decide) (by decide) hd
  · rw [Nat.ofDigitChars_append, Nat.ofDigitChars_replicate_zero, Nat.mul_zero,
      Nat.ofDigitChars_toDigits (by decide) (by decide)]

/-- **Doubles.** The program writes a double with its six decimals. -/
theorem shows_fixed (bits : UInt64) : Shows bits (Decimal.fixed 6 bits) := by
  have hlast : bits.toNat / Nat.pow 2 63 = 1 ↔ 2 ^ 63 ≤ bits.toNat := by
    have hbits := bits.toNat_lt
    rw [Nat.pow_eq]
    omega
  have hexponent : bits.toNat / Nat.pow 2 52 % Nat.pow 2 11 = exponent bits := rfl
  have hfraction : bits.toNat % Nat.pow 2 52 = fraction bits := rfl
  simp only [Decimal.fixed, hlast, hexponent, hfraction]
  rw [← sign]
  split
  case isTrue hmost =>
    split
    case isTrue hzero => exact .infinite hmost hzero
    case isFalse hne => exact .notNumber hmost hne
  case isFalse hfinite =>
    have hnearest := nearest_scaled bits
    generalize Decimal.scaled _ _ _ _ = units at hnearest ⊢
    obtain ⟨decimals, hshown, hlength, hdigits, hvalue⟩ :=
      exists_decimals (Nat.mod_lt units (show 10 ^ 6 > 0 by decide))
    have hunits : units / 10 ^ 6 * 10 ^ 6 + Nat.ofDigitChars 10 decimals 0 = units := by
      rw [hvalue, Nat.mul_comm, Nat.div_add_mod]
    rw [Decimal.positional, Nat.pow_eq, hshown, ← String.append_assoc, ← String.append_assoc]
    exact .finite hfinite hlength hdigits (hunits.symm ▸ hnearest)

end SceneScript.Double
