import Mathlib.Data.Int.Log
import Mathlib.Tactic
import PromptDispatch.Binary64.Basic

/-!
# Rounding a ratio

The exponent at which a ratio is rounded is its binary logarithm less the
fifty-two places of the significand, or the least exponent.  So the number
nearest to a ratio depends on the ratio alone, and not on how it is written.
A magnitude that is a binary64 number is rounded to itself.
-/

namespace PromptDispatch

namespace Binary64

/-- A power of two with an integer exponent, by its two natural parts. -/
theorem zpow_eq_toNat {b : ℚ} (nonzero : b ≠ 0) (e : ℤ) :
    b ^ e = b ^ e.toNat / b ^ (-e).toNat := by
  rw [← zpow_natCast, ← zpow_natCast, ← zpow_sub₀ nonzero, Int.toNat_sub_toNat_neg]

theorem roundDiv_mul_left {k : ℕ} (positive : 0 < k) (num den : ℕ) :
    roundDiv (k * num) (k * den) = roundDiv num den := by
  have above : k * den < 2 * (k * (num % den)) ↔ den < 2 * (num % den) := by
    rw [Nat.mul_left_comm]
    exact Nat.mul_lt_mul_left positive
  have tie : 2 * (k * (num % den)) = k * den ↔ 2 * (num % den) = den := by
    rw [Nat.mul_left_comm]
    exact Nat.mul_right_inj positive.ne'
  simp only [roundDiv, Nat.mul_div_mul_left _ _ positive, Nat.mul_mod_mul_left, above, tie]

/-- A whole quotient is not rounded. -/
theorem roundDiv_mul_self {den : ℕ} (positive : 0 < den) (q : ℕ) :
    roundDiv (q * den) den = q := by
  have remainder : q * den % den = 0 := Nat.mul_mod_left q den
  simp only [roundDiv, Nat.mul_div_cancel q positive, remainder]
  exact if_neg (by omega)

theorem le_roundDiv (num den : ℕ) : num / den ≤ roundDiv num den := by
  rw [roundDiv]
  split
  · exact Nat.le_succ _
  · exact Nat.le_refl _

/-- A ratio below one half is rounded to zero. -/
theorem roundDiv_eq_zero {num den : ℕ} (small : 2 * num < den) : roundDiv num den = 0 := by
  have quotient : num / den = 0 := Nat.div_eq_of_lt (by omega)
  have remainder : num % den = num := Nat.mod_eq_of_lt (by omega)
  simp only [roundDiv, quotient, remainder]
  exact if_neg (by omega)

section

variable {num den : ℕ} (numPos : 0 < num) (denPos : 0 < den)
include numPos denPos

theorem ratio_pos : (0 : ℚ) < num / den := by
  positivity

/-- The binary logarithms of numerator and denominator enclose the ratio's. -/
theorem log_ratio_bounds :
    (num.log2 : ℤ) - den.log2 - 1 ≤ Int.log 2 ((num : ℚ) / den) ∧
      Int.log 2 ((num : ℚ) / den) ≤ (num.log2 : ℤ) - den.log2 := by
  have numLower : (2 : ℚ) ^ (num.log2 : ℤ) ≤ num := by
    rw [zpow_natCast]
    exact_mod_cast Nat.log2_self_le numPos.ne'
  have numUpper : (num : ℚ) < 2 ^ ((num.log2 : ℤ) + 1) := by
    rw [← Nat.cast_succ, zpow_natCast]
    exact_mod_cast Nat.lt_log2_self
  have denLower : (2 : ℚ) ^ (den.log2 : ℤ) ≤ den := by
    rw [zpow_natCast]
    exact_mod_cast Nat.log2_self_le denPos.ne'
  have denUpper : (den : ℚ) < 2 ^ ((den.log2 : ℤ) + 1) := by
    rw [← Nat.cast_succ, zpow_natCast]
    exact_mod_cast Nat.lt_log2_self
  have denCast : (0 : ℚ) < den := by exact_mod_cast denPos
  constructor
  · rw [← Int.zpow_le_iff_le_log (by norm_num) (ratio_pos numPos denPos), le_div_iff₀ denCast]
    calc ((2 : ℕ) : ℚ) ^ ((num.log2 : ℤ) - den.log2 - 1) * den
        ≤ 2 ^ ((num.log2 : ℤ) - den.log2 - 1) * 2 ^ ((den.log2 : ℤ) + 1) := by
          push_cast
          gcongr
      _ = 2 ^ (num.log2 : ℤ) := by
          rw [← zpow_add₀ two_ne_zero]
          congr 1
          ring
      _ ≤ num := numLower
  · rw [← Int.lt_add_one_iff,
      ← Int.lt_zpow_iff_log_lt (by norm_num) (ratio_pos numPos denPos), div_lt_iff₀ denCast]
    calc (num : ℚ) < 2 ^ ((num.log2 : ℤ) + 1) := numUpper
      _ = 2 ^ ((num.log2 : ℤ) - den.log2 + 1) * 2 ^ (den.log2 : ℤ) := by
          rw [← zpow_add₀ two_ne_zero]
          congr 1
          ring
      _ ≤ ((2 : ℕ) : ℚ) ^ ((num.log2 : ℤ) - den.log2 + 1) * den := by
          push_cast
          gcongr

omit numPos in
/-- The quotient by a power of two reaches another one exactly when the ratio
reaches their product. -/
theorem two_pow_le_quotient_iff (e : ℤ) (places : ℕ) :
    2 ^ places ≤ num * 2 ^ (-e).toNat / (den * 2 ^ e.toNat) ↔
      (2 : ℚ) ^ (e + places) ≤ num / den := by
  have denCast : (0 : ℚ) < den := by exact_mod_cast denPos
  have negPos : (0 : ℚ) < 2 ^ (-e).toNat := by positivity
  have casts : 2 ^ places * (den * 2 ^ e.toNat) ≤ num * 2 ^ (-e).toNat ↔
      (2 : ℚ) ^ places * (den * 2 ^ e.toNat) ≤ num * 2 ^ (-e).toNat := by
    exact_mod_cast Iff.rfl
  rw [Nat.le_div_iff_mul_le (by positivity), casts, le_div_iff₀ denCast,
    zpow_add₀ two_ne_zero, zpow_natCast, zpow_eq_toNat two_ne_zero e, div_mul_eq_mul_div,
    div_mul_eq_mul_div, div_le_iff₀ negPos]
  constructor
  · intro reached
    linarith
  · intro reached
    linarith

/-- The rounding exponent by the ratio's binary logarithm. -/
theorem roundingExponent_eq :
    roundingExponent num den = max (-1074) (Int.log 2 ((num : ℚ) / den) - 52) := by
  rcases log_ratio_bounds numPos denPos with ⟨lower, upper⟩
  have reached (e : ℤ) : 2 ^ 53 ≤ num * 2 ^ (-e).toNat / (den * 2 ^ e.toNat) ↔
      e + 53 ≤ Int.log 2 ((num : ℚ) / den) := by
    rw [two_pow_le_quotient_iff denPos e 53]
    exact_mod_cast Int.zpow_le_iff_le_log (b := 2) (by norm_num) (ratio_pos numPos denPos)
  simp only [roundingExponent, Nat.pow_eq, reached]
  split <;> omega

/-- The nearest number does not change when a ratio is expanded. -/
theorem ofRatio_mul_left {k : ℕ} (positive : 0 < k) (negative : Bool) :
    ofRatio negative (k * num) (k * den) = ofRatio negative num den := by
  have kCast : (k : ℚ) ≠ 0 := by exact_mod_cast positive.ne'
  have sameRatio : ((k * num : ℕ) : ℚ) / ((k * den : ℕ) : ℚ) = num / den := by
    push_cast
    exact mul_div_mul_left _ _ kCast
  have sameExponent : roundingExponent (k * num) (k * den) = roundingExponent num den := by
    rw [roundingExponent_eq (Nat.mul_pos positive numPos) (Nat.mul_pos positive denPos),
      roundingExponent_eq numPos denPos, sameRatio]
  have expandedPos : k * num ≠ 0 := (Nat.mul_pos positive numPos).ne'
  simp only [ofRatio, if_neg expandedPos, if_neg numPos.ne', sameExponent, Nat.pow_eq,
    Nat.mul_assoc, roundDiv_mul_left positive]

end

/-- The nearest number depends on the ratio alone. -/
theorem ofRatio_congr {num den num' den' : ℕ} (numPos : 0 < num) (denPos : 0 < den)
    (numPos' : 0 < num') (denPos' : 0 < den') (same : (num : ℚ) / den = num' / den')
    (negative : Bool) : ofRatio negative num den = ofRatio negative num' den' := by
  have denCast : (den : ℚ) ≠ 0 := by exact_mod_cast denPos.ne'
  have denCast' : (den' : ℚ) ≠ 0 := by exact_mod_cast denPos'.ne'
  rw [div_eq_div_iff denCast denCast'] at same
  have products : num * den' = num' * den := by exact_mod_cast same
  calc ofRatio negative num den
      = ofRatio negative (den' * num) (den' * den) :=
        (ofRatio_mul_left numPos denPos denPos' negative).symm
    _ = ofRatio negative (den * num') (den * den') := by
        rw [Nat.mul_comm den' num, products, Nat.mul_comm num' den, Nat.mul_comm den' den]
    _ = ofRatio negative num' den' := ofRatio_mul_left numPos' denPos' denPos negative

/-! ## Numbers that are represented -/

theorem units_ratio (m k bias : ℕ) :
    ((m * 2 ^ k : ℕ) : ℚ) / ((2 ^ bias : ℕ) : ℚ) = m * 2 ^ ((k : ℤ) - bias) := by
  rw [zpow_sub₀ two_ne_zero, zpow_natCast, zpow_natCast, ← mul_div_assoc]
  push_cast
  rfl

/-- The exponent of a significand is its own: the significand has all places, or
the exponent is the least one. -/
theorem roundingExponent_units {m k bias : ℕ} (isBias : bias = 1074) (positive : 0 < m)
    (upper : m < 2 ^ 53) (lower : k = 0 ∨ 2 ^ 52 ≤ m) :
    roundingExponent (m * 2 ^ k) (2 ^ bias) = (k : ℤ) - bias := by
  have mPos : (0 : ℚ) < m := by exact_mod_cast positive
  have ratioPos : (0 : ℚ) < m * 2 ^ ((k : ℤ) - bias) := by positivity
  have below : Int.log 2 ((m : ℚ) * 2 ^ ((k : ℤ) - bias)) < 53 + ((k : ℤ) - bias) := by
    rw [← Int.lt_zpow_iff_log_lt (by norm_num) ratioPos, Nat.cast_ofNat,
      zpow_add₀ two_ne_zero]
    have : (m : ℚ) < 2 ^ (53 : ℤ) := by exact_mod_cast upper
    gcongr
  rw [roundingExponent_eq (by positivity) (by positivity), units_ratio]
  rcases lower with rfl | allPlaces
  · omega
  · have above : 52 + ((k : ℤ) - bias) ≤ Int.log 2 ((m : ℚ) * 2 ^ ((k : ℤ) - bias)) := by
      rw [← Int.zpow_le_iff_le_log (by norm_num) ratioPos, Nat.cast_ofNat,
        zpow_add₀ two_ne_zero]
      have : (2 : ℚ) ^ (52 : ℤ) ≤ m := by exact_mod_cast allPlaces
      gcongr
    omega

/-- A significand at its exponent is rounded to the rank that it has. -/
theorem ofRatio_units {m k bias : ℕ} (isBias : bias = 1074) (positive : 0 < m)
    (upper : m < 2 ^ 53) (lower : k = 0 ∨ 2 ^ 52 ≤ m) (negative : Bool) :
    ofRatio negative (m * 2 ^ k) (2 ^ bias) = ofRank negative (k * 2 ^ 52 + m) := by
  have nonzero : m * 2 ^ k ≠ 0 := by positivity
  have sameScale : 2 ^ bias * 2 ^ ((k : ℤ) - bias).toNat =
      2 ^ k * 2 ^ (-((k : ℤ) - bias)).toNat := by
    rw [← Nat.pow_add, ← Nat.pow_add]
    congr 1
    omega
  have exact : roundDiv (m * 2 ^ k * 2 ^ (-((k : ℤ) - bias)).toNat)
      (2 ^ bias * 2 ^ ((k : ℤ) - bias).toNat) = m := by
    rw [sameScale, Nat.mul_assoc]
    exact roundDiv_mul_self (by positivity) m
  have rankExponent : ((k : ℤ) - bias + 1074).toNat = k := by omega
  simp only [ofRatio, if_neg nonzero, roundingExponent_units isBias positive upper lower,
    Nat.pow_eq, exact, rankExponent]

/-- Every finite magnitude is the number nearest to itself. -/
theorem ofRatio_rankUnits {bias : ℕ} (isBias : bias = 1074) {rank : Fin magnitudes}
    (nonzero : rank.val ≠ 0) (negative : Bool) :
    ofRatio negative (rankUnits rank) (2 ^ bias) = .finite negative rank := by
  have isRank : ofRank negative rank.val = .finite negative rank := by
    rw [ofRank, dif_pos rank.isLt]
  have split := Nat.div_add_mod rank.val (2 ^ 52)
  have rest := Nat.mod_lt rank.val (show 0 < 2 ^ 52 by positivity)
  rw [rankUnits]
  simp only [Nat.pow_eq]
  by_cases least : rank.val / 2 ^ 52 = 0
  · rw [if_pos least]
    have whole : rank.val % 2 ^ 52 = rank.val := by omega
    have rounded := ofRatio_units isBias (m := rank.val) (k := 0) (by omega) (by omega)
      (.inl rfl) negative
    rw [whole]
    simpa [isRank] using rounded
  · rw [if_neg least, ofRatio_units isBias (by omega) (by omega) (.inr (by omega)) negative,
      ← isRank]
    congr 1
    omega

/-! ## The range of finite numbers -/

section

variable {num den : ℕ} (numPos : 0 < num) (denPos : 0 < den)
include numPos denPos

/-- A ratio that is rounded to a finite number is below the least power of two
that is none. -/
theorem ratio_lt_of_finite {negative sign : Bool} {rank : Fin magnitudes}
    (finite : ofRatio negative num den = .finite sign rank) :
    (num : ℚ) / den < 2 ^ (1024 : ℤ) := by
  by_contra! large
  have logLarge : 1024 ≤ Int.log 2 ((num : ℚ) / den) := by
    rw [← Int.zpow_le_iff_le_log (by norm_num) (ratio_pos numPos denPos), Nat.cast_ofNat]
    exact large
  have exponent : roundingExponent num den = Int.log 2 ((num : ℚ) / den) - 52 := by
    rw [roundingExponent_eq numPos denPos]
    omega
  have allPlaces := (two_pow_le_quotient_iff denPos (roundingExponent num den) 52).mpr (by
    rw [exponent]
    simpa using Int.zpow_log_le_self (b := 2) (by norm_num) (ratio_pos numPos denPos))
  have significand := Nat.le_trans allPlaces (le_roundDiv _ _)
  simp only [ofRatio, if_neg numPos.ne', Nat.pow_eq] at finite
  rw [ofRank, dif_neg] at finite
  · simp at finite
  · simp only [magnitudes, Nat.pow_eq]
    omega

/-- A ratio that is not rounded to zero is not far below the least number. -/
theorem lt_ratio_of_nonzero {negative sign : Bool} {rank : Fin magnitudes}
    (nonzero : rank.val ≠ 0) (finite : ofRatio negative num den = .finite sign rank) :
    (2 : ℚ) ^ (-1076 : ℤ) ≤ num / den := by
  by_contra! small
  have logSmall : Int.log 2 ((num : ℚ) / den) < -1076 := by
    rw [← Int.lt_zpow_iff_log_lt (by norm_num) (ratio_pos numPos denPos), Nat.cast_ofNat]
    exact small
  have exponent : roundingExponent num den = -1074 := by
    rw [roundingExponent_eq numPos denPos]
    omega
  simp only [ofRatio, if_neg numPos.ne', Nat.pow_eq] at finite
  generalize roundingExponent num den = e at exponent finite
  have belowHalf : ¬ 2 ^ 0 ≤ 2 * num * 2 ^ (-e).toNat / (den * 2 ^ e.toNat) := by
    rw [two_pow_le_quotient_iff denPos e 0, not_le]
    calc ((2 * num : ℕ) : ℚ) / den = 2 * (num / den) := by
          push_cast
          ring
      _ < 2 * 2 ^ (-1076 : ℤ) := by gcongr
      _ = 2 ^ (-1075 : ℤ) := by rw [← zpow_one_add₀ two_ne_zero]; norm_num
      _ ≤ 2 ^ (e + (0 : ℕ)) := by
          apply zpow_le_zpow_right₀ (by norm_num)
          omega
  have zero : roundDiv (num * 2 ^ (-e).toNat) (den * 2 ^ e.toNat) = 0 := by
    apply roundDiv_eq_zero
    rw [Nat.pow_zero, not_le, Nat.div_lt_one_iff (by positivity), Nat.mul_assoc] at belowHalf
    exact belowHalf
  have leastExponent : (e + 1074).toNat = 0 := by omega
  rw [zero, leastExponent, ofRank] at finite
  split at finite
  · obtain ⟨-, rfl⟩ := by simpa using finite
    exact nonzero rfl
  · simp at finite

end

end Binary64

end PromptDispatch
