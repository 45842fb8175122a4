import PromptDispatch.Proofs.Binary64.Rounding

/-!
# The range of rounding

A ratio is rounded to a finite number as long as it is nearer to the largest finite
number than to the power of two beyond it.  The number that it is rounded to then
differs from it by at most half a unit in the last place.
-/

namespace PromptDispatch

namespace Binary64

/-! ## Rounded quotients -/

theorem roundDiv_le_succ (num den : ℕ) : roundDiv num den ≤ num / den + 1 := by
  rw [roundDiv]
  split <;> omega

section

variable (num : ℕ) {den : ℕ} (denPos : 0 < den)
include denPos

/-- A quotient is rounded by one half at most. -/
theorem roundDiv_error : 2 * num ≤ 2 * (roundDiv num den * den) + den ∧
    2 * (roundDiv num den * den) ≤ 2 * num + den := by
  have divided := Nat.div_add_mod num den
  have remainder := Nat.mod_lt num denPos
  rw [Nat.mul_comm] at divided
  rw [roundDiv]
  split
  · next up =>
    rw [Nat.add_mul]
    omega
  · next down => omega

/-- A quotient is rounded to an even number or beyond exactly when it is not nearer to
the number before. -/
theorem le_roundDiv_iff_of_even {k : ℕ} (even : k % 2 = 0) (positive : 0 < k) :
    k ≤ roundDiv num den ↔ 2 * (k * den) ≤ 2 * num + den := by
  have divided := Nat.div_add_mod num den
  have remainder := Nat.mod_lt num denPos
  rw [Nat.mul_comm] at divided
  rcases Nat.lt_trichotomy k (num / den + 1) with below | rfl | above
  · have reached : k * den ≤ num / den * den := Nat.mul_le_mul_right den (Nat.le_of_lt_succ below)
    have rounded := le_roundDiv num den
    constructor <;> omega
  · rw [Nat.add_mul, roundDiv]
    split
    · next up => constructor <;> omega
    · next down => constructor <;> omega
  · have missed : (num / den + 2) * den ≤ k * den := Nat.mul_le_mul_right den above
    rw [Nat.add_mul] at missed
    have rounded := roundDiv_le_succ num den
    constructor <;> omega

end

/-- The least whole number that is rounded to an infinity. -/
@[irreducible]
def leastBeyond : ℕ := (2 ^ 54 - 1) * 2 ^ 970

theorem leastBeyond_eq : leastBeyond = (2 ^ 54 - 1) * 2 ^ 970 := by
  unfold leastBeyond
  rfl

theorem leastBeyond_pos : 0 < leastBeyond := by
  unfold leastBeyond
  positivity

/-! ## Significands -/

section

variable {num den : ℕ} (numPos : 0 < num) (denPos : 0 < den)
include numPos denPos

/-- The significand that a ratio is rounded to. -/
def significand (num den : ℕ) : ℕ :=
  let e := roundingExponent num den
  roundDiv (num * 2 ^ (-e).toNat) (den * 2 ^ e.toNat)

omit denPos in
theorem ofRatio_eq_ofRank (negative : Bool) : ofRatio negative num den =
    ofRank negative ((roundingExponent num den + 1074).toNat * 2 ^ 52 + significand num den) := by
  simp only [ofRatio, if_neg numPos.ne', Nat.pow_eq, significand]

theorem significand_le : significand num den ≤ 2 ^ 53 := by
  have exponent := roundingExponent_eq numPos denPos
  have tooShort : ¬ 2 ^ (roundingExponent num den + (53 : ℕ)) ≤ (num : ℚ) / den := by
    rw [not_le]
    calc (num : ℚ) / den < 2 ^ (Int.log 2 ((num : ℚ) / den) + 1) :=
          Int.lt_zpow_succ_log_self (b := 2) (by norm_num) _
      _ ≤ 2 ^ (roundingExponent num den + (53 : ℕ)) := by
          apply zpow_le_zpow_right₀ (by norm_num)
          omega
  have short := (two_pow_le_quotient_iff denPos (roundingExponent num den) 53).not.mpr tooShort
  have rounded := roundDiv_le_succ (num * 2 ^ (-roundingExponent num den).toNat)
    (den * 2 ^ (roundingExponent num den).toNat)
  rw [significand]
  omega

/-- Unless the exponent is the least one, all places of the significand are used. -/
theorem le_significand (above : -1074 < roundingExponent num den) :
    2 ^ 52 ≤ significand num den := by
  have exponent := roundingExponent_eq numPos denPos
  have logEq : roundingExponent num den + (52 : ℕ) = Int.log 2 ((num : ℚ) / den) := by omega
  have longEnough : 2 ^ (roundingExponent num den + (52 : ℕ)) ≤ (num : ℚ) / den := by
    rw [logEq]
    exact Int.zpow_log_le_self (b := 2) (by norm_num) (ratio_pos numPos denPos)
  have allPlaces := (two_pow_le_quotient_iff denPos (roundingExponent num den) 52).mpr longEnough
  exact Nat.le_trans allPlaces (le_roundDiv _ _)

/-- A ratio is rounded to a finite number exactly when it is nearer to the largest one
than to the power of two beyond it. -/
theorem rank_lt_magnitudes_iff :
    (roundingExponent num den + 1074).toNat * 2 ^ 52 + significand num den < magnitudes ↔
      num < leastBeyond * den := by
  simp only [leastBeyond_eq]
  have exponent := roundingExponent_eq numPos denPos
  have magnitudes_eq : magnitudes = 2047 * 2 ^ 52 := rfl
  have upper := significand_le numPos denPos
  have denCast : (0 : ℚ) < den := by exact_mod_cast denPos
  -- the ratio against powers of two, as whole numbers
  have below_iff (places : ℕ) : Int.log 2 ((num : ℚ) / den) < (places + 970 : ℕ) ↔
      num < 2 ^ places * 2 ^ 970 * den := by
    rw [← Int.lt_zpow_iff_log_lt (b := 2) (by norm_num) (ratio_pos numPos denPos), zpow_natCast,
      pow_add, div_lt_iff₀ denCast]
    exact_mod_cast Iff.rfl
  have below53 := below_iff 53
  have below54 := below_iff 54
  rcases Int.lt_trichotomy (Int.log 2 ((num : ℚ) / den)) 1023 with small | middle | large
  · have numSmall := below53.mp small
    refine iff_of_true (by omega) ?_
    rw [Nat.mul_assoc] at numSmall ⊢
    omega
  · have exponentEq : roundingExponent num den = 971 := by omega
    have significand_eq : significand num den = roundDiv num (2 * (2 ^ 970 * den)) := by
      have noPlaces : (-971 : ℤ).toNat = 0 := rfl
      have places : (971 : ℤ).toNat = 970 + 1 := rfl
      rw [significand, exponentEq, noPlaces, places, pow_zero, mul_one, pow_succ', mul_left_comm,
        mul_comm den]
    have stepPos : 0 < 2 * (2 ^ 970 * den) := by positivity
    have even : 2 ^ 53 % 2 = 0 := by norm_num
    have reached := le_roundDiv_iff_of_even num stepPos even (by norm_num)
    rw [← significand_eq] at reached
    rw [exponentEq, magnitudes_eq, Nat.mul_assoc]
    generalize 2 ^ 970 * den = step at reached ⊢
    omega
  · have notSmall := below54.not.mp (by omega)
    have lower := le_significand numPos denPos (by omega)
    refine iff_of_false (by omega) ?_
    rw [Nat.mul_assoc] at notSmall ⊢
    omega

/-- What lies beyond the range is rounded to an infinity. -/
theorem ofRatio_of_beyond (beyond : leastBeyond * den ≤ num) (negative : Bool) :
    ofRatio negative num den = .infinite negative := by
  have outside := (rank_lt_magnitudes_iff numPos denPos).not.mpr (Nat.not_lt.mpr beyond)
  rw [ofRatio_eq_ofRank numPos, ofRank, dif_neg outside]

end

/-! ## The error of rounding -/

/-- The units of a significand at an exponent. -/
theorem rankUnits_significand {k q : ℕ} (upper : q ≤ 2 ^ 53) (lower : k = 0 ∨ 2 ^ 52 ≤ q) :
    rankUnits (k * 2 ^ 52 + q) = q * 2 ^ k := by
  rcases Nat.lt_or_ge q (2 ^ 52) with short | full
  · obtain rfl : k = 0 := by omega
    have exponent : (0 * 2 ^ 52 + q) / 2 ^ 52 = 0 := by omega
    simp only [rankUnits, Nat.pow_eq, exponent, if_true]
    omega
  · rcases Nat.lt_or_ge q (2 ^ 53) with within | carry
    · have exponent : (k * 2 ^ 52 + q) / 2 ^ 52 = k + 1 := by omega
      have fraction : (k * 2 ^ 52 + q) % 2 ^ 52 = q - 2 ^ 52 := by omega
      simp only [rankUnits, Nat.pow_eq, exponent, fraction, Nat.succ_ne_zero, if_false,
        Nat.add_sub_cancel, Nat.add_sub_cancel' full]
    · obtain rfl : q = 2 ^ 53 := Nat.le_antisymm upper carry
      have exponent : (k * 2 ^ 52 + 2 ^ 53) / 2 ^ 52 = k + 2 := by omega
      have fraction : (k * 2 ^ 52 + 2 ^ 53) % 2 ^ 52 = 0 := by omega
      simp only [rankUnits, Nat.pow_eq, exponent, fraction, Nat.succ_ne_zero, if_false,
        Nat.add_zero]
      have shift : k + 2 - 1 = k + 1 := rfl
      rw [shift, pow_succ 2 k]
      generalize 2 ^ k = step
      omega

section

variable {num den : ℕ} (numPos : 0 < num) (denPos : 0 < den)
include numPos denPos

variable (num) in
omit numPos in
/-- A ratio is rounded by half a unit in the last place at most. -/
theorem significand_error :
    |(significand num den : ℚ) * 2 ^ roundingExponent num den - num / den| ≤
      2 ^ roundingExponent num den / 2 := by
  have denCast : (0 : ℚ) < den := by exact_mod_cast denPos
  rw [significand]
  generalize roundingExponent num den = e
  obtain ⟨atLeast, atMost⟩ := roundDiv_error (num * 2 ^ (-e).toNat)
    (by positivity : 0 < den * 2 ^ e.toNat)
  generalize roundDiv (num * 2 ^ (-e).toNat) (den * 2 ^ e.toNat) = q at atLeast atMost ⊢
  have scale : (0 : ℚ) < den * 2 ^ e.toNat := by positivity
  have lower : (2 : ℚ) * (num * 2 ^ (-e).toNat) ≤ 2 * (q * (den * 2 ^ e.toNat)) +
      den * 2 ^ e.toNat := by exact_mod_cast atLeast
  have upper : (2 : ℚ) * (q * (den * 2 ^ e.toNat)) ≤ 2 * (num * 2 ^ (-e).toNat) +
      den * 2 ^ e.toNat := by exact_mod_cast atMost
  have upPos : (0 : ℚ) < 2 ^ e.toNat := by positivity
  have downPos : (0 : ℚ) < 2 ^ (-e).toNat := by positivity
  rw [zpow_eq_toNat two_ne_zero e]
  generalize (2 : ℚ) ^ e.toNat = up at *
  generalize (2 : ℚ) ^ (-e).toNat = down at *
  have difference : (q : ℚ) * (up / down) - num / den =
      (2 * (q * (den * up)) - 2 * (num * down)) / (2 * (down * den)) := by
    field_simp
  have halfUnit : up / down / 2 = den * up / (2 * (down * den)) := by
    field_simp
  have positive : (0 : ℚ) < 2 * (down * den) := by positivity
  rw [difference, halfUnit, abs_div, abs_of_pos positive,
    div_le_div_iff_of_pos_right positive, abs_le]
  constructor <;> linarith

/-- A ratio within the range of finite numbers is rounded to one that differs from it by
the fraction of half a unit in the last place. -/
theorem ofRatio_within (within : num < leastBeyond * den)
    (normal : (2 : ℚ) ^ (-1022 : ℤ) ≤ num / den) (negative : Bool) :
    ∃ rank : Fin magnitudes, ofRatio negative num den = .finite negative rank ∧
      |(rankUnits rank : ℚ) / 2 ^ 1074 - num / den| ≤ (num : ℚ) / den / 2 ^ 53 := by
  have exponent := roundingExponent_eq numPos denPos
  have logLarge : -1022 ≤ Int.log 2 ((num : ℚ) / den) := by
    rw [← Int.zpow_le_iff_le_log (by norm_num) (ratio_pos numPos denPos), Nat.cast_ofNat]
    exact normal
  have inRange := (rank_lt_magnitudes_iff numPos denPos).mpr within
  refine ⟨⟨_, inRange⟩, by rw [ofRatio_eq_ofRank numPos, ofRank, dif_pos inRange], ?_⟩
  have error := significand_error num denPos
  have allPlaces : (2 : ℚ) ^ roundingExponent num den * 2 ^ 52 ≤ num / den := by
    have logEq : roundingExponent num den + (52 : ℕ) = Int.log 2 ((num : ℚ) / den) := by omega
    rw [← zpow_natCast, ← zpow_add₀ two_ne_zero, logEq]
    exact Int.zpow_log_le_self (b := 2) (by norm_num) (ratio_pos numPos denPos)
  have value : (rankUnits ((roundingExponent num den + 1074).toNat * 2 ^ 52 +
      significand num den) : ℚ) / 2 ^ 1074 =
        significand num den * 2 ^ roundingExponent num den := by
    have lower : (roundingExponent num den + 1074).toNat = 0 ∨ 2 ^ 52 ≤ significand num den := by
      rcases Int.lt_or_le (-1074) (roundingExponent num den) with above | least
      · exact .inr (le_significand numPos denPos above)
      · exact .inl (by omega)
    have shifted : roundingExponent num den =
        ((roundingExponent num den + 1074).toNat : ℤ) - (1074 : ℕ) := by omega
    rw [rankUnits_significand (significand_le numPos denPos) lower, shifted,
      zpow_sub₀ two_ne_zero, zpow_natCast, zpow_natCast, ← shifted, Nat.cast_mul, Nat.cast_pow,
      Nat.cast_ofNat, mul_div_assoc]
  calc
    |(rankUnits ((roundingExponent num den + 1074).toNat * 2 ^ 52 + significand num den) : ℚ) /
          2 ^ 1074 - num / den|
        = |(significand num den : ℚ) * 2 ^ roundingExponent num den - num / den| := by rw [value]
    _ ≤ 2 ^ roundingExponent num den / 2 := error
    _ = 2 ^ roundingExponent num den * 2 ^ 52 / 2 ^ 53 := by ring
    _ ≤ num / den / 2 ^ 53 := by gcongr

end

end Binary64

end PromptDispatch
