import PromptDispatch.Binary64.Shortest
import PromptDispatch.Proofs.Binary64.Rounding

/-!
# Reading a number's own decimal

The number nearest to a decimal depends on the decimal's value alone: the outer
cases of the reader, which answer from the size of the digits and the exponent,
never meet a number that is finite and not zero.  The shortest decimal of such
a number is read back as the number, and so is every other way to write the
same value that is not absurdly long.
-/

namespace PromptDispatch

namespace Binary64

/-! ## The size of decimals -/

/-- The reader's estimate of the number of digits is not above it. -/
theorem ten_pow_le {d : ℕ} (positive : 0 < d) : 10 ^ (d.log2 * 3 / 10) ≤ d := by
  have tenth : (10 ^ (d.log2 * 3 / 10)) ^ 10 ≤ d ^ 10 := by
    calc (10 ^ (d.log2 * 3 / 10)) ^ 10 = 10 ^ (d.log2 * 3 / 10 * 10) := by rw [← Nat.pow_mul]
      _ ≤ 10 ^ (3 * d.log2) := Nat.pow_le_pow_right (by norm_num) (by omega)
      _ = (10 ^ 3) ^ d.log2 := by rw [Nat.pow_mul]
      _ ≤ (2 ^ 10) ^ d.log2 := Nat.pow_le_pow_left (by norm_num) _
      _ = (2 ^ d.log2) ^ 10 := by rw [← Nat.pow_mul, ← Nat.pow_mul, Nat.mul_comm]
      _ ≤ d ^ 10 := Nat.pow_le_pow_left (Nat.log2_self_le positive.ne') 10
  exact (Nat.pow_le_pow_iff_left (by norm_num)).mp tenth

/-- Three binary places are less than one decimal place. -/
theorem lt_ten_pow (d : ℕ) : d < 10 ^ ((d.log2 + 3) / 3) := by
  calc d < 2 ^ (d.log2 + 1) := Nat.lt_log2_self
    _ ≤ 2 ^ (3 * ((d.log2 + 3) / 3)) := Nat.pow_le_pow_right (by norm_num) (by omega)
    _ = (2 ^ 3) ^ ((d.log2 + 3) / 3) := by rw [Nat.pow_mul]
    _ ≤ 10 ^ ((d.log2 + 3) / 3) := Nat.pow_le_pow_left (by norm_num) _

/-- A power of ten reaches as far as a power of two with three times its
exponent, upwards and downwards. -/
theorem two_zpow_le_ten_zpow {n : ℕ} {e : ℤ} (within : e ≤ 3 * n) :
    (2 : ℚ) ^ e ≤ 10 ^ (n : ℤ) := by
  calc (2 : ℚ) ^ e ≤ 2 ^ ((3 : ℤ) * n) := zpow_le_zpow_right₀ (by norm_num) within
    _ = (2 ^ (3 : ℤ)) ^ (n : ℤ) := zpow_mul 2 3 n
    _ ≤ 10 ^ (n : ℤ) := by
        rw [zpow_natCast, zpow_natCast]
        exact pow_le_pow_left₀ (by norm_num) (by norm_num) n

theorem ten_zpow_neg_le {n : ℕ} {e : ℤ} (within : -e ≤ 3 * n) :
    (10 : ℚ) ^ (-(n : ℤ)) ≤ 2 ^ e := by
  have powers := two_zpow_le_ten_zpow within
  rw [zpow_neg] at powers ⊢
  exact inv_le_of_inv_le₀ (by positivity) powers

theorem ten_zpow_le_two_zpow {n : ℕ} {e : ℤ} (within : e ≤ n) :
    (10 : ℚ) ^ e ≤ 2 ^ ((4 : ℤ) * n) := by
  calc (10 : ℚ) ^ e ≤ 10 ^ (n : ℤ) := zpow_le_zpow_right₀ (by norm_num) within
    _ ≤ (2 ^ (4 : ℤ)) ^ (n : ℤ) := by
        rw [zpow_natCast, zpow_natCast]
        exact pow_le_pow_left₀ (by norm_num) (by norm_num) n
    _ = 2 ^ ((4 : ℤ) * n) := (zpow_mul 2 4 n).symm

/-- A finite number is not written with absurdly many digits, unless its
exponent is. -/
theorem log2_le_of_value_lt {d : ℕ} {e : ℤ} (upper : (d : ℚ) * 10 ^ e < 2 ^ (1024 : ℤ))
    (least : -1074 ≤ e) : d.log2 ≤ 6000 := by
  by_cases zero : d = 0
  · simp [zero]
  · have powers : (2 : ℚ) ^ (d.log2 : ℤ) < 2 ^ ((1024 : ℤ) + 4 * (1074 : ℕ)) := by
      calc (2 : ℚ) ^ (d.log2 : ℤ) ≤ d := by
            rw [zpow_natCast]
            exact_mod_cast Nat.log2_self_le zero
        _ = d * 10 ^ e * 10 ^ (-e) := by
            rw [mul_assoc, ← zpow_add₀ (by norm_num), add_neg_cancel, zpow_zero, mul_one]
        _ < 2 ^ (1024 : ℤ) * 10 ^ (-e) := by gcongr
        _ ≤ 2 ^ (1024 : ℤ) * 2 ^ ((4 : ℤ) * (1074 : ℕ)) := by
            gcongr
            exact ten_zpow_le_two_zpow (by omega)
        _ = 2 ^ ((1024 : ℤ) + 4 * (1074 : ℕ)) := by rw [zpow_add₀ two_ne_zero]
    have := (zpow_lt_zpow_iff_right₀ (by norm_num : (1 : ℚ) < 2)).mp powers
    omega

theorem decimal_ratio (d : ℕ) (e : ℤ) :
    ((d * 10 ^ e.toNat : ℕ) : ℚ) / ((10 ^ (-e).toNat : ℕ) : ℚ) = d * 10 ^ e := by
  rw [zpow_eq_toNat (by norm_num) e, ← mul_div_assoc]
  push_cast
  rfl

/-- Whether the digits are read at all is decided by the value, if the digits
are not absurdly many. -/
theorem ofDecimal_eq_ofRatio {d : ℕ} {e : ℤ} {negative sign : Bool} {rank : Fin magnitudes}
    (positive : 0 < d) (short : d.log2 ≤ 10000) (nonzero : rank.val ≠ 0)
    (finite : ofRatio negative (d * 10 ^ e.toNat) (10 ^ (-e).toNat) = .finite sign rank) :
    ofDecimal negative d e = .finite sign rank := by
  have numPos : 0 < d * 10 ^ e.toNat := by positivity
  have denPos : 0 < 10 ^ (-e).toNat := by positivity
  have upper := ratio_lt_of_finite numPos denPos finite
  have lower := lt_ratio_of_nonzero numPos denPos nonzero finite
  rw [decimal_ratio] at upper lower
  have tenPos : (0 : ℚ) < 10 ^ e := by positivity
  have notLarge : ((d.log2 * 3 / 10 : ℕ) : ℤ) + e < 400 := by
    have powers : (10 : ℚ) ^ (((d.log2 * 3 / 10 : ℕ) : ℤ) + e) < 10 ^ (400 : ℤ) := by
      calc (10 : ℚ) ^ (((d.log2 * 3 / 10 : ℕ) : ℤ) + e)
          = ((10 ^ (d.log2 * 3 / 10) : ℕ) : ℚ) * 10 ^ e := by
            rw [zpow_add₀ (by norm_num), zpow_natCast]
            push_cast
            rfl
        _ ≤ d * 10 ^ e := by
            gcongr
            exact_mod_cast ten_pow_le positive
        _ < 2 ^ (1024 : ℤ) := upper
        _ ≤ 10 ^ (400 : ℤ) := two_zpow_le_ten_zpow (n := 400) (by norm_num)
    exact (zpow_lt_zpow_iff_right₀ (by norm_num)).mp powers
  have notSmall : -400 < (((d.log2 + 3) / 3 : ℕ) : ℤ) + e := by
    have powers : (10 : ℚ) ^ (-400 : ℤ) < 10 ^ ((((d.log2 + 3) / 3 : ℕ) : ℤ) + e) := by
      calc (10 : ℚ) ^ (-400 : ℤ) ≤ 2 ^ (-1076 : ℤ) := ten_zpow_neg_le (n := 400) (by norm_num)
        _ ≤ d * 10 ^ e := lower
        _ < ((10 ^ ((d.log2 + 3) / 3) : ℕ) : ℚ) * 10 ^ e := by
            gcongr
            exact_mod_cast lt_ten_pow d
        _ = 10 ^ ((((d.log2 + 3) / 3 : ℕ) : ℤ) + e) := by
            rw [zpow_add₀ (by norm_num), zpow_natCast]
            push_cast
            rfl
    exact (zpow_lt_zpow_iff_right₀ (by norm_num)).mp powers
  have scaleUpper : ¬ 400 < (d.log2 : ℤ) * 3 / 10 + e := by omega
  have scaleLower : ¬ (d.log2 : ℤ) * 3 / 10 + e < -800 := by omega
  simp only [ofDecimal, if_neg positive.ne', if_neg scaleUpper, if_neg scaleLower, Nat.pow_eq]
  exact finite

/-- A finite number that is not zero is read from its digits, and not from their
size. -/
theorem ofRatio_of_ofDecimal {d : ℕ} {e : ℤ} {negative sign : Bool} {rank : Fin magnitudes}
    (nonzero : rank.val ≠ 0) (finite : ofDecimal negative d e = .finite sign rank) :
    0 < d ∧ ofRatio negative (d * 10 ^ e.toNat) (10 ^ (-e).toNat) = .finite sign rank := by
  rw [ofDecimal] at finite
  split at finite
  · obtain ⟨-, rfl⟩ := by simpa using finite
    exact absurd rfl nonzero
  · next positive =>
    refine ⟨Nat.pos_of_ne_zero positive, ?_⟩
    dsimp only at finite
    split at finite
    · simp at finite
    · split at finite
      · obtain ⟨-, rfl⟩ := by simpa using finite
        exact absurd rfl nonzero
      · simpa only [Nat.pow_eq] using finite

/-- Two ways to write one value are read alike. -/
theorem ofDecimal_congr {d d' : ℕ} {e e' : ℤ} {negative sign : Bool} {rank : Fin magnitudes}
    (nonzero : rank.val ≠ 0) (finite : ofDecimal negative d e = .finite sign rank)
    (same : (d : ℚ) * 10 ^ e = d' * 10 ^ e') (short : d'.log2 ≤ 10000) :
    ofDecimal negative d' e' = .finite sign rank := by
  rcases ofRatio_of_ofDecimal nonzero finite with ⟨positive, isRatio⟩
  have tenPos : (0 : ℚ) < 10 ^ e := by positivity
  have positive' : 0 < d' := by
    by_contra! zero
    obtain rfl : d' = 0 := Nat.le_zero.mp zero
    have dCast : (0 : ℚ) < d := by exact_mod_cast positive
    have := mul_pos dCast tenPos
    simp [same] at this
  apply ofDecimal_eq_ofRatio positive' short nonzero
  rw [← isRatio]
  apply ofRatio_congr (by positivity) (by positivity) (by positivity) (by positivity)
  rw [decimal_ratio, decimal_ratio, same]

/-! ## Signs -/

/-- A number with a sign of its own or another one. -/
def withSign (negative : Bool) : Binary64 → Binary64
  | .nan => .nan
  | .infinite _ => .infinite negative
  | .finite _ rank => .finite negative rank

theorem ofRank_eq_withSign (negative : Bool) (rank : ℕ) :
    ofRank negative rank = (ofRank false rank).withSign negative := by
  rw [ofRank, ofRank]
  split
  · rfl
  · rfl

theorem ofRatio_eq_withSign (negative : Bool) (num den : ℕ) :
    ofRatio negative num den = (ofRatio false num den).withSign negative := by
  rw [ofRatio, ofRatio]
  split
  · rfl
  · exact ofRank_eq_withSign negative _

/-- The sign of a decimal is the sign of the number read, and its magnitude does
not depend on it. -/
theorem ofDecimal_eq_withSign (negative : Bool) (d : ℕ) (e : ℤ) :
    ofDecimal negative d e = (ofDecimal false d e).withSign negative := by
  rw [ofDecimal, ofDecimal]
  split
  · rfl
  · dsimp only
    split
    · rfl
    · split
      · rfl
      · exact ofRatio_eq_withSign negative _ _

/-! ## The shortest decimal -/

/-- Where the point of a magnitude stands at the least. -/
theorem le_decimalPoint (num den : ℕ) :
    ((num.log2 : ℤ) - den.log2) * 30103 / 100000 - 1 ≤ decimalPoint num den := by
  rw [decimalPoint]
  dsimp only
  split
  · exact le_refl _
  · split
    · omega
    · split
      · omega
      · omega

theorem reads_of_candidate? {rank : Fin magnitudes} {point : ℤ} {n d : ℕ}
    (found : candidate? rank point n = some d) :
    ofDecimal false d (point - n) = .finite false rank := by
  simp only [candidate?] at found
  split at found
  · next lower upper =>
    rw [beq_iff_eq] at lower upper
    obtain rfl := Option.some.inj found
    split
    · exact upper
    · exact lower
  · next lower _ =>
    obtain rfl := Option.some.inj found
    exact beq_iff_eq.mp lower
  · next _ upper =>
    obtain rfl := Option.some.inj found
    exact beq_iff_eq.mp upper
  · simp at found

/-- The exact decimal of a magnitude, with all its places, is read back. -/
theorem ofDecimal_exact {rank : Fin magnitudes} (nonzero : rank.val ≠ 0) {bias : ℕ}
    (isBias : bias = 1074) :
    ofDecimal false (rankUnits rank * Nat.pow 5 bias) (-bias) = .finite false rank := by
  rw [Nat.pow_eq]
  have isRatio := ofRatio_rankUnits isBias nonzero false
  have unitsPos : 0 < rankUnits rank := by
    by_contra! zero
    rw [Nat.le_zero.mp zero, ofRatio, if_pos rfl] at isRatio
    obtain rfl := by simpa using isRatio
    exact nonzero rfl
  have denPos : 0 < 2 ^ bias := by positivity
  have value : ((rankUnits rank * 5 ^ bias : ℕ) : ℚ) * 10 ^ (-(bias : ℤ)) =
      (rankUnits rank : ℚ) / ((2 ^ bias : ℕ) : ℚ) := by
    have ten : (10 : ℚ) ^ bias = 5 ^ bias * 2 ^ bias := by rw [← mul_pow]; norm_num
    rw [zpow_neg, zpow_natCast, ten]
    push_cast
    field_simp
  have upper := ratio_lt_of_finite unitsPos denPos isRatio
  rw [← value] at upper
  have short := log2_le_of_value_lt upper (by omega)
  refine ofDecimal_eq_ofRatio (by positivity) (by omega) nonzero ?_
  rw [← isRatio]
  apply ofRatio_congr (by positivity) (by positivity) unitsPos denPos
  rw [decimal_ratio, value]

/-- What the search comes to is read back. -/
theorem reads_of_searchDigits {rank : Fin magnitudes} (nonzero : rank.val ≠ 0) {point : ℤ}
    {left n : ℕ} (reaches : -1074 ≤ point - (n + left : ℕ)) :
    ofDecimal false (searchDigits rank point left n).1 (searchDigits rank point left n).2 =
        .finite false rank ∧ -1074 ≤ (searchDigits rank point left n).2 := by
  induction left generalizing n with
  | zero => exact ⟨ofDecimal_exact nonzero (rfl : 1074 = 1074), le_refl _⟩
  | succ left ih =>
      rw [searchDigits]
      cases found : candidate? rank point n with
      | some d => exact ⟨reads_of_candidate? found, by dsimp only; omega⟩
      | none => exact ih (by omega)

/-- Dropping the zeros at the end keeps the value. -/
theorem trimZeros_value (fuel d : ℕ) (e : ℤ) :
    ((trimZeros fuel d e).1 : ℚ) * 10 ^ (trimZeros fuel d e).2 = d * 10 ^ e ∧
      (trimZeros fuel d e).1 ≤ d := by
  induction fuel generalizing d e with
  | zero => exact ⟨rfl, le_refl _⟩
  | succ fuel ih =>
      rw [trimZeros]
      split
      · next ends =>
        rcases ih (d / 10) (e + 1) with ⟨same, le⟩
        refine ⟨same.trans ?_, by omega⟩
        have whole : d = d / 10 * 10 := by omega
        have cast : (d : ℚ) = (d / 10 : ℕ) * 10 := by exact_mod_cast whole
        rw [zpow_add₀ (by norm_num), cast]
        ring
      · exact ⟨rfl, le_refl _⟩

/-- The shortest decimal of a number that is not zero is read back as the number
with its sign, and so is every other decimal of the same value that is not
absurdly long. -/
theorem ofDecimal_shortestDecimal {rank : Fin magnitudes} (nonzero : rank.val ≠ 0) :
    0 < (shortestDecimal rank).1 ∧ (shortestDecimal rank).1.log2 ≤ 6000 ∧
      ∀ (negative : Bool) (d : ℕ) (e : ℤ), d.log2 ≤ 10000 →
        (d : ℚ) * 10 ^ e = (shortestDecimal rank).1 * 10 ^ (shortestDecimal rank).2 →
        ofDecimal negative d e = .finite negative rank := by
  have point := le_decimalPoint (rankUnits rank) (Nat.pow 2 1074)
  rw [Nat.pow_eq, Nat.log2_two_pow] at point
  have reaches : -1074 ≤ decimalPoint (rankUnits rank) (2 ^ 1074) - ((1 + 17 : ℕ) : ℤ) := by
    omega
  simp only [shortestDecimal, if_neg nonzero, Nat.pow_eq]
  rcases reads_of_searchDigits nonzero reaches with ⟨reads, least⟩
  generalize searchDigits rank (decimalPoint (rankUnits rank) (2 ^ 1074)) 17 1 = found
    at reads least
  rcases ofRatio_of_ofDecimal nonzero reads with ⟨foundPos, isRatio⟩
  rcases trimZeros_value 20 found.1 found.2 with ⟨trimmed, trimmedLe⟩
  have trimmedPos : 0 < (trimZeros 20 found.1 found.2).1 := by
    by_contra! zero
    rw [Nat.le_zero.mp zero] at trimmed
    have dPos : (0 : ℚ) < found.1 := by exact_mod_cast foundPos
    have tenPos : (0 : ℚ) < 10 ^ found.2 := by positivity
    have := mul_pos dPos tenPos
    simp [← trimmed] at this
  refine ⟨trimmedPos, ?_, ?_⟩
  · have upper := ratio_lt_of_finite (by positivity) (by positivity) isRatio
    rw [decimal_ratio] at upper
    refine Nat.le_trans ?_ (log2_le_of_value_lt upper least)
    rw [Nat.log2_eq_log_two, Nat.log2_eq_log_two]
    exact Nat.log_mono_right trimmedLe
  · intro negative d e short same
    rw [ofDecimal_eq_withSign,
      ofDecimal_congr nonzero reads (trimmed.symm.trans same.symm) short]
    rfl

end Binary64

end PromptDispatch
