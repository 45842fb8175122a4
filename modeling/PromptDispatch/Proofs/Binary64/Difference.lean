import PromptDispatch.Proofs.Binary64.Range

/-!
# Differences of finite numbers

The difference of two finite numbers is their exact difference rounded once.  It is
finite when it is not negative and at most as large as some finite number.
-/

namespace PromptDispatch

namespace Binary64

/-- Every finite magnitude is within the range of rounding. -/
theorem rankUnits_lt {bias : ℕ} (isBias : bias = 1074) (rank : Fin magnitudes) :
    rankUnits rank < leastBeyond * 2 ^ bias := by
  by_cases zero : rank.val = 0
  · have noUnits : rankUnits rank = 0 := by
      rw [zero]
      rfl
    rw [noUnits]
    exact Nat.mul_pos leastBeyond_pos (by positivity)
  · by_contra! beyond
    have unitsPos : 0 < rankUnits rank :=
      Nat.lt_of_lt_of_le (Nat.mul_pos leastBeyond_pos (by positivity)) beyond
    have infinite := ofRatio_of_beyond unitsPos (by positivity) beyond false
    rw [ofRatio_rankUnits isBias zero] at infinite
    cases infinite

/-- What is within the range is rounded to a finite number. -/
theorem exists_ofRatio_eq_finite {num den : ℕ} (numPos : 0 < num) (denPos : 0 < den)
    (within : num < leastBeyond * den) (negative : Bool) :
    ∃ rank, ofRatio negative num den = .finite negative rank := by
  have inRange := (rank_lt_magnitudes_iff numPos denPos).mpr within
  exact ⟨⟨_, inRange⟩, by rw [ofRatio_eq_ofRank numPos, ofRank, dif_pos inRange]⟩

/-! ## Units -/

theorem units?_finite (negative : Bool) (rank : Fin magnitudes) :
    (finite negative rank).units? =
      some (if negative then -(rankUnits rank : ℤ) else rankUnits rank) :=
  rfl

theorem exists_eq_finite {x : Binary64} {u : ℤ} (units : x.units? = some u) :
    ∃ negative rank, x = .finite negative rank := by
  cases x with
  | finite negative rank => exact ⟨negative, rank, rfl⟩
  | nan => cases units
  | infinite negative => cases units

/-- Finite numbers are compared by their units. -/
theorem lt_iff_units {x y : Binary64} {u v : ℤ} (xUnits : x.units? = some u)
    (yUnits : y.units? = some v) : x < y ↔ u < v := by
  obtain ⟨xNegative, xRank, rfl⟩ := exists_eq_finite xUnits
  obtain ⟨yNegative, yRank, rfl⟩ := exists_eq_finite yUnits
  have compared : (finite xNegative xRank).lt (finite yNegative yRank) = decide (u < v) := by
    rw [lt, xUnits, yUnits]
  change (finite xNegative xRank).lt (finite yNegative yRank) = true ↔ u < v
  rw [compared]
  exact decide_eq_true_iff

/-- The difference of finite numbers is that of their units, rounded once. -/
theorem exists_sub_eq_ofUnits {x y : Binary64} {u v : ℤ} (xUnits : x.units? = some u)
    (yUnits : y.units? = some v) : ∃ sign, x - y = ofUnits sign (u - v) := by
  obtain ⟨xNegative, xRank, rfl⟩ := exists_eq_finite xUnits
  obtain ⟨yNegative, yRank, rfl⟩ := exists_eq_finite yUnits
  rw [units?_finite, Option.some.injEq] at xUnits yUnits
  subst xUnits yUnits
  refine ⟨xNegative && !yNegative, ?_⟩
  have turned : (if !yNegative then -(rankUnits yRank : ℤ) else rankUnits yRank) =
      -(if yNegative then -(rankUnits yRank : ℤ) else rankUnits yRank) := by
    cases yNegative <;> simp
  change add (finite xNegative xRank) (finite (!yNegative) yRank) = _
  rw [add]
  dsimp only
  rw [turned, sub_eq_add_neg]

theorem units?_ofUnits_zero (sign : Bool) : (ofUnits sign 0).units? = some 0 := by
  cases sign <;> rfl

/-- What is not negative is rounded to a finite number that is not negative, or to
the positive infinity. -/
theorem ofUnits_of_nonneg {u : ℤ} (nonneg : 0 ≤ u) (sign : Bool) :
    ofUnits sign u = .infinite false ∨ ∃ v, (ofUnits sign u).units? = some v ∧ 0 ≤ v := by
  rcases nonneg.eq_or_lt with rfl | positive
  · exact .inr ⟨0, units?_ofUnits_zero sign, le_rfl⟩
  · have notNegative : decide (u < 0) = false := decide_eq_false (by omega)
    rw [ofUnits, if_neg positive.ne', notNegative, ofRatio_eq_ofRank (by omega), ofRank]
    split
    · exact .inr ⟨_, rfl, Int.natCast_nonneg _⟩
    · exact .inl rfl

/-- What is not negative and at most as large as a finite number is rounded to a
finite number. -/
theorem exists_units_ofUnits {x : Binary64} {u v : ℤ} (units : x.units? = some v)
    (nonneg : 0 ≤ u) (within : u ≤ v) (sign : Bool) :
    ∃ w, (ofUnits sign u).units? = some w := by
  rcases nonneg.eq_or_lt with rfl | positive
  · exact ⟨0, units?_ofUnits_zero sign⟩
  · obtain ⟨negative, rank, rfl⟩ := exists_eq_finite units
    obtain ⟨bias, isBias⟩ : ∃ bias, bias = 1074 := ⟨1074, rfl⟩
    have inRange := rankUnits_lt isBias rank
    rw [units?_finite, Option.some.injEq] at units
    have small : u.natAbs ≤ rankUnits rank := by
      cases negative <;> simp at units <;> omega
    have unitsPos : 0 < u.natAbs := by omega
    obtain ⟨rounded, isRounded⟩ := exists_ofRatio_eq_finite unitsPos (by positivity)
      (Nat.lt_of_le_of_lt small inRange) (decide (u < 0))
    rw [ofUnits, if_neg positive.ne', ← isBias, Nat.pow_eq, isRounded]
    exact ⟨_, rfl⟩

end Binary64

end PromptDispatch
