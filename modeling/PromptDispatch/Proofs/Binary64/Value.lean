import Mathlib.Data.Rat.Floor
import PromptDispatch.Proofs.Binary64.Difference

/-!
# Exact values

A finite number has an exact rational value.  Comparisons go by these values: numbers of
the same value are one number but for the two signs of zero, and rounding a number up to
an integer rounds its value up.
-/

namespace PromptDispatch

namespace Binary64

/-- Exact value of the finite number of a sign and a rank. -/
def valueOf (negative : Bool) (rank : Fin magnitudes) : ℚ :=
  ((if negative then -(rankUnits rank : ℤ) else rankUnits rank : ℤ) : ℚ) / 2 ^ 1074

/-- Exact value of a finite number. -/
def value? : Binary64 → Option ℚ
  | .finite negative rank => some (valueOf negative rank)
  | _ => none

theorem value?_eq (x : Binary64) : x.value? = x.units?.map fun u : ℤ => (u : ℚ) / 2 ^ 1074 := by
  cases x <;> rfl

theorem rankUnits_eq_zero_iff (rank : Fin magnitudes) : rankUnits rank = 0 ↔ rank.val = 0 := by
  constructor
  · intro noUnits
    by_contra nonzero
    have reads := ofRatio_rankUnits rfl nonzero false
    rw [noUnits] at reads
    exact nonzero (congrArg Fin.val (Binary64.finite.inj reads).2).symm
  · intro zero
    rw [zero]
    rfl

/-- Magnitudes are told apart by their units. -/
theorem rankUnits_inj {rank other : Fin magnitudes} :
    rankUnits rank = rankUnits other ↔ rank = other := by
  refine ⟨fun sameUnits => ?_, fun same => by rw [same]⟩
  by_cases zero : rank.val = 0
  · have noUnits := (rankUnits_eq_zero_iff rank).mpr zero
    rw [sameUnits, rankUnits_eq_zero_iff] at noUnits
    exact Fin.ext (zero.trans noUnits.symm)
  · have otherNonzero : other.val ≠ 0 := by
      rwa [Ne, ← rankUnits_eq_zero_iff, ← sameUnits, rankUnits_eq_zero_iff]
    have reads := ofRatio_rankUnits rfl zero false
    rw [sameUnits, ofRatio_rankUnits rfl otherNonzero] at reads
    exact (Binary64.finite.inj reads).2.symm

theorem scale_pos : (0 : ℚ) < 2 ^ 1074 := by positivity

theorem cast_scale : ((Int.pow 2 1074 : ℤ) : ℚ) = 2 ^ 1074 := by
  rw [Int.pow_eq, Int.cast_pow, Int.cast_ofNat]

/-- Finite numbers are one value exactly when they have the same exact value. -/
theorem sameValue_finite_iff (negative other : Bool) (rank otherRank : Fin magnitudes) :
    (finite negative rank).sameValue (finite other otherRank) = true ↔
      valueOf negative rank = valueOf other otherRank := by
  rw [valueOf, valueOf, div_left_inj' scale_pos.ne', Int.cast_inj, sameValue, Bool.and_eq_true,
    Bool.or_eq_true, beq_iff_eq, beq_iff_eq, beq_iff_eq, ← rankUnits_eq_zero_iff,
    ← rankUnits_inj]
  cases negative <;> cases other <;>
    simp only [if_true, if_false, Bool.false_eq_true, Bool.true_eq_false, true_or, false_or,
      and_true] <;> omega

/-- A number is an integer exactly when that is its exact value. -/
theorem isInt_iff (x : Binary64) (n : ℤ) : x.isInt n = true ↔ x.value? = some (n : ℚ) := by
  rw [isInt, value?_eq]
  cases x.units? with
  | none => simp
  | some u =>
      dsimp only [Option.map_some]
      rw [beq_iff_eq, Option.some.injEq, div_eq_iff scale_pos.ne', ← cast_scale, ← Int.cast_mul,
        Int.cast_inj]

/-- Rounding a finite number up rounds its exact value up. -/
theorem ceil?_eq {x : Binary64} {q : ℚ} (value : x.value? = some q) : x.ceil? = some ⌈q⌉ := by
  rw [value?_eq] at value
  obtain ⟨u, units, rfl⟩ := Option.map_eq_some_iff.mp value
  have rounded (bias : ℕ) : ⌈(u : ℚ) / 2 ^ bias⌉ = -(-u / Int.pow 2 bias) := by
    have rounded := Rat.ceil_intCast_div_natCast u (2 ^ bias)
    rw [Nat.cast_pow, Nat.cast_pow, Nat.cast_ofNat, Nat.cast_ofNat] at rounded
    rw [rounded, Int.pow_eq]
  exact (congrArg (Option.map _) units).trans (congrArg some (rounded 1074).symm)

end Binary64

end PromptDispatch
