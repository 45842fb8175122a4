import Mathlib.Data.List.Basic
import PromptDispatch.Unicode.Blank
import PromptDispatch.Unicode.Case
import PromptDispatch.Unicode.Word

/-!
# Words, blanks and letter case

No word character is blank.  A basic capital letter and its small letter are the same
letter up to case, in every sense of sameness up to case.
-/

namespace PromptDispatch.Unicode

/-! ## Words and blanks -/

theorem exists_range_of_inRanges {ranges : List (Nat × Nat)} {n : Nat}
    (inside : inRanges ranges n = true) : ∃ range ∈ ranges, range.1 ≤ n ∧ n ≤ range.2 := by
  induction ranges with
  | nil => simp [inRanges] at inside
  | cons range ranges ih =>
      rcases range with ⟨lo, hi⟩
      rw [inRanges] at inside
      split at inside
      · cases inside
      · next above =>
        rcases Bool.or_eq_true_iff.mp inside with within | later
        · exact ⟨(lo, hi), List.mem_cons_self, Nat.le_of_not_lt above, of_decide_eq_true within⟩
        · obtain ⟨other, otherMem, bounds⟩ := ih later
          exact ⟨other, List.mem_cons_of_mem _ otherMem, bounds⟩

theorem not_inRanges_wordRanges_of_blank : ∀ range ∈ blankRanges,
    ∀ k < range.2 + 1 - range.1, inRanges wordRanges (range.1 + k) = false := by
  decide +kernel

/-- No word character is blank. -/
theorem isBlank_of_isWord {c : Char} (word : isWord c = true) : isBlank c = false := by
  rw [← Bool.not_eq_true]
  intro blank
  obtain ⟨range, rangeMem, above, below⟩ := exists_range_of_inRanges blank
  have apart := not_inRanges_wordRanges_of_blank range rangeMem (c.toNat - range.1) (by omega)
  rw [Nat.add_sub_cancel' above, ← isWord, word] at apart
  cases apart

/-! ## Letter case -/

/-- A basic capital letter goes to the small letter that it goes to in all of Unicode. -/
theorem lowerCode_lowerBasic (c : Char) : lowerCode (lowerBasic c).toNat = lowerCode c.toNat := by
  rw [lowerBasic]
  split
  · next basic =>
    have letters : ∀ k < 26, lowerCode (Char.ofNat (65 + k + 32)).toNat = lowerCode (65 + k) := by
      decide
    have letter := letters (c.toNat - 65) (by omega)
    rwa [Nat.add_sub_cancel' basic.1] at letter
  · rfl

theorem lowerCode_eq_of_lowerBasic {a b : Char} (same : lowerBasic a = lowerBasic b) :
    lowerCode a.toNat = lowerCode b.toNat := by
  rw [← lowerCode_lowerBasic a, same, lowerCode_lowerBasic b]

theorem mem_caseClass_self (n : Nat) : n ∈ caseClass n := by
  rw [caseClass]
  split
  · next cls found => simpa using List.find?_some found
  · exact List.mem_singleton_self n

/-- Characters that differ at most in basic letter case are the same up to case. -/
theorem sameUpToCase_of_lowerBasic {a b : Char} (same : lowerBasic a = lowerBasic b) :
    sameUpToCase a b = true := by
  rw [sameUpToCase, lowerCode_eq_of_lowerBasic same]
  simp [mem_caseClass_self]

theorem map_lower_eq (letters : List Char) :
    letters.map lower = (letters.map lowerBasic).map lower := by
  rw [List.map_map]
  apply List.map_congr_left
  intro c _
  rw [Function.comp_apply, lower, lower, lowerCode_lowerBasic]

end PromptDispatch.Unicode
