import PromptDispatch.Proofs.Unicode.Characters

/-!
# Words and letter case

Taking a character to lowercase never makes a word character of another one, nor the other
way round.  The mapping is given by runs, and most runs lie in one range of word characters
and lead into one; so it is enough to look at the ends of a run, and at every character of
the few runs that are not of this kind.
-/

namespace PromptDispatch.Unicode

/-! ## Intervals among ranges -/

/-- Whether an interval lies in one of the sorted ranges. -/
def spans : List (Nat × Nat) → Nat → Nat → Bool
  | [], _, _ => false
  | (lo, hi) :: rest, first, last =>
      lo.ble first && (last.ble hi || spans rest first last)

/-- Whether an interval lies outside of all sorted ranges. -/
def avoids : List (Nat × Nat) → Nat → Nat → Bool
  | [], _, _ => true
  | (lo, hi) :: rest, first, last =>
      last.blt lo || (hi.blt first && avoids rest first last)

section

variable {ranges : List (Nat × Nat)} {first last n : Nat} (above : first ≤ n) (below : n ≤ last)
include above below

theorem inRanges_of_spans (spanned : spans ranges first last = true) :
    inRanges ranges n = true := by
  induction ranges with
  | nil => cases spanned
  | cons range ranges ih =>
      rw [spans, Bool.and_eq_true, Bool.or_eq_true, Nat.ble_eq, Nat.ble_eq] at spanned
      rw [inRanges, if_neg (by omega), Bool.or_eq_true]
      rcases spanned.2 with within | later
      · exact .inl (decide_eq_true (by omega))
      · exact .inr (ih later)

theorem not_inRanges_of_avoids (avoided : avoids ranges first last = true) :
    inRanges ranges n = false := by
  induction ranges with
  | nil => rfl
  | cons range ranges ih =>
      rw [avoids, Bool.or_eq_true, Bool.and_eq_true, Nat.blt_eq, Nat.blt_eq] at avoided
      rw [inRanges]
      split
      · rfl
      · next reached =>
        rcases avoided with before | ⟨behind, later⟩
        · omega
        · rw [ih later, Bool.or_false]
          exact decide_eq_false (by omega)

end

/-! ## Runs of the lowercase mapping -/

/-- Where a run takes a code point. -/
def shifted (shift : Int) (n : Nat) : Nat := ((n : Int) + shift).toNat

/-- Whether a run takes word characters to word characters and others to others: told by
its ends, or else by every code point of it. -/
def keepsWords : Nat × Nat × Nat × Int → Bool
  | (first, last, step, shift) =>
      (spans wordRanges first last &&
        spans wordRanges (shifted shift first) (shifted shift last)) ||
      (avoids wordRanges first last &&
        avoids wordRanges (shifted shift first) (shifted shift last)) ||
      (List.range (last + 1 - first)).all fun k =>
        k % step != 0 ||
          inRanges wordRanges (shifted shift (first + k)) == inRanges wordRanges (first + k)

/-- Whether a run leads to code points of characters only. -/
def staysValid : Nat × Nat × Nat × Int → Bool
  | (first, last, _, shift) =>
      (shifted shift last).blt 0xd800 ||
        (Nat.blt 0xdfff (shifted shift first) && (shifted shift last).blt 0x110000)

theorem keepsWords_lowerRuns : ∀ run ∈ lowerRuns, keepsWords run = true := by
  decide +kernel

theorem staysValid_lowerRuns : ∀ run ∈ lowerRuns, staysValid run = true := by
  decide +kernel

/-- The shift of a code point is that of a run that it lies on. -/
theorem lowerShift_cases (runs : List (Nat × Nat × Nat × Int)) (n : Nat) :
    lowerShift runs n = 0 ∨ ∃ run ∈ runs, run.1 ≤ n ∧ n ≤ run.2.1 ∧
      (n - run.1) % run.2.2.1 = 0 ∧ lowerShift runs n = run.2.2.2 := by
  induction runs with
  | nil => exact .inl rfl
  | cons run runs ih =>
      rcases run with ⟨first, last, step, shift⟩
      have later : lowerShift runs n = 0 ∨ ∃ run ∈ (first, last, step, shift) :: runs,
          run.1 ≤ n ∧ n ≤ run.2.1 ∧ (n - run.1) % run.2.2.1 = 0 ∧
            lowerShift runs n = run.2.2.2 :=
        ih.imp_right fun ⟨run, mem, found⟩ => ⟨run, List.mem_cons_of_mem _ mem, found⟩
      rw [lowerShift]
      split
      · exact .inl rfl
      · next above =>
        split
        · next below =>
          split
          · next onStep =>
            exact .inr ⟨_, List.mem_cons_self, Nat.le_of_not_lt above, below, onStep, rfl⟩
          · exact later
        · exact later

/-- What holds of every code point on a run and of every code point that stays holds of
all. -/
theorem lowerCode_induction {P : Nat → Prop} {n : Nat} (stays : P n)
    (moves : ∀ run ∈ lowerRuns, run.1 ≤ n → n ≤ run.2.1 → (n - run.1) % run.2.2.1 = 0 →
      P (shifted run.2.2.2 n)) : P (lowerCode n) := by
  rw [lowerCode]
  rcases lowerShift_cases lowerRuns n with unmoved | ⟨run, mem, above, below, onStep, isShift⟩
  · rwa [unmoved, Int.add_zero, Int.toNat_natCast]
  · rw [isShift]
    exact moves run mem above below onStep

theorem inRanges_shifted {run : Nat × Nat × Nat × Int} (keeps : keepsWords run = true) {n : Nat}
    (above : run.1 ≤ n) (below : n ≤ run.2.1) (onStep : (n - run.1) % run.2.2.1 = 0) :
    inRanges wordRanges (shifted run.2.2.2 n) = inRanges wordRanges n := by
  rcases run with ⟨first, last, step, shift⟩
  dsimp only at above below onStep ⊢
  have shiftedAbove : shifted shift first ≤ shifted shift n := by
    simp only [shifted]
    omega
  have shiftedBelow : shifted shift n ≤ shifted shift last := by
    simp only [shifted]
    omega
  rw [keepsWords, Bool.or_eq_true, Bool.or_eq_true, Bool.and_eq_true, Bool.and_eq_true] at keeps
  rcases keeps with (⟨spanned, shiftedSpanned⟩ | ⟨avoided, shiftedAvoided⟩) | pointwise
  · rw [inRanges_of_spans above below spanned,
      inRanges_of_spans shiftedAbove shiftedBelow shiftedSpanned]
  · rw [not_inRanges_of_avoids above below avoided,
      not_inRanges_of_avoids shiftedAbove shiftedBelow shiftedAvoided]
  · have point := List.all_eq_true.mp pointwise (n - first) (List.mem_range.mpr (by omega))
    rw [Nat.add_sub_cancel' above, onStep] at point
    simpa using point

/-! ## Characters in lowercase -/

/-- Lowercase keeps words and other characters apart. -/
theorem inRanges_lowerCode (n : Nat) :
    inRanges wordRanges (lowerCode n) = inRanges wordRanges n :=
  lowerCode_induction (P := fun m => inRanges wordRanges m = inRanges wordRanges n) rfl
    fun run mem => inRanges_shifted (keepsWords_lowerRuns run mem)

/-- The lowercase code point of a character is that of a character. -/
theorem isValidChar_lowerCode (c : Char) : (lowerCode c.toNat).isValidChar := by
  apply lowerCode_induction (P := Nat.isValidChar) c.valid
  intro run mem above below _
  have valid := staysValid_lowerRuns run mem
  rcases run with ⟨first, last, step, shift⟩
  dsimp only at above below ⊢
  rw [staysValid, Bool.or_eq_true, Bool.and_eq_true, Nat.blt_eq, Nat.blt_eq, Nat.blt_eq] at valid
  simp only [shifted, Nat.isValidChar] at valid ⊢
  omega

theorem toNat_lower (c : Char) : (lower c).toNat = lowerCode c.toNat := by
  rw [lower, Char.ofNat, dif_pos (isValidChar_lowerCode c)]
  rfl

/-- A character is a word character exactly when it is one in lowercase. -/
theorem isWord_lower (c : Char) : isWord (lower c) = isWord c := by
  rw [isWord, toNat_lower, inRanges_lowerCode, ← isWord]

/-- What is the same as a basic letter up to case is a word character. -/
theorem isWord_of_sameUpToCase {letter c : Char} (basic : 97 ≤ letter.toNat ∧ letter.toNat ≤ 122)
    (same : sameUpToCase letter c = true) : isWord c = true := by
  have classes : ∀ k < 26, ∀ n ∈ caseClass (lowerCode (97 + k)), inRanges wordRanges n = true := by
    decide +kernel
  have inClass := List.contains_iff_mem.mp same
  have letterClass := classes (letter.toNat - 97) (by omega)
  rw [Nat.add_sub_cancel' basic.1] at letterClass
  rw [isWord, ← inRanges_lowerCode]
  exact letterClass _ inClass

end PromptDispatch.Unicode
