import PromptDispatch.Pattern.Search
import PromptDispatch.Proofs.Pattern.Coverage

/-!
# Whole words of a text

A whole word of a text is a run of word characters that no word character precedes or
follows.  A pattern that stands between two word boundaries and covers nothing but words
is found in a text exactly when it covers a whole word of it: a word that is only a part
of a longer one is never found.
-/

namespace PromptDispatch.Pattern

open Unicode

/-! ## Searching -/

namespace Compiled

/-- A search that may begin everywhere finds a match exactly when there is one at some
place. -/
theorem foundFrom_iff {mayBegin : Char → Bool} (anywhere : ∀ c, mayBegin c = true) (root : Body)
    (left : Nat) (before cs : List Char) :
    foundFrom mayBegin root left before cs = true ↔ ∃ skipped rest, cs = skipped ++ rest ∧
      (root ⟨skipped.reverse ++ before, rest, left - skipped.length, []⟩ some).isSome := by
  induction cs generalizing left before with
  | nil =>
      rw [foundFrom]
      constructor
      · intro found
        exact ⟨[], [], rfl, found⟩
      · rintro ⟨skipped, rest, split, found⟩
        obtain ⟨rfl, rfl⟩ := List.append_eq_nil_iff.mp split.symm
        exact found
  | cons c cs ih =>
      rw [foundFrom, anywhere, Bool.true_and, Bool.or_eq_true, ih]
      constructor
      · rintro (found | ⟨skipped, rest, rfl, found⟩)
        · exact ⟨[], c :: cs, rfl, found⟩
        · refine ⟨c :: skipped, rest, rfl, ?_⟩
          simpa [Nat.sub_sub, Nat.add_comm 1] using found
      · rintro ⟨skipped, rest, split, found⟩
        cases skipped with
        | nil =>
            obtain rfl : c :: cs = rest := split
            exact .inl found
        | cons other skipped =>
            obtain ⟨rfl, rfl⟩ := List.cons.inj split
            refine .inr ⟨skipped, rest, rfl, ?_⟩
            simpa [Nat.sub_sub, Nat.add_comm 1] using found

end Compiled

/-! ## Boundaries -/

/-- A pattern between two word boundaries. -/
def Node.wholeWord (body : Node) : Node :=
  .seq (.anchor .boundary) (.seq (.seq body .empty) (.anchor .boundary))

/-- Whether a text begins with a word character. -/
def beginsWord (cs : List Char) : Bool := (cs.head?.map isWord).getD false

theorem atBoundary_eq {flags : Flags} (allScripts : flags.basic = false) (s : Spot) :
    s.atBoundary flags = (beginsWord s.before != beginsWord s.after) := by
  have sameClass : (Category.holds flags · .word) = isWord := by
    funext c
    simp [Category.holds, allScripts]
  rw [Spot.atBoundary, sameClass]
  rfl

theorem beginsWord_append {run : List Char} (nonempty : run ≠ [])
    (word : ∀ c ∈ run, isWord c = true) (rest : List Char) : beginsWord (run ++ rest) = true := by
  cases run with
  | nil => exact absurd rfl nonempty
  | cons c run => exact word c List.mem_cons_self

theorem beginsWord_eq_false_iff {cs : List Char} :
    beginsWord cs = false ↔ ∀ c ∈ cs.head?, isWord c = false := by
  cases cs <;> simp [beginsWord]

/-- The text before a spot ends with no word character, and the text after it begins with
a word and goes on with no word character, exactly when there is a boundary on either side
of the word. -/
theorem atBoundary_and_past_iff {flags : Flags} (allScripts : flags.basic = false) {s : Spot}
    {run after : List Char} (split : s.after = run ++ after) (nonempty : run ≠ [])
    (word : ∀ c ∈ run, isWord c = true) :
    (s.atBoundary flags = true ∧ (s.past run after).atBoundary flags = true) ↔
      beginsWord s.before = false ∧ beginsWord after = false := by
  have onward : beginsWord s.after = true := by
    rw [split]
    exact beginsWord_append nonempty word after
  have backward : beginsWord (s.past run after).before = true :=
    beginsWord_append (List.reverse_ne_nil_iff.mpr nonempty)
      (fun c mem => word c (List.mem_reverse.mp mem)) s.before
  have behind : (s.past run after).after = after := rfl
  rw [atBoundary_eq allScripts, atBoundary_eq allScripts, onward, backward, behind]
  simp

/-- A whole word of a text: word characters that no word character precedes or follows. -/
def IsWholeWord (run text : List Char) : Prop :=
  ∃ before after, text = before ++ (run ++ after) ∧ run ≠ [] ∧ (∀ c ∈ run, isWord c = true) ∧
    (∀ c ∈ before.getLast?, isWord c = false) ∧ ∀ c ∈ after.head?, isWord c = false

theorem IsWholeWord.word {run text : List Char} (whole : IsWholeWord run text) :
    ∀ c ∈ run, isWord c = true := by
  obtain ⟨before, after, -, -, word, -⟩ := whole
  exact word

section

variable {flags : Flags} {body : Node} (plain : body.IsPlain)
include plain

/-- A pattern between boundaries matches at a spot exactly when there is a boundary, and
another one behind a text that the pattern covers. -/
theorem isSome_run_wholeWord_iff (widths : Nat → Width) {s : Spot} (measured : s.IsMeasured) :
    (body.wholeWord.run widths flags s some).isSome ↔ s.atBoundary flags = true ∧
      ∃ run after, s.after = run ++ after ∧ body.Covers flags run ∧
        (s.past run after).atBoundary flags = true := by
  have opening : body.wholeWord.run widths flags s some =
      if s.atBoundary flags then
        body.run widths flags s fun t => if t.atBoundary flags then some t else none
      else none := rfl
  rw [opening]
  split
  · next boundary =>
    rw [plain.isSome_run_iff widths flags measured, Spot.Reaches]
    simp [boundary]
  · next boundary => simp [boundary]

/-- A pattern between boundaries that covers nothing but words is found exactly when it
covers a whole word. -/
theorem foundIn_wholeWord_iff (allScripts : flags.basic = false)
    (words : ∀ run, body.Covers flags run → run ≠ [] ∧ ∀ c ∈ run, isWord c = true)
    (groups : List (Option Width)) (text : String) :
    (Compiled.mk flags body.wholeWord groups).foundIn text = true ↔
      ∃ run, IsWholeWord run text.toList ∧ body.Covers flags run := by
  have anywhere : ∀ c, body.wholeWord.mayBegin flags c = true := fun _ => rfl
  have measured {before rest : List Char} (split : text.toList = before ++ rest) :
      Spot.IsMeasured ⟨before.reverse ++ [], rest, text.length - before.length, []⟩ := by
    rw [Spot.IsMeasured, ← String.length_toList, split]
    simp
  have before_iff (before : List Char) :
      beginsWord (before.reverse ++ []) = false ↔ ∀ c ∈ before.getLast?, isWord c = false := by
    rw [List.append_nil, beginsWord_eq_false_iff, List.head?_reverse]
  rw [Compiled.foundIn, Compiled.foundFrom_iff anywhere]
  constructor
  · rintro ⟨before, rest, split, found⟩
    obtain ⟨opens, run, after, restSplit, covers, closes⟩ :=
      (isSome_run_wholeWord_iff plain _ (measured split)).mp found
    obtain rfl : rest = run ++ after := restSplit
    obtain ⟨nonempty, word⟩ := words run covers
    obtain ⟨precedes, follows⟩ :=
      (atBoundary_and_past_iff allScripts rfl nonempty word).mp ⟨opens, closes⟩
    exact ⟨run, ⟨before, after, split, nonempty, word, (before_iff before).mp precedes,
      beginsWord_eq_false_iff.mp follows⟩, covers⟩
  · rintro ⟨run, ⟨before, after, split, nonempty, word, precedes, follows⟩, covers⟩
    refine ⟨before, run ++ after, split, ?_⟩
    let s : Spot := ⟨before.reverse ++ [], run ++ after, text.length - before.length, []⟩
    have isAfter : s.after = run ++ after := rfl
    obtain ⟨opens, closes⟩ := (atBoundary_and_past_iff allScripts isAfter nonempty word).mpr
      ⟨(before_iff before).mpr precedes, beginsWord_eq_false_iff.mpr follows⟩
    rw [isSome_run_wholeWord_iff plain _ (measured split)]
    exact ⟨opens, run, after, rfl, covers, closes⟩

end

end PromptDispatch.Pattern
