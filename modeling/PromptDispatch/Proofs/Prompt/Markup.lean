import Mathlib.Data.List.Forall2
import PromptDispatch.Prompt.Markup
import PromptDispatch.Proofs.Unicode.Characters

/-!
# Recognised markup

What the recognisers of markup find, told without them: a closing tag is a text of a
known shape, and a recogniser of closing tags covers exactly the texts of that shape.
Every recogniser looks for an opening bracket first.  A text without one is therefore
passed over as it is, and what follows a match is treated as if it stood alone.
-/

namespace PromptDispatch.Prompt

open Unicode

/-! ## Blanking out -/

/-- A recogniser that finds nothing but at an opening bracket. -/
def Bracketed (width? : List Char → Option Nat) : Prop :=
  ∀ c cs, c ≠ '<' → width? (c :: cs) = none

theorem bracketed_tag : Bracketed tag? := by
  intro c cs other
  rw [tag?.eq_def]
  split
  · next same => exact absurd (List.cons.inj same).1 other
  · rfl

theorem bracketed_quietElement : Bracketed quietElement? := by
  intro c cs other
  rw [quietElement?.eq_def]
  split
  · next same => exact absurd (List.cons.inj same).1 other
  · rfl

section

variable {width? : List Char → Option Nat}

/-- A text without an opening bracket stays as it is. -/
theorem blankOut_append (bracketed : Bracketed width?) {plain : List Char}
    (noOpening : '<' ∉ plain) (rest : List Char) :
    blankOut width? 0 (plain ++ rest) = plain ++ blankOut width? 0 rest := by
  induction plain with
  | nil => rfl
  | cons c plain ih =>
      rw [List.mem_cons, not_or] at noOpening
      have unmatched := bracketed c (plain ++ rest) (Ne.symm noOpening.1)
      rw [List.cons_append, blankOut, unmatched]
      exact congrArg (c :: ·) (ih noOpening.2)

theorem blankOut_eq_self (bracketed : Bracketed width?) {plain : List Char}
    (noOpening : '<' ∉ plain) : blankOut width? 0 plain = plain := by
  have inert := blankOut_append bracketed noOpening []
  rwa [List.append_nil, blankOut, List.append_nil] at inert

/-- The rest of a match is passed over. -/
theorem blankOut_length_append (passed rest : List Char) :
    blankOut width? passed.length (passed ++ rest) = blankOut width? 0 rest := by
  induction passed with
  | nil => rfl
  | cons c passed ih => exact ih

/-- A match is replaced by one blank, and what follows it is treated as if it stood
alone. -/
theorem blankOut_of_width {matched : List Char} (nonempty : matched ≠ []) {rest : List Char}
    (isWidth : width? (matched ++ rest) = some matched.length) :
    blankOut width? 0 (matched ++ rest) = ' ' :: blankOut width? 0 rest := by
  cases matched with
  | nil => exact absurd rfl nonempty
  | cons c matched =>
      rw [List.length_cons] at isWidth
      rw [List.cons_append] at isWidth ⊢
      rw [blankOut, isWidth]
      exact congrArg (' ' :: ·) (blankOut_length_append matched rest)

end

/-! ## Opening tags -/

theorem throughBracket?_append {inner : List Char} (open_end : '>' ∉ inner) (rest : List Char) :
    throughBracket? (inner ++ '>' :: rest) = some (inner.length + 1) := by
  induction inner with
  | nil => rfl
  | cons c inner ih =>
      rw [List.mem_cons, not_or] at open_end
      rw [List.cons_append, throughBracket?, if_neg (Ne.symm open_end.1), ih open_end.2]
      rfl

theorem exists_of_throughBracket? {cs : List Char} {n : Nat} (width : throughBracket? cs = some n) :
    ∃ inner rest, cs = inner ++ '>' :: rest ∧ '>' ∉ inner ∧ n = inner.length + 1 := by
  induction cs generalizing n with
  | nil => cases width
  | cons c cs ih =>
      rw [throughBracket?] at width
      split at width
      · next isBracket =>
        rw [isBracket]
        exact ⟨[], cs, rfl, by simp, (Option.some.inj width).symm⟩
      · next other =>
        obtain ⟨later, laterWidth, rfl⟩ := Option.map_eq_some_iff.mp width
        obtain ⟨inner, rest, rfl, noBracket, rfl⟩ := ih laterWidth
        exact ⟨c :: inner, rest, rfl, by simp [Ne.symm other, noBracket], rfl⟩

/-- What is left behind a bracket. -/
theorem drop_bracket (inner rest : List Char) :
    (inner ++ '>' :: rest).drop (inner.length + 1) = rest := by
  rw [List.append_cons]
  exact List.drop_left' (by simp)

theorem spelled?_append {word name : List Char}
    (spells : List.Forall₂ (fun w c => sameUpToCase w c = true) word name) (rest : List Char) :
    spelled? word (name ++ rest) = some (name, rest) := by
  induction spells with
  | nil => rfl
  | cons same _ ih =>
      rw [List.cons_append, spelled?, if_pos same, ih]
      rfl

/-- The name of a quiet element, in any basic letter case. -/
def IsQuietName (name : List Char) : Prop := name.map lowerBasic ∈ quietNames

theorem forall₂_sameUpToCase {word name : List Char}
    (same : name.map lowerBasic = word.map lowerBasic) :
    List.Forall₂ (fun w c => sameUpToCase w c = true) word name := by
  induction word generalizing name with
  | nil =>
      rw [List.map_nil, List.map_eq_nil_iff] at same
      rw [same]
      exact .nil
  | cons w word ih =>
      rcases List.map_eq_cons_iff.mp same with ⟨c, name, rfl, sameLetter, others⟩
      exact .cons (sameUpToCase_of_lowerBasic sameLetter.symm) (ih others)

/-- The letters of a quiet element's name, in any letter case. -/
def Spells (name : List Char) : Prop :=
  ∃ word ∈ quietNames, List.Forall₂ (fun w c => sameUpToCase w c = true) word name

theorem IsQuietName.spells {name : List Char} (quiet : IsQuietName name) : Spells name := by
  have basic : ∀ word ∈ quietNames, word.map lowerBasic = word := by decide
  exact ⟨_, quiet, forall₂_sameUpToCase (basic _ quiet).symm⟩

/-- The two names part at their second letter. -/
theorem spelled?_script_of_style {name : List Char}
    (spells : List.Forall₂ (fun w c => sameUpToCase w c = true) "style".toList name)
    (rest : List Char) : spelled? "script".toList (name ++ rest) = none := by
  have spelling : "style".toList = ['s', 't', 'y', 'l', 'e'] := rfl
  rw [spelling] at spells
  obtain ⟨first, letters, -, others, rfl⟩ := List.forall₂_cons_left_iff.mp spells
  obtain ⟨second, letters, isT, -, rfl⟩ := List.forall₂_cons_left_iff.mp others
  have letter : lowerCode second.toNat = 't'.toNat := by
    have classOfT : caseClass (lowerCode 't'.toNat) = ['t'.toNat] := by decide
    rw [sameUpToCase, classOfT] at isT
    simpa using isT
  have different : sameUpToCase 'c' second = false := by
    rw [sameUpToCase, letter]
    decide
  rw [List.cons_append, List.cons_append]
  simp [spelled?, different]

/-- The name of a quiet element that is ended by the end of a word is recognised. -/
theorem quietName?_append {name : List Char} (spells : Spells name) {rest : List Char}
    (ends : ∀ c ∈ rest.head?, isWord c = false) :
    quietName? (name ++ rest) = some (name, rest) := by
  have found : quietNames.findSome? (spelled? · (name ++ rest)) = some (name, rest) := by
    obtain ⟨word, quiet, same⟩ := spells
    rw [quietNames, List.mem_pair] at quiet
    rcases quiet with rfl | rfl
    · rw [quietNames, List.findSome?_cons, spelled?_append same]
    · rw [quietNames, List.findSome?_cons, spelled?_script_of_style same, List.findSome?_cons,
        spelled?_append same]
  rw [quietName?, found]
  cases rest with
  | nil => rfl
  | cons c rest =>
      have ended : isWord c = false := ends c rfl
      simp [ended]

theorem exists_of_spelled? {word cs name rest : List Char}
    (found : spelled? word cs = some (name, rest)) :
    cs = name ++ rest ∧ List.Forall₂ (fun w c => sameUpToCase w c = true) word name := by
  induction word generalizing cs name with
  | nil =>
      obtain ⟨rfl, rfl⟩ := by simpa [spelled?] using found
      exact ⟨rfl, .nil⟩
  | cons w word ih =>
      cases cs with
      | nil => cases found
      | cons c cs =>
          rw [spelled?] at found
          split at found
          · next same =>
            obtain ⟨⟨letters, others⟩, foundLater, isName⟩ := Option.map_eq_some_iff.mp found
            obtain ⟨rfl, rfl⟩ := Prod.mk.inj isName
            obtain ⟨rfl, spells⟩ := ih foundLater
            exact ⟨rfl, .cons same spells⟩
          · cases found

theorem exists_of_quietName? {cs name rest : List Char}
    (found : quietName? cs = some (name, rest)) :
    cs = name ++ rest ∧ Spells name ∧ ∀ c ∈ rest.head?, isWord c = false := by
  rw [quietName?] at found
  split at found
  · next letters others isSpelled =>
    obtain ⟨word, quiet, spelled⟩ := List.exists_of_findSome?_eq_some isSpelled
    obtain ⟨isText, same⟩ := exists_of_spelled? spelled
    split at found
    · next c cs =>
      split at found
      · cases found
      · next ended =>
        obtain ⟨rfl, rfl⟩ := Prod.mk.inj (Option.some.inj found)
        refine ⟨isText, ⟨word, quiet, same⟩, ?_⟩
        rintro first ⟨rfl⟩
        exact eq_false_of_ne_true ended
    · obtain ⟨rfl, rfl⟩ := Prod.mk.inj (Option.some.inj found)
      exact ⟨isText, ⟨word, quiet, same⟩, by simp⟩
  · cases found

/-! ## Closing tags -/

/-- A closing tag of a name: the letters agree in lowercase, and there may be blanks
behind them. -/
def Closes (name tag : List Char) : Prop :=
  ∃ letters blanks, tag = '<' :: '/' :: (letters ++ (blanks ++ ['>'])) ∧
    letters.map lower = name.map lower ∧ ∀ c ∈ blanks, isBlank c = true

theorem sameLetters?_eq_some_iff {name cs rest : List Char} :
    sameLetters? name cs = some rest ↔
      ∃ letters, cs = letters ++ rest ∧ letters.map lower = name.map lower := by
  induction name generalizing cs with
  | nil => simp [sameLetters?]
  | cons n name ih =>
      cases cs with
      | nil =>
          simp only [sameLetters?, reduceCtorEq, false_iff]
          rintro ⟨letters, none_left, same⟩
          rw [List.nil_eq, List.append_eq_nil_iff] at none_left
          rw [none_left.1] at same
          cases same
      | cons c cs =>
          rw [sameLetters?]
          split
          · next sameLetter =>
            rw [ih]
            constructor
            · rintro ⟨letters, rfl, same⟩
              exact ⟨c :: letters, rfl, by rw [List.map_cons, List.map_cons, same, sameLetter]⟩
            · rintro ⟨letters, split, same⟩
              rcases List.map_eq_cons_iff.mp same with ⟨first, letters, rfl, -, others⟩
              exact ⟨letters, (List.cons.inj split).2, others⟩
          · next different =>
            simp only [reduceCtorEq, false_iff]
            rintro ⟨letters, split, same⟩
            rcases List.map_eq_cons_iff.mp same with ⟨first, letters, rfl, sameLetter, -⟩
            rw [← (List.cons.inj split).1] at sameLetter
            exact different sameLetter.symm

theorem blanksThenBracket?_append {blanks : List Char} (blank : ∀ c ∈ blanks, isBlank c = true)
    (rest : List Char) : blanksThenBracket? (blanks ++ '>' :: rest) = some (blanks.length + 1) := by
  induction blanks with
  | nil => rfl
  | cons c blanks ih =>
      rw [List.forall_mem_cons] at blank
      have notBracket : c ≠ '>' := by
        rintro rfl
        have bracket_not_blank : isBlank '>' = false := by decide
        cases bracket_not_blank.symm.trans blank.1
      rw [List.cons_append, blanksThenBracket?, if_neg notBracket, if_pos blank.1, ih blank.2]
      rfl

theorem exists_blanks_of_blanksThenBracket? {cs : List Char} {n : Nat}
    (width : blanksThenBracket? cs = some n) :
    ∃ blanks rest, cs = blanks ++ '>' :: rest ∧ (∀ c ∈ blanks, isBlank c = true) ∧
      n = blanks.length + 1 := by
  induction cs generalizing n with
  | nil => cases width
  | cons c cs ih =>
      rw [blanksThenBracket?] at width
      split at width
      · next isBracket =>
        rw [isBracket]
        exact ⟨[], cs, rfl, by simp, (Option.some.inj width).symm⟩
      · split at width
        · next isBlank =>
          obtain ⟨later, laterWidth, rfl⟩ := Option.map_eq_some_iff.mp width
          obtain ⟨blanks, rest, rfl, blank, rfl⟩ := ih laterWidth
          exact ⟨c :: blanks, rest, rfl, List.forall_mem_cons.mpr ⟨isBlank, blank⟩, rfl⟩
        · cases width

theorem closingTag?_append {name tag : List Char} (closes : Closes name tag) (rest : List Char) :
    closingTag? name (tag ++ rest) = some tag.length := by
  obtain ⟨letters, blanks, rfl, same, blank⟩ := closes
  have sameLength : letters.length = name.length := by
    simpa using congrArg List.length same
  have afterLetters : sameLetters? name (letters ++ (blanks ++ '>' :: rest)) =
      some (blanks ++ '>' :: rest) :=
    sameLetters?_eq_some_iff.mpr ⟨letters, rfl, same⟩
  simp only [List.cons_append, List.append_assoc, List.nil_append, closingTag?, afterLetters,
    blanksThenBracket?_append blank, Option.map_some, List.length_cons, List.length_append,
    List.length_nil, sameLength]
  congr 1
  omega

/-- The recogniser of closing tags covers exactly the closing tags that a text begins
with. -/
theorem closingTag?_eq_some_iff {name cs : List Char} {n : Nat} :
    closingTag? name cs = some n ↔
      ∃ tag rest, cs = tag ++ rest ∧ Closes name tag ∧ n = tag.length := by
  constructor
  · intro width
    rw [closingTag?.eq_def] at width
    split at width
    · next cs =>
      split at width
      · next afterLetters sameLetters =>
        obtain ⟨letters, rfl, same⟩ := sameLetters?_eq_some_iff.mp sameLetters
        obtain ⟨inner, bracket, rfl⟩ := Option.map_eq_some_iff.mp width
        obtain ⟨blanks, rest, rfl, blank, rfl⟩ := exists_blanks_of_blanksThenBracket? bracket
        refine ⟨_, rest, ?_, ⟨letters, blanks, rfl, same, blank⟩, ?_⟩
        · simp
        · have sameLength : letters.length = name.length := by
            simpa using congrArg List.length same
          simp only [List.length_cons, List.length_append, List.length_nil, sameLength]
          omega
      · cases width
    · cases width
  · rintro ⟨tag, rest, rfl, closes, rfl⟩
    exact closingTag?_append closes rest

end PromptDispatch.Prompt
