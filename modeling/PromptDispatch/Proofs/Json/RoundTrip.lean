import PromptDispatch.Proofs.Json.Plain
import PromptDispatch.Proofs.Json.PrintedNumber
import PromptDispatch.Proofs.Json.Spelling

/-!
# Printing and reading back

Both layouts of a plain value spell it, in front of any rest that does not go
on with a number.  Reading a printed value gives the same value: kinds of
numbers, order of fields and empty lists and objects included.
-/

namespace PromptDispatch.Json

/-! ## Scalars -/

theorem keeps_digits {ds : List Char} (digits : ∀ c ∈ ds, isDigit c = true)
    (rest : List Char) : Keeps (ds ++ rest) rest := by
  apply keeps_append
  intro member
  exact absurd (digits _ member) (by decide)

namespace Numeral

variable {n : Numeral} (lawful : n.Lawful) (rest : List Char)

include lawful

theorem keeps_exponentChars : Keeps (n.exponentChars rest) rest := by
  cases has : n.exponent with
  | none =>
      rw [exponentChars, has]
      exact Keeps.refl rest
  | some parts =>
      rcases parts with ⟨negative, ds⟩
      have digits := (lawful.exponent negative ds has).2
      have sign : (if negative then '-' else '+') ≠ '\r' := by
        cases negative <;> decide
      rw [exponentChars, has]
      exact (extends_cons (by decide) _).keeps.trans
        ((extends_cons sign _).keeps.trans (keeps_digits digits rest))

theorem keeps_fractionChars : Keeps (n.fractionChars rest) rest := by
  rw [fractionChars]
  split
  · exact keeps_exponentChars lawful rest
  · have fraction := keeps_digits lawful.fraction (n.exponentChars rest)
    exact (extends_cons (by decide) _).keeps.trans
      (fraction.trans (keeps_exponentChars lawful rest))

/-- A numeral is made of digits, its point and its signs. -/
theorem extends_chars : Extends (n.chars rest) rest := by
  have unsigned : Extends (n.whole ++ n.fractionChars rest) rest := by
    have digits := lawful.whole
    have nonempty : ∃ c more, n.whole = c :: more := by
      rcases lawful.leading with zero | ⟨c, more, isCons, -⟩
      · exact ⟨'0', [], zero⟩
      · exact ⟨c, more, isCons⟩
    rcases nonempty with ⟨c, more, isCons⟩
    rw [isCons] at digits ⊢
    have noReturn : c ≠ '\r' := by
      rintro rfl
      exact absurd (digits '\r' List.mem_cons_self) (by decide)
    have others := keeps_digits (fun d member => digits d (List.mem_cons_of_mem c member))
      (n.fractionChars rest)
    exact (extends_cons noReturn _).trans_keeps
      (others.trans (keeps_fractionChars lawful rest))
  rw [chars]
  split
  · exact (extends_cons (by decide) _).trans unsigned
  · exact unsigned

end Numeral

/-- The text of a number spells it where no number goes on. -/
theorem spells_numeral {v : Json} {text : List Char} (isNumeral : IsNumeral v text)
    {rest : List Char} (ends : EndsNumber rest) : Spells v (text ++ rest) rest := by
  rcases isNumeral with ⟨n, lawful, rfl, chars_eq⟩
  rw [← chars_eq]
  have isRead := fun p => n.scalar_chars lawful ends p
  have longer := n.extends_chars lawful rest
  obtain ⟨c, more, isCons, digit⟩ :
      ∃ c more, n.whole ++ n.fractionChars rest = c :: more ∧ isDigit c = true :=
    Numeral.exists_digit_cons lawful
  have noDigit : ∀ d, isDigit d = false → c ≠ d := fun _ => ne_of_isDigit digit
  rw [Numeral.chars, isCons] at isRead longer ⊢
  split at isRead
  · next negative =>
    rw [if_pos negative] at longer ⊢
    exact spells_scalar (by decide) longer isRead
  · next positive =>
    rw [if_neg positive] at longer ⊢
    refine spells_scalar ⟨?_, noDigit ']' rfl, noDigit '\x22' rfl, noDigit '[' rfl,
      noDigit '\x7b' rfl⟩ longer isRead
    simp [isBlank, noDigit ' ' rfl, noDigit '\t' rfl, noDigit '\n' rfl, noDigit '\r' rfl]

/-- A word that is read as a scalar spells it. -/
theorem spells_word {v : Json} {c : Char} {word rest : List Char}
    (begins : isBlank c = false ∧ c ≠ ']' ∧ c ≠ '\x22' ∧ c ≠ '[' ∧ c ≠ '\x7b')
    (noReturn : '\r' ∉ c :: word)
    (isRead : ∀ p, ∃ q, scalar p (c :: (word ++ rest)) = .ok (v, ⟨q, rest⟩)) :
    Spells v (c :: (word ++ rest)) rest := by
  refine spells_scalar begins ⟨?_, ?_⟩ isRead
  · rw [List.length_cons, List.length_append]
    omega
  · intro absent member
    rcases List.mem_cons.mp member with isHead | inTail
    · exact noReturn (isHead ▸ List.mem_cons_self)
    · rcases List.mem_append.mp inTail with inWord | inRest
      · exact noReturn (List.mem_cons_of_mem c inWord)
      · exact absent inRest

theorem spells_null (rest : List Char) : Spells .null ("null".toList ++ rest) rest :=
  spells_word (by decide) (by decide) fun p => ⟨p + 4, rfl⟩

theorem spells_bool (b : Bool) (rest : List Char) :
    Spells (.bool b) ((if b then "true" else "false").toList ++ rest) rest := by
  cases b
  · exact spells_word (by decide) (by decide) fun p => ⟨p + 5, rfl⟩
  · exact spells_word (by decide) (by decide) fun p => ⟨p + 4, rfl⟩

/-- A binary64 number is spelled by its text: the finite ones by a numeral, the
others by their names. -/
theorem spells_float (x : Binary64) {rest : List Char} (ends : EndsNumber rest) :
    Spells (.float x) ((x.text Binary64.jsonLayout).toList ++ rest) rest := by
  cases x with
  | nan => exact spells_word (by decide) (by decide) fun p => ⟨p + 3, rfl⟩
  | infinite negative =>
      cases negative
      · exact spells_word (by decide) (by decide) fun p => ⟨p + 8, rfl⟩
      · exact spells_word (by decide) (by decide) fun p => ⟨p + 9, rfl⟩
  | finite negative rank => exact spells_numeral (isNumeral_finite negative rank) ends

/-! ## On one line -/

theorem endsNumber_lineMoreItems (vs : List Json) (rest : List Char) :
    EndsNumber (lineMoreItems vs (']' :: rest)) := by
  cases vs <;> exact endsNumber_cons (by decide)

theorem endsNumber_lineMoreFields (fs : List (String × Json)) (rest : List Char) :
    EndsNumber (lineMoreFields fs ('\x7d' :: rest)) := by
  cases fs <;> exact endsNumber_cons (by decide)

mutual

theorem spells_lineText : ∀ v : Json, v.IsPlain → ∀ {rest : List Char}, EndsNumber rest →
    Spells v (lineText v rest) rest
  | .null, _, rest, _ => spells_null rest
  | .bool b, _, rest, _ => spells_bool b rest
  | .int _, within, _, ends => spells_numeral (isNumeral_int within) ends
  | .float x, _, _, ends => spells_float x ends
  | .str s, _, rest, _ => spells_stringText s rest
  | .sealed _, plain, _, _ => plain.elim
  | .arr [], _, rest, _ => spells_arr_nil rest
  | .arr (v :: vs), plain, rest, _ =>
      spells_arr (Skips.refl _) (spellsItems_lineItems (v :: vs) plain (by simp) rest)
  | .obj [], _, rest, _ => spells_obj_nil rest
  | .obj (f :: fs), plain, rest, _ =>
      spells_obj plain.1 (Skips.refl _)
        (spellsFields_lineFields (f :: fs) plain.2 (by simp) rest)

theorem spellsItems_lineItems : ∀ vs : List Json, ArePlain vs → vs ≠ [] →
    ∀ rest : List Char, SpellsItems vs (lineItems vs (']' :: rest)) rest
  | [], _, nonempty, _ => absurd rfl nonempty
  | v :: vs, plain, _, rest => by
      have head := spells_lineText v plain.1 (endsNumber_lineMoreItems vs rest)
      have tail := spellsItems_lineItems vs plain.2
      cases vs with
      | nil => exact spellsItems_last head (Skips.refl _)
      | cons w vs =>
          exact spellsItems_cons head (Skips.refl _) (skips_space _) (tail (by simp) rest)

theorem spellsFields_lineFields : ∀ fs : List (String × Json), FieldsPlain fs → fs ≠ [] →
    ∀ rest : List Char, SpellsFields fs (lineFields fs ('\x7d' :: rest)) rest
  | [], _, nonempty, _ => absurd rfl nonempty
  | (name, v) :: fs, plain, _, rest => by
      have head := spells_lineText v plain.1 (endsNumber_lineMoreFields fs rest)
      have tail := spellsFields_lineFields fs plain.2
      cases fs with
      | nil => exact spellsFields_last (skips_space _) head (Skips.refl _)
      | cons f fs =>
          exact spellsFields_cons (skips_space _) head (Skips.refl _) (skips_space _)
            (tail (by simp) rest)

end

/-! ## Indented -/

theorem skips_breakTo (depth : Nat) (rest : List Char) : Skips (breakTo depth rest) rest := by
  refine ⟨'\n' :: List.replicate (2 * depth) ' ', rfl, ?_⟩
  intro c member
  rcases List.mem_cons.mp member with isBreak | isSpace
  · exact .inr isBreak
  · exact .inl (List.eq_of_mem_replicate isSpace)

theorem endsNumber_pageMoreItems (depth : Nat) (vs : List Json) (rest : List Char) :
    EndsNumber (pageMoreItems depth vs rest) := by
  cases vs <;> exact endsNumber_cons (by decide)

theorem endsNumber_pageMoreFields (depth : Nat) (fs : List (String × Json))
    (rest : List Char) : EndsNumber (pageMoreFields depth fs rest) := by
  cases fs <;> exact endsNumber_cons (by decide)

mutual

theorem spells_pageText : ∀ v : Json, v.IsPlain → ∀ (depth : Nat) {rest : List Char},
    EndsNumber rest → Spells v (pageText depth v rest) rest
  | .null, _, _, rest, _ => spells_null rest
  | .bool b, _, _, rest, _ => spells_bool b rest
  | .int _, within, _, _, ends => spells_numeral (isNumeral_int within) ends
  | .float x, _, _, _, ends => spells_float x ends
  | .str s, _, _, rest, _ => spells_stringText s rest
  | .sealed _, plain, _, _, _ => plain.elim
  | .arr [], _, _, rest, _ => spells_arr_nil rest
  | .arr (v :: vs), plain, depth, rest, _ => by
      obtain ⟨next, spaced, spelled⟩ :=
        spellsItems_pageItems (v :: vs) plain (by simp) (depth + 1) rest
      exact spells_arr spaced spelled
  | .obj [], _, _, rest, _ => spells_obj_nil rest
  | .obj (f :: fs), plain, depth, rest, _ => by
      obtain ⟨next, spaced, spelled⟩ :=
        spellsFields_pageFields (f :: fs) plain.2 (by simp) (depth + 1) rest
      exact spells_obj plain.1 spaced spelled

theorem spellsItems_pageItems : ∀ vs : List Json, ArePlain vs → vs ≠ [] →
    ∀ (depth : Nat) (rest : List Char), ∃ next, Skips (pageItems depth vs (']' :: rest)) next ∧
      SpellsItems vs next rest
  | [], _, nonempty, _, _ => absurd rfl nonempty
  | v :: vs, plain, _, depth, rest => by
      have head := spells_pageText v plain.1 depth
        (endsNumber_pageMoreItems depth vs (']' :: rest))
      have tail := spellsItems_pageItems vs plain.2
      refine ⟨_, skips_breakTo depth _, ?_⟩
      cases vs with
      | nil => exact spellsItems_last head (skips_breakTo (depth - 1) _)
      | cons w vs =>
          rcases tail (by simp) depth rest with ⟨next, spaced, spelled⟩
          exact spellsItems_cons head (Skips.refl _) spaced spelled

theorem spellsFields_pageFields : ∀ fs : List (String × Json), FieldsPlain fs → fs ≠ [] →
    ∀ (depth : Nat) (rest : List Char),
      ∃ next, Skips (pageFields depth fs ('\x7d' :: rest)) next ∧ SpellsFields fs next rest
  | [], _, nonempty, _, _ => absurd rfl nonempty
  | (name, v) :: fs, plain, _, depth, rest => by
      have head := spells_pageText v plain.1 depth
        (endsNumber_pageMoreFields depth fs ('\x7d' :: rest))
      have tail := spellsFields_pageFields fs plain.2
      refine ⟨_, skips_breakTo depth _, ?_⟩
      cases fs with
      | nil => exact spellsFields_last (skips_space _) head (skips_breakTo (depth - 1) _)
      | cons f fs =>
          rcases tail (by simp) depth rest with ⟨next, spaced, spelled⟩
          exact spellsFields_cons (skips_space _) head (Skips.refl _) spaced spelled

end

/-! ## Whole texts -/

/-- A text that spells a value and nothing else is read as the value. -/
theorem readChars_of_spells {v : Json} {cs : List Char} (spelled : Spells v cs []) :
    readChars cs = .ok v := by
  rcases spelled.begins with ⟨c, more, rfl, shown, -⟩
  have skipped : skipBlanks 0 (c :: more) = ⟨0, c :: more⟩ := by
    rw [skipBlanks, if_neg (by simp [shown])]
  rcases spelled.isRead (2 * (c :: more).length + 2) 0 (by omega) with ⟨q, found⟩
  rw [readChars.eq_def]
  split
  · next same =>
    rcases List.cons.inj same with ⟨rfl, -⟩
    simp [value, scalar, number, wholePart?, isDigit] at found
  · rw [skipped]
    simp only [found, bind, Except.bind]
    rfl

/-- A plain value printed on one line is read back. -/
theorem read_line {v : Json} (plain : v.IsPlain) : read v.line = .ok v := by
  rw [read, line, String.toList_ofList]
  exact readChars_of_spells (spells_lineText v plain endsNumber_nil)

/-- A plain value printed in the indented layout is read back. -/
theorem read_page {v : Json} (plain : v.IsPlain) : read v.page = .ok v := by
  rw [read, page, String.toList_ofList]
  exact readChars_of_spells (spells_pageText v plain 0 endsNumber_nil)

/-- The indented layout has no carriage return. -/
theorem noReturn_page {v : Json} (plain : v.IsPlain) : '\r' ∉ v.page.toList := by
  rw [page, String.toList_ofList]
  exact (spells_pageText v plain 0 endsNumber_nil).longer.clean (by simp)

end PromptDispatch.Json
