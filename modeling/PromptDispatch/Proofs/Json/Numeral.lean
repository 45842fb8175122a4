import PromptDispatch.Proofs.Json.Digits

/-!
# Numerals

A numeral is a number's text by its parts: a sign, the digits before the point,
the digits after it, and an exponent.  A lawful numeral is read as the number
that its parts make, whatever follows, as long as that is no part of a number.
-/

namespace PromptDispatch.Json

/-- A number's text by its parts.  There is a point when digits come after it;
an exponent has a sign and digits. -/
structure Numeral where
  negative : Bool
  whole : List Char
  fraction : List Char
  exponent : Option (Bool × List Char)

/-- What follows a number is no part of it. -/
def EndsNumber (rest : List Char) : Prop :=
  ∀ c, rest.head? = some c → isDigit c = false ∧ c ≠ '.' ∧ c ≠ 'e' ∧ c ≠ 'E'

theorem EndsNumber.noDigitAhead {rest : List Char} (ends : EndsNumber rest) :
    NoDigitAhead rest :=
  fun c isHead => (ends c isHead).1

theorem endsNumber_nil : EndsNumber [] := by
  intro c isHead
  simp at isHead

theorem endsNumber_cons {c : Char} {rest : List Char}
    (noPart : isDigit c = false ∧ c ≠ '.' ∧ c ≠ 'e' ∧ c ≠ 'E') : EndsNumber (c :: rest) := by
  intro d isHead
  obtain rfl : c = d := by simpa using isHead
  exact noPart

namespace Numeral

/-- The exponent of a numeral in front of a rest. -/
def exponentChars (n : Numeral) (rest : List Char) : List Char :=
  match n.exponent with
  | none => rest
  | some (negative, digits) =>
      'e' :: (if negative then '-' else '+') :: (digits ++ rest)

/-- The point and the exponent of a numeral in front of a rest. -/
def fractionChars (n : Numeral) (rest : List Char) : List Char :=
  if n.fraction = [] then n.exponentChars rest
  else '.' :: (n.fraction ++ n.exponentChars rest)

/-- A numeral in front of a rest. -/
def chars (n : Numeral) (rest : List Char) : List Char :=
  if n.negative then '-' :: (n.whole ++ n.fractionChars rest)
  else n.whole ++ n.fractionChars rest

/-- The power of ten that the exponent stands for. -/
def power (n : Numeral) : Int :=
  match n.exponent with
  | none => 0
  | some (negative, digits) =>
      if negative then -(digitsValue digits : Int) else digitsValue digits

/-- The number of a numeral: a whole number without a point and an exponent. -/
def json (n : Numeral) : Json :=
  if n.fraction = [] ∧ n.exponent = none then
    .int (if n.negative then -(digitsValue n.whole : Int) else digitsValue n.whole)
  else
    .float (.ofDecimal n.negative (digitsValue (n.whole ++ n.fraction))
      (n.power - n.fraction.length))

/-- The parts are made of digits, and only a zero that stands alone before the
point begins with a zero.  A whole number has no more digits than are read. -/
structure Lawful (n : Numeral) : Prop where
  whole : ∀ c ∈ n.whole, isDigit c = true
  leading : n.whole = ['0'] ∨ ∃ c more, n.whole = c :: more ∧ c ≠ '0'
  fraction : ∀ c ∈ n.fraction, isDigit c = true
  exponent : ∀ negative digits, n.exponent = some (negative, digits) →
    digits ≠ [] ∧ ∀ c ∈ digits, isDigit c = true
  length : n.fraction = [] → n.exponent = none → n.whole.length ≤ digitLimit

variable {n : Numeral} (lawful : n.Lawful) {rest : List Char} (ends : EndsNumber rest)

include ends in
theorem noDigitAhead_exponentChars : NoDigitAhead (n.exponentChars rest) := by
  rw [exponentChars]
  split
  · exact ends.noDigitAhead
  · exact noDigitAhead_cons (by decide)

include ends in
theorem noDigitAhead_fractionChars : NoDigitAhead (n.fractionChars rest) := by
  rw [fractionChars]
  split
  · exact noDigitAhead_exponentChars ends
  · exact noDigitAhead_cons (by decide)

include lawful ends

theorem wholePart?_append :
    wholePart? (n.whole ++ n.fractionChars rest) = some (n.whole, n.fractionChars rest) := by
  have taken := takeDigits_append lawful.whole (noDigitAhead_fractionChars (n := n) ends)
  rcases lawful.leading with zero | ⟨c, more, isCons, nonzero⟩
  · rw [zero]
    rfl
  · have digit : isDigit c = true := lawful.whole c (by simp [isCons])
    rw [isCons] at taken ⊢
    rw [List.cons_append] at taken ⊢
    rw [wholePart?.eq_def]
    split
    · next same => exact absurd (List.cons.inj same).1 nonzero
    · next same =>
      rcases List.cons.inj same with ⟨rfl, rfl⟩
      rw [if_pos digit, taken]
    · next same => simp at same

theorem fractionPart_fractionChars :
    fractionPart (n.fractionChars rest) = (n.fraction, n.exponentChars rest) := by
  rw [fractionChars]
  split
  · next none =>
    rw [none, fractionPart.eq_def]
    split
    · next more same =>
      rw [exponentChars] at same
      split at same
      · exact absurd rfl (ends '.' (by rw [same]; rfl)).2.1
      · simp at same
    · rfl
  · next some =>
    rw [fractionPart, takeDigits_append lawful.fraction (noDigitAhead_exponentChars ends)]
    split
    · next none => exact absurd (Prod.mk.inj none).1 some
    · rfl

theorem exponentPart_exponentChars :
    exponentPart (n.exponentChars rest) =
      (n.exponent.map fun _ => n.power, rest) := by
  cases has : n.exponent with
  | none =>
      rw [exponentChars, has]
      cases rest with
      | nil => rfl
      | cons c more =>
          rcases ends c rfl with ⟨-, -, noLower, noUpper⟩
          simp [exponentPart, noLower, noUpper]
  | some parts =>
      rcases parts with ⟨negative, digits⟩
      rcases lawful.exponent negative digits has with ⟨nonempty, areDigits⟩
      have taken := takeDigits_append areDigits ends.noDigitAhead
      rcases List.exists_cons_of_ne_nil nonempty with ⟨d, ds, rfl⟩
      rw [List.cons_append] at taken
      rw [exponentChars, has, power, has]
      cases negative with
      | true => simp [exponentPart, taken]
      | false => simp [exponentPart, taken]

/-- A lawful numeral without its sign is read as the number. -/
theorem number_chars (start p : Nat) :
    ∃ q, number start n.negative p (n.whole ++ n.fractionChars rest) =
      .ok (n.json, ⟨q, rest⟩) := by
  rw [number, wholePart?_append lawful ends]
  dsimp only
  rw [fractionPart_fractionChars lawful ends]
  dsimp only
  rw [exponentPart_exponentChars lawful ends]
  dsimp only
  rw [json]
  cases noFraction : n.fraction with
  | nil =>
      cases noExponent : n.exponent with
      | none =>
          have short := lawful.length noFraction noExponent
          simp [Nat.not_lt.mpr short]
      | some parts => simp
  | cons c more =>
      cases noExponent : n.exponent with
      | none => simp [power, noExponent]
      | some parts => simp

omit ends in
/-- A numeral begins with a digit, after its sign. -/
theorem exists_digit_cons :
    ∃ c more, n.whole ++ n.fractionChars rest = c :: more ∧ isDigit c = true := by
  rcases lawful.leading with zero | ⟨c, more, isCons, -⟩
  · exact ⟨'0', n.fractionChars rest, by rw [zero]; rfl, by decide⟩
  · refine ⟨c, more ++ n.fractionChars rest, by rw [isCons]; rfl, ?_⟩
    exact lawful.whole c (by simp [isCons])

/-- A lawful numeral is read as its number. -/
theorem scalar_chars (p : Nat) :
    ∃ q, scalar p (n.chars rest) = .ok (n.json, ⟨q, rest⟩) := by
  obtain ⟨c, more, isCons, digit⟩ :
      ∃ c more, n.whole ++ n.fractionChars rest = c :: more ∧ isDigit c = true :=
    exists_digit_cons lawful
  have noLetter : ∀ letter, isDigit letter = false → ¬ letter = c :=
    fun _ noDigit => (ne_of_isDigit digit noDigit).symm
  cases sign : n.negative with
  | false =>
      rcases number_chars lawful ends p p with ⟨q, isRead⟩
      rw [sign, isCons] at isRead
      refine ⟨q, ?_⟩
      simp only [scalar, String.reduceToList, chars, sign, Bool.false_eq_true, reduceIte,
        isCons, List.isPrefixOf_iff_prefix, List.cons_prefix_cons, false_and,
        noLetter 'n' rfl, noLetter 't' rfl, noLetter 'f' rfl, noLetter 'N' rfl,
        noLetter 'I' rfl, noLetter '-' rfl, Option.or_self]
      split
      · next same => exact absurd (List.cons.inj same).1.symm (noLetter '-' rfl)
      · exact isRead
  | true =>
      rcases number_chars lawful ends p (p + 1) with ⟨q, isRead⟩
      rw [sign, isCons] at isRead
      refine ⟨q, ?_⟩
      simp [scalar, chars, sign, isCons, List.isPrefixOf, noLetter 'I' rfl, isRead]

end Numeral

end PromptDispatch.Json
