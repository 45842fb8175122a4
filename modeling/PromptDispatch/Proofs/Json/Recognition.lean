import PromptDispatch.Proofs.Json.Steps

/-!
# The reader accepts the grammar

The reader takes off a value where the grammar does, list items and object fields
included, and so it reads a text exactly when the text is one of the grammar.
Where the grammar leaves open how far a number goes, the reader takes all of it;
that is no loss, because a number is never followed by what may go on with it.

What is read is plain, whatever the text.
-/

namespace PromptDispatch.Json

/-! ## What is read belongs to the grammar -/

theorem isValue_of_scalar {p : Nat} {cs : List Char} {v : Json} {rest : Rest}
    (isRead : scalar p cs = .ok (v, rest)) : IsValue cs rest.chars := by
  rcases scalar_cases isRead with
    ⟨word, isWord, rfl, -⟩ | ⟨negative, q, unsigned, rfl | rfl, isNumber⟩
  · have areWords : ∀ word ∈ meanings, word.1 ∈ words := by simp [meanings, words]
    exact .word (areWords word isWord) rest.chars
  · exact .positive (isUnsigned_of_number isNumber)
  · exact .negative (isUnsigned_of_number isNumber)

/-- The grammar has every step that the reader takes. -/
theorem closed_grammar :
    Closed (fun _ => IsValue) (fun _ => IsItems) (fun _ => IsFields) where
  scalar := isValue_of_scalar
  string bodyRead := .string (isBody_of_stringBody bodyRead)
  emptyList := .emptyList
  list := .list
  emptyObject := .emptyObject
  object := .object
  lastItem := .last
  moreItems := .more
  lastField nameRead := .last (isBody_of_stringBody nameRead)
  moreFields nameRead := .more (isBody_of_stringBody nameRead)

theorem isText_of_read {text : String} {v : Json} (isRead : read text = .ok v) :
    IsText text :=
  closed_grammar.of_read isRead

/-! ## What is read is plain -/

theorem isPlain_of_number {start p : Nat} {negative : Bool} {cs : List Char} {v : Json}
    {rest : Rest} (isRead : number start negative p cs = .ok (v, rest)) : v.IsPlain := by
  simp only [number] at isRead
  split at isRead
  · cases isRead
  · next whole afterWhole found =>
    split at isRead
    · split at isRead
      · cases isRead
      · next withinLimit =>
        obtain ⟨rfl, -⟩ := by simpa using isRead
        have value_lt := digitsValue_lt (isWhole_of_wholePart? found).1.digits
        have within : (10 : Nat) ^ whole.length ≤ 10 ^ digitLimit :=
          Nat.pow_le_pow_right (by decide) (by omega)
        have natAbs_eq : (if negative = true then -(digitsValue whole : Int)
            else (digitsValue whole : Int)).natAbs = digitsValue whole := by
          split <;> simp
        rw [IsPlain, natAbs_eq]
        omega
    · obtain ⟨rfl, -⟩ := by simpa using isRead
      trivial

theorem isPlain_of_scalar {p : Nat} {cs : List Char} {v : Json} {rest : Rest}
    (isRead : scalar p cs = .ok (v, rest)) : v.IsPlain := by
  rcases scalar_cases isRead with ⟨word, isWord, -, rfl⟩ | ⟨negative, q, unsigned, -, isNumber⟩
  · have plain : ∀ word ∈ meanings, word.2.IsPlain := by simp [meanings, IsPlain]
    exact plain word isWord
  · exact isPlain_of_number isNumber

theorem closed_isPlain :
    Closed (fun v _ _ => v.IsPlain) (fun vs _ _ => ∀ v ∈ vs, v.IsPlain)
      (fun fs _ _ => ∀ f ∈ fs, f.2.IsPlain) where
  scalar := isPlain_of_scalar
  string _ := trivial
  emptyList _ := trivial
  list _ plain := by rwa [IsPlain, arePlain_iff]
  emptyObject _ := ⟨List.nodup_nil, trivial⟩
  object _ plain := isPlain_obj_ofPairs plain
  lastItem plain _ := by simpa using plain
  moreItems headPlain _ _ plain := List.forall_mem_cons.mpr ⟨headPlain, plain⟩
  lastField _ _ _ plain _ := by simpa using plain
  moreFields _ _ _ headPlain _ _ plain := List.forall_mem_cons.mpr ⟨headPlain, plain⟩

/-- Whatever is read is a value that JSON text can carry. -/
theorem isPlain_of_read {text : String} {v : Json} (isRead : read text = .ok v) :
    v.IsPlain := by
  rcases closed_isPlain.of_read isRead with ⟨-, -, -, plain, -⟩
  exact plain

/-! ## What belongs to the grammar is read -/

theorem IsUnsigned.begins {cs rest : List Char} (unsigned : IsUnsigned cs rest) :
    ∃ d more, cs = d :: more ∧ isDigit d = true := by
  cases unsigned with
  | parts isWhole isFraction isExponent short =>
      cases isWhole with
      | zero => exact ⟨'0', _, rfl, rfl⟩
      | leading digits nonzero => exact ⟨_, _, rfl, digits _ List.mem_cons_self⟩

section Numbers

variable {cs rest : List Char}

theorem exists_scalar_of_positive (unsigned : IsUnsigned cs rest) (ends : EndsNumber rest)
    (p : Nat) : ∃ v q, scalar p cs = .ok (v, ⟨q, rest⟩) := by
  rcases exists_number unsigned ends p false p with ⟨v, q, isRead⟩
  rcases unsigned.begins with ⟨d, more, isCons, digit⟩
  rw [isCons] at isRead ⊢
  have noPrefix : ∀ letter word, isDigit letter = false →
      (letter :: word).isPrefixOf (d :: more) = false := by
    intro letter word noDigit
    have noLetter : (letter == d) = false := beq_false_of_ne (ne_of_isDigit digit noDigit).symm
    rw [List.isPrefixOf, noLetter, Bool.false_and]
  have noWord : ∀ w ∈ words, w.toList.isPrefixOf (d :: more) = false := by
    intro w isWord
    simp only [words, List.mem_cons, List.not_mem_nil, or_false] at isWord
    rcases isWord with rfl | rfl | rfl | rfl | rfl | rfl <;> exact noPrefix _ _ rfl
  refine ⟨v, q, ?_⟩
  rw [scalar]
  dsimp only
  rw [noWord _ (by decide), noWord _ (by decide), noWord _ (by decide), noWord _ (by decide),
    noWord _ (by decide), noWord _ (by decide)]
  split
  · next chosen => cases chosen
  · exact isRead
  · rintro others same
    exact ne_of_isDigit digit rfl (List.cons.inj same).1

theorem exists_scalar_of_negative (unsigned : IsUnsigned cs rest) (ends : EndsNumber rest)
    (p : Nat) : ∃ v q, scalar p ('-' :: cs) = .ok (v, ⟨q, rest⟩) := by
  rcases exists_number unsigned ends p true (p + 1) with ⟨v, q, isRead⟩
  rcases unsigned.begins with ⟨d, more, isCons, digit⟩
  have noLetter : ¬ 'I' = d := (ne_of_isDigit digit rfl).symm
  refine ⟨v, q, ?_⟩
  rw [isCons] at isRead ⊢
  simp [scalar, List.isPrefixOf, noLetter, isRead]

end Numbers

theorem exists_scalar_of_word {word : String} (isWord : word ∈ words) (rest : List Char)
    (p : Nat) : ∃ v q, scalar p (word.toList ++ rest) = .ok (v, ⟨q, rest⟩) := by
  simp only [words, List.mem_cons, List.not_mem_nil, or_false] at isWord
  rcases isWord with rfl | rfl | rfl | rfl | rfl | rfl <;> exact ⟨_, _, rfl⟩

/-! ## What a value begins with -/

/-- What a value begins with: no blank, no end of a list and no byte order mark. -/
def OpensValue (c : Char) : Prop := isBlank c = false ∧ c ≠ ']' ∧ c ≠ '\ufeff'

instance : DecidablePred OpensValue := fun _ => inferInstanceAs (Decidable (_ ∧ _))

theorem opensValue_of_isDigit {d : Char} (digit : isDigit d = true) : OpensValue d := by
  refine ⟨?_, ne_of_isDigit digit rfl, ne_of_isDigit digit rfl⟩
  have other : ∀ c, isDigit c = false → d ≠ c := fun _ => ne_of_isDigit digit
  simp [isBlank, other ' ' rfl, other '\t' rfl, other '\n' rfl, other '\r' rfl]

theorem IsValue.opens {cs rest : List Char} (isValue : IsValue cs rest) :
    ∃ c more, cs = c :: more ∧ OpensValue c := by
  cases isValue with
  | word isWord =>
      simp only [words, List.mem_cons, List.not_mem_nil, or_false] at isWord
      rcases isWord with rfl | rfl | rfl | rfl | rfl | rfl <;> exact ⟨_, _, rfl, by decide⟩
  | positive number =>
      rcases number.begins with ⟨d, more, rfl, digit⟩
      exact ⟨d, more, rfl, opensValue_of_isDigit digit⟩
  | negative | string | emptyList | list | emptyObject | object => exact ⟨_, _, rfl, by decide⟩

theorem IsUnsigned.length_lt {cs rest : List Char} (unsigned : IsUnsigned cs rest) :
    rest.length < cs.length := by
  cases unsigned with
  | parts isWhole =>
      cases isWhole <;> simp only [List.length_append, List.length_cons] <;> omega

mutual

theorem IsValue.length_lt {cs rest : List Char} : IsValue cs rest → rest.length < cs.length
  | .word isWord rest => by
      have nonempty : ∀ w ∈ words, 0 < w.toList.length := by decide
      have positive := nonempty _ isWord
      rw [List.length_append]
      omega
  | .positive number => number.length_lt
  | .negative number => Nat.lt_succ_of_lt number.length_lt
  | .string body => Nat.lt_succ_of_lt body.length_lt
  | .emptyList gap | .emptyObject gap => Nat.lt_succ_of_le (Nat.le_of_succ_le gap.length_le)
  | .list gap items => Nat.lt_succ_of_lt (Nat.lt_of_lt_of_le items.length_lt gap.length_le)
  | .object gap fields => Nat.lt_succ_of_lt (Nat.lt_of_lt_of_le fields.length_lt gap.length_le)

theorem IsItems.length_lt {cs rest : List Char} : IsItems cs rest → rest.length < cs.length
  | .last value gap => Nat.lt_trans gap.length_le value.length_lt
  | .more value before behind others =>
      Nat.lt_trans others.length_lt <| Nat.lt_of_le_of_lt behind.length_le <|
        Nat.lt_trans before.length_le value.length_lt

theorem IsFields.length_lt {cs rest : List Char} : IsFields cs rest → rest.length < cs.length
  | .last name before behind value gap =>
      Nat.lt_succ_of_lt <| Nat.lt_trans gap.length_le <| Nat.lt_trans value.length_lt <|
        Nat.lt_of_le_of_lt behind.length_le <| Nat.lt_trans before.length_le name.length_lt
  | .more name before behind value beforeComma behindComma others =>
      Nat.lt_succ_of_lt <| Nat.lt_trans others.length_lt <|
        Nat.lt_of_le_of_lt behindComma.length_le <| Nat.lt_trans beforeComma.length_le <|
          Nat.lt_trans value.length_lt <| Nat.lt_of_le_of_lt behind.length_le <|
            Nat.lt_trans before.length_le name.length_lt

end

theorem IsGap.endsNumber {cs rest : List Char} (gap : IsGap cs rest) (ends : EndsNumber rest) :
    EndsNumber cs := by
  cases gap with
  | nothing => exact ends
  | blank isBlank _ =>
      apply endsNumber_cons
      simp only [Json.isBlank, Bool.or_eq_true, decide_eq_true_eq] at isBlank
      rcases isBlank with ((rfl | rfl) | rfl) | rfl <;> decide

/-! ## Whatever is of the grammar is taken off -/

theorem IsBody.takes {cs rest : List Char} (body : IsBody cs rest) :
    TakesBody (fun _ => True) cs rest := by
  intro p
  rcases exists_stringBody body (Nat.le_succ _) p (p + 1) [] with ⟨s, q, isRead⟩
  exact ⟨s, q, trivial, isRead⟩

theorem takes_scalar {c : Char} {more rest : List Char}
    (other : c ≠ '\x22' ∧ c ≠ '[' ∧ c ≠ '\x7b')
    (isRead : ∀ p, ∃ v q, scalar p (c :: more) = .ok (v, ⟨q, rest⟩)) :
    TakesValue (fun _ => True) (c :: more) rest :=
  takesValue_scalar other (by simpa using isRead)

theorem takes_word {word : String} (isWord : word ∈ words) (rest : List Char) :
    TakesValue (fun _ => True) (word.toList ++ rest) rest := by
  have isRead := exists_scalar_of_word isWord rest
  simp only [words, List.mem_cons, List.not_mem_nil, or_false] at isWord
  rcases isWord with rfl | rfl | rfl | rfl | rfl | rfl <;> exact takes_scalar (by decide) isRead

theorem takes_positive {cs rest : List Char} (number : IsUnsigned cs rest)
    (ends : EndsNumber rest) : TakesValue (fun _ => True) cs rest := by
  have isRead := exists_scalar_of_positive number ends
  rcases number.begins with ⟨d, more, rfl, digit⟩
  have isOther : d ≠ '\x22' ∧ d ≠ '[' ∧ d ≠ '\x7b' :=
    ⟨ne_of_isDigit digit rfl, ne_of_isDigit digit rfl, ne_of_isDigit digit rfl⟩
  exact takes_scalar isOther isRead

theorem IsValue.begins {cs rest : List Char} (isValue : IsValue cs rest) : Begins cs := by
  rcases isValue.opens with ⟨c, more, cs_eq, shown, noEnd, -⟩
  exact ⟨c, more, cs_eq, shown, noEnd⟩

theorem IsItems.begins {cs rest : List Char} (items : IsItems cs rest) : Begins cs := by
  cases items with
  | last value _ => exact value.begins
  | more value _ _ _ => exact value.begins

theorem IsFields.begins {cs rest : List Char} (fields : IsFields cs rest) :
    ∃ more, cs = '\x22' :: more := by
  cases fields with
  | last => exact ⟨_, rfl⟩
  | more => exact ⟨_, rfl⟩

mutual

/-- A value of the grammar is taken off where no number goes on. -/
theorem IsValue.takes {cs rest : List Char} :
    IsValue cs rest → EndsNumber rest → TakesValue (fun _ => True) cs rest
  | .word isWord rest, _ => takes_word isWord rest
  | .positive number, ends => takes_positive number ends
  | .negative number, ends => takes_scalar (by decide) (exists_scalar_of_negative number ends)
  | .string body, _ => takesValue_string body.takes fun _ _ => trivial
  | .emptyList gap, _ => takesValue_emptyList gap trivial
  | .list gap items, _ => takesValue_list gap items.begins items.takes fun _ _ => trivial
  | .emptyObject gap, _ => takesValue_emptyObject gap trivial
  | .object gap fields, _ => by
      have isRead := fields.takes
      rcases fields.begins with ⟨more, rfl⟩
      exact takesValue_object gap isRead fun _ _ => trivial

theorem IsItems.takes {cs rest : List Char} :
    IsItems cs rest → TakesItems (fun _ => True) cs rest
  | .last value gap =>
      takesItems_last (value.takes (gap.endsNumber (endsNumber_cons (by decide)))) gap
        fun _ _ => trivial
  | .more value before behind others =>
      takesItems_more value.length_lt
        (value.takes (before.endsNumber (endsNumber_cons (by decide)))) before behind
        others.begins others.takes fun _ _ _ _ => trivial

theorem IsFields.takes {cs rest : List Char} :
    IsFields cs rest → TakesFields (fun _ => True) cs rest
  | .last name before behind value gap =>
      takesFields_last name.length_lt.le name.takes before behind value.begins
        (value.takes (gap.endsNumber (endsNumber_cons (by decide)))) gap fun _ _ _ _ => trivial
  | .more name before behind value beforeComma behindComma others => by
      have othersRead := others.takes
      rcases others.begins with ⟨more, rfl⟩
      exact takesFields_more name.length_lt.le name.takes before behind value.begins
        (value.takes (beforeComma.endsNumber (endsNumber_cons (by decide)))) value.length_lt
        beforeComma behindComma othersRead fun _ _ _ _ _ _ => trivial

end

/-! ## Whole texts -/

theorem exists_read_of_isText {text : String} (isText : IsText text) :
    ∃ v, read text = .ok v := by
  rcases isText with ⟨start, after, leading, isValue, trailing⟩
  have shorter := leading.length_le
  have taken := isValue.takes (trailing.endsNumber endsNumber_nil)
  rcases isValue.opens with ⟨c, more, rfl, shown, -, noMark⟩
  rcases leading.skipBlanks_eq (by simpa using shown) 0 with ⟨q, skipped⟩
  rcases taken (2 * text.toList.length + 2) q (by omega) with ⟨v, r, -, found⟩
  rcases trailing.skipBlanks_eq (by simp) r with ⟨r', ended⟩
  refine ⟨v, ?_⟩
  rw [read, readChars.eq_def]
  split
  · next marked =>
    rw [marked] at leading
    cases leading with
    | nothing => exact absurd rfl noMark
    | blank isBlank => cases isBlank
  · rw [skipped]
    dsimp only
    rw [found]
    simp only [bind, Except.bind, ended]

/-- A text is read exactly when it is of the grammar. -/
theorem exists_read_iff {text : String} : (∃ v, read text = .ok v) ↔ IsText text :=
  ⟨fun ⟨_, isRead⟩ => isText_of_read isRead, exists_read_of_isText⟩

end PromptDispatch.Json
