import PromptDispatch.Text.Utf8

/-!
# Decoding is the inverse of encoding

Every character is written as a sequence of one to four bytes.  A step of the
decoder takes off exactly the sequence of the character it finds, so bytes have a
text exactly when they are the sequences of its characters, one after another.
-/

namespace PromptDispatch.Text

/-! ## Sequences -/

/-- The bytes that a number of the code space is written with, as numbers. -/
def sequenceOf (n : Nat) : List Nat :=
  if n < 128 then [n]
  else if n < 2048 then [192 + n / 64, 128 + n % 64]
  else if n < 65536 then [224 + n / 4096, 128 + n / 64 % 64, 128 + n % 64]
  else [240 + n / 262144, 128 + n / 4096 % 64, 128 + n / 64 % 64, 128 + n % 64]

section Lengths

variable {n : Nat}

theorem sequenceOf_one (small : n < 128) : sequenceOf n = [n] := if_pos small

theorem sequenceOf_two (large : 128 ≤ n) (small : n < 2048) :
    sequenceOf n = [192 + n / 64, 128 + n % 64] := by
  rw [sequenceOf, if_neg (by omega), if_pos small]

theorem sequenceOf_three (large : 2048 ≤ n) (small : n < 65536) :
    sequenceOf n = [224 + n / 4096, 128 + n / 64 % 64, 128 + n % 64] := by
  rw [sequenceOf, if_neg (by omega), if_neg (by omega), if_pos small]

theorem sequenceOf_four (large : 65536 ≤ n) :
    sequenceOf n =
      [240 + n / 262144, 128 + n / 4096 % 64, 128 + n / 64 % 64, 128 + n % 64] := by
  rw [sequenceOf, if_neg (by omega), if_neg (by omega), if_neg (by omega)]

theorem length_sequenceOf_pos (n : Nat) : 0 < (sequenceOf n).length := by
  unfold sequenceOf
  repeat' split
  all_goals exact Nat.succ_pos _

end Lengths

/-- The numbers of characters. -/
def IsScalar (n : Nat) : Prop := n < 55296 ∨ 57343 < n ∧ n < 1114112

theorem isScalar_toNat (c : Char) : IsScalar c.toNat := c.valid

theorem toNat_ofNat {n : Nat} (scalar : IsScalar n) : (Char.ofNat n).toNat = n := by
  have isValid : n.isValidChar := scalar
  have ofNat_eq : Char.ofNat n = Char.ofNatAux n isValid := dif_pos isValid
  rw [ofNat_eq]
  rfl

/-- The sequence of a character is its encoding. -/
theorem map_utf8EncodeChar (c : Char) :
    (String.utf8EncodeChar c).map UInt8.toNat = sequenceOf c.toNat := by
  have scalar := isScalar_toNat c
  have toNat_eq : c.val.toNat = c.toNat := rfl
  rw [String.utf8EncodeChar, toNat_eq]
  generalize c.toNat = n at scalar ⊢
  rw [IsScalar] at scalar
  repeat' split
  · rw [sequenceOf_one (by omega)]
    simp only [List.map_cons, List.map_nil, UInt8.toNat_ofNat', List.cons.injEq, and_true]
    omega
  · rw [sequenceOf_two (by omega) (by omega)]
    simp only [List.map_cons, List.map_nil, UInt8.toNat_ofNat', List.cons.injEq, and_true]
    omega
  · rw [sequenceOf_three (by omega) (by omega)]
    simp only [List.map_cons, List.map_nil, UInt8.toNat_ofNat', List.cons.injEq, and_true]
    omega
  · rw [sequenceOf_four (by omega)]
    simp only [List.map_cons, List.map_nil, UInt8.toNat_ofNat', List.cons.injEq, and_true]
    omega

/-! ## One step -/

theorem isContinuation_iff {b : Nat} : isContinuation b = true ↔ 128 ≤ b ∧ b < 192 := by
  simp [isContinuation]

theorem secondFits_iff {a b : Nat} :
    secondFits a b = true ↔ (128 ≤ b ∧ b < 192) ∧ (a = 224 → 160 ≤ b) ∧ (a = 237 → b < 160) ∧
      (a = 240 → 144 ≤ b) ∧ (a = 244 → b < 144) := by
  simp only [secondFits, isContinuation, Bool.and_eq_true, decide_eq_true_eq, Bool.not_eq_true',
    Bool.and_eq_false_iff, beq_eq_false_iff_ne, decide_eq_false_iff_not]
  omega

/-- The decoder takes off the sequence of a character. -/
theorem decodeStep_sequenceOf {n : Nat} (scalar : IsScalar n) (rest : List Nat) :
    decodeStep (sequenceOf n ++ rest) = .ok (Char.ofNat n, (sequenceOf n).length) := by
  rw [IsScalar] at scalar
  by_cases one : n < 128
  · rw [sequenceOf_one one]
    simp [decodeStep, one]
  by_cases two : n < 2048
  · rw [sequenceOf_two (by omega) two]
    have fits : secondFits (192 + n / 64) (128 + n % 64) = true := secondFits_iff.mpr (by omega)
    have number : (192 + n / 64 - 192) * 64 + (128 + n % 64 - 128) = n := by omega
    simp only [List.cons_append, List.nil_append, decodeStep, fits, number]
    rw [if_neg (by omega), if_neg (by simp; omega), if_neg (by simp), if_pos (by omega)]
    rfl
  by_cases three : n < 65536
  · rw [sequenceOf_three (by omega) three]
    have fits : secondFits (224 + n / 4096) (128 + n / 64 % 64) = true :=
      secondFits_iff.mpr (by omega)
    have third : isContinuation (128 + n % 64) = true := isContinuation_iff.mpr (by omega)
    have number : (224 + n / 4096 - 224) * 4096 + (128 + n / 64 % 64 - 128) * 64 +
        (128 + n % 64 - 128) = n := by omega
    simp only [List.cons_append, List.nil_append, decodeStep, fits, third, number]
    rw [if_neg (by omega), if_neg (by simp; omega), if_neg (by simp), if_neg (by omega),
      if_neg (by simp), if_pos (by omega)]
    rfl
  · rw [sequenceOf_four (by omega)]
    have fits : secondFits (240 + n / 262144) (128 + n / 4096 % 64) = true :=
      secondFits_iff.mpr (by omega)
    have third : isContinuation (128 + n / 64 % 64) = true := isContinuation_iff.mpr (by omega)
    have fourth : isContinuation (128 + n % 64) = true := isContinuation_iff.mpr (by omega)
    have number : (240 + n / 262144 - 240) * 262144 + (128 + n / 4096 % 64 - 128) * 4096 +
        (128 + n / 64 % 64 - 128) * 64 + (128 + n % 64 - 128) = n := by omega
    simp only [List.cons_append, List.nil_append, decodeStep, fits, third, fourth, number]
    rw [if_neg (by omega), if_neg (by simp; omega), if_neg (by simp), if_neg (by omega),
      if_neg (by simp), if_neg (by omega), if_neg (by simp)]
    rfl

/-! Bytes that fit together are the sequence of the number they make. -/

section Fitting

variable {a b c d : Nat}

theorem sequenceOf_of_two (start : 194 ≤ a) (two : a < 224) (second : secondFits a b = true) :
    IsScalar ((a - 192) * 64 + (b - 128)) ∧
      sequenceOf ((a - 192) * 64 + (b - 128)) = [a, b] := by
  have fits := secondFits_iff.mp second
  refine ⟨.inl (by omega), ?_⟩
  rw [sequenceOf_two (by omega) (by omega)]
  simp only [List.cons.injEq, and_true]
  omega

theorem sequenceOf_of_three (start : 224 ≤ a) (three : a < 240)
    (second : secondFits a b = true) (third : isContinuation c = true) :
    IsScalar ((a - 224) * 4096 + (b - 128) * 64 + (c - 128)) ∧
      sequenceOf ((a - 224) * 4096 + (b - 128) * 64 + (c - 128)) = [a, b, c] := by
  have fits := secondFits_iff.mp second
  have continues := isContinuation_iff.mp third
  rw [IsScalar]
  refine ⟨by omega, ?_⟩
  rw [sequenceOf_three (by omega) (by omega)]
  simp only [List.cons.injEq, and_true]
  omega

theorem sequenceOf_of_four (start : 240 ≤ a) (four : a < 245) (second : secondFits a b = true)
    (third : isContinuation c = true) (fourth : isContinuation d = true) :
    IsScalar ((a - 240) * 262144 + (b - 128) * 4096 + (c - 128) * 64 + (d - 128)) ∧
      sequenceOf ((a - 240) * 262144 + (b - 128) * 4096 + (c - 128) * 64 + (d - 128)) =
        [a, b, c, d] := by
  have fits := secondFits_iff.mp second
  have continues := isContinuation_iff.mp third
  have continuesToo := isContinuation_iff.mp fourth
  rw [IsScalar]
  refine ⟨by omega, ?_⟩
  rw [sequenceOf_four (by omega)]
  simp only [List.cons.injEq, and_true]
  omega

end Fitting

/-- What the decoder takes off is the sequence of a character. -/
theorem decodeStep_eq_ok {bytes : List Nat} {c : Char} {used : Nat}
    (taken : decodeStep bytes = .ok (c, used)) :
    used = (sequenceOf c.toNat).length ∧ ∃ rest, bytes = sequenceOf c.toNat ++ rest := by
  have of_scalar : ∀ (shape rest : List Nat) {n : Nat}, IsScalar n ∧ sequenceOf n = shape →
      Char.ofNat n = c ∧ shape.length = used → bytes = shape ++ rest →
      used = (sequenceOf c.toNat).length ∧ ∃ rest, bytes = sequenceOf c.toNat ++ rest := by
    rintro shape rest n ⟨scalar, rfl⟩ ⟨rfl, rfl⟩ bytes_eq
    rw [toNat_ofNat scalar]
    exact ⟨rfl, rest, bytes_eq⟩
  rw [decodeStep.eq_def] at taken
  split at taken
  · cases taken
  next a rest =>
  split at taken
  · next one =>
    exact of_scalar [a] rest ⟨.inl (by omega), sequenceOf_one one⟩
      (Prod.mk.inj (Except.ok.inj taken)) rfl
  split at taken
  · cases taken
  next noAscii start =>
  obtain ⟨least, most⟩ : 194 ≤ a ∧ a < 245 := by simpa using start
  split at taken
  · cases taken
  next b rest =>
  split at taken
  · cases taken
  next second =>
  replace second : secondFits a b = true := by simpa using second
  split at taken
  · next two =>
    exact of_scalar [a, b] rest (sequenceOf_of_two least two second)
      (Prod.mk.inj (Except.ok.inj taken)) rfl
  next notTwo =>
  split at taken
  · cases taken
  next c rest =>
  split at taken
  · cases taken
  next third =>
  replace third : isContinuation c = true := by simpa using third
  split at taken
  · next three =>
    exact of_scalar [a, b, c] rest
      (sequenceOf_of_three (Nat.le_of_not_lt notTwo) three second third)
      (Prod.mk.inj (Except.ok.inj taken)) rfl
  next notThree =>
  split at taken
  · cases taken
  next d rest =>
  split at taken
  · cases taken
  next fourth =>
  replace fourth : isContinuation d = true := by simpa using fourth
  exact of_scalar [a, b, c, d] rest
    (sequenceOf_of_four (Nat.le_of_not_lt notThree) most second third fourth)
    (Prod.mk.inj (Except.ok.inj taken)) rfl

/-! ## Whole texts -/

/-- The rest of a sequence is passed over. -/
theorem decodeFrom_append (skipped bytes : List Nat) (position : Nat) :
    decodeFrom skipped.length position (skipped ++ bytes) =
      decodeFrom 0 (position + skipped.length) bytes := by
  induction skipped generalizing position with
  | nil => rfl
  | cons b skipped ih =>
      rw [List.length_cons, List.cons_append, decodeFrom, ih]
      congr 1
      omega

/-- A character in front of bytes is decoded in front of theirs. -/
theorem decodeFrom_sequenceOf (c : Char) (bytes : List Nat) (position : Nat) :
    ∃ next, decodeFrom 0 position (sequenceOf c.toNat ++ bytes) =
      (c :: ·) <$> decodeFrom 0 next bytes := by
  have step := decodeStep_sequenceOf (isScalar_toNat c) bytes
  rcases List.exists_cons_of_length_pos (length_sequenceOf_pos c.toNat) with ⟨a, skipped, isCons⟩
  refine ⟨position + 1 + skipped.length, ?_⟩
  rw [isCons] at step ⊢
  rw [List.cons_append] at step ⊢
  rw [decodeFrom, step]
  dsimp only
  rw [List.length_cons, Nat.add_sub_cancel, decodeFrom_append, Char.ofNat_toNat]
  rfl

theorem decodeFrom_flatMap (cs : List Char) (position : Nat) :
    decodeFrom 0 position (cs.flatMap fun c => sequenceOf c.toNat) = .ok cs := by
  induction cs generalizing position with
  | nil => rfl
  | cons c cs ih =>
      rcases decodeFrom_sequenceOf c (cs.flatMap fun c => sequenceOf c.toNat) position with
        ⟨next, decoded⟩
      rw [List.flatMap_cons, decoded, ih]
      rfl

theorem flatMap_of_decodeFrom (bytes : List Nat) {cs : List Char} {position : Nat}
    (decoded : decodeFrom 0 position bytes = .ok cs) :
    bytes = cs.flatMap fun c => sequenceOf c.toNat := by
  -- A step takes off more than one byte, so the induction is on the number of them.
  induction length_eq : bytes.length using Nat.strongRecOn generalizing bytes cs position with
  | ind length ih =>
  cases bytes with
  | nil =>
      obtain rfl : [] = cs := Except.ok.inj decoded
      rfl
  | cons a bytes =>
      cases step : decodeStep (a :: bytes) with
      | error fault =>
          rw [decodeFrom, step] at decoded
          cases decoded
      | ok taken =>
          rcases decodeStep_eq_ok step with ⟨-, rest, bytes_eq⟩
          rw [bytes_eq] at decoded length_eq ⊢
          rcases decodeFrom_sequenceOf taken.1 rest position with ⟨next, decoded_eq⟩
          rw [decoded_eq] at decoded
          cases others : decodeFrom 0 next rest with
          | error fault =>
              rw [others] at decoded
              cases decoded
          | ok more =>
              rw [others] at decoded
              obtain rfl : taken.1 :: more = cs := Except.ok.inj decoded
              have shorter : rest.length < length := by
                have positive := length_sequenceOf_pos taken.1.toNat
                rw [List.length_append] at length_eq
                omega
              rw [List.flatMap_cons, ← ih rest.length shorter rest others rfl]

/-- The encoding of a text. -/
def encodeUtf8 (s : String) : List UInt8 := s.toList.flatMap String.utf8EncodeChar

theorem map_encodeUtf8 (s : String) :
    (encodeUtf8 s).map UInt8.toNat = s.toList.flatMap fun c => sequenceOf c.toNat := by
  rw [encodeUtf8, List.map_flatMap]
  simp only [map_utf8EncodeChar]

/-- Bytes are decoded to a text exactly when they are its encoding. -/
theorem decodeUtf8_eq_ok_iff {bytes : List UInt8} {s : String} :
    decodeUtf8 bytes = .ok s ↔ bytes = encodeUtf8 s := by
  constructor
  · intro decoded
    rw [decodeUtf8] at decoded
    cases found : decodeFrom 0 0 (bytes.map UInt8.toNat) with
    | error fault =>
        rw [found] at decoded
        cases decoded
    | ok cs =>
        rw [found] at decoded
        obtain rfl : String.ofList cs = s := Except.ok.inj decoded
        have numbers := flatMap_of_decodeFrom _ found
        rw [← String.toList_ofList (l := cs), ← map_encodeUtf8] at numbers
        exact (List.map_inj_right fun _ _ => UInt8.toNat.inj).mp numbers
  · rintro rfl
    rw [decodeUtf8, map_encodeUtf8, decodeFrom_flatMap]
    exact congrArg Except.ok String.ofList_toList

end PromptDispatch.Text
