import PromptDispatch.Proofs.Json.Numeral
import PromptDispatch.Proofs.Json.Plain
import PromptDispatch.Proofs.Json.PrintedString

/-!
# The grammar of JSON text

Which texts are JSON, told without the reader.  Every part is a relation between
a text and the rest that is left when the part is taken off its front.  The three
names `NaN`, `Infinity` and `-Infinity` count as numbers, and whole numbers have as
many digits as are read.  Escapes stand for characters: halves of pairs come in twos.

The parts that do not contain values, which are gaps, strings and numbers, are
shown here to be what the reader's scanners take off.
-/

namespace PromptDispatch.Json

/-! ## The relations -/

/-- Blanks, any number of them. -/
inductive IsGap : List Char → List Char → Prop where
  | nothing (rest : List Char) : IsGap rest rest
  | blank {c : Char} {cs rest : List Char} (isBlank : isBlank c = true) (others : IsGap cs rest) :
      IsGap (c :: cs) rest

/-- Decimal digits, one at least. -/
structure AreDigits (ds : List Char) : Prop where
  nonempty : ds ≠ []
  digits : ∀ d ∈ ds, isDigit d = true

/-- The digits of a whole number: a zero alone, or digits of which the first is no
zero. -/
inductive IsWhole : List Char → Prop where
  | zero : IsWhole ['0']
  | leading {d : Char} {ds : List Char} (digits : ∀ e ∈ d :: ds, isDigit e = true)
      (nonzero : d ≠ '0') : IsWhole (d :: ds)

/-- A point with digits, or nothing. -/
inductive IsFraction : List Char → Prop where
  | nothing : IsFraction []
  | point {ds : List Char} (digits : AreDigits ds) : IsFraction ('.' :: ds)

/-- An exponent with or without a sign, or nothing. -/
inductive IsExponent : List Char → Prop where
  | nothing : IsExponent []
  | unsigned {e : Char} {ds : List Char} (letter : e = 'e' ∨ e = 'E') (digits : AreDigits ds) :
      IsExponent (e :: ds)
  | signed {e sign : Char} {ds : List Char} (letter : e = 'e' ∨ e = 'E')
      (isSign : sign = '+' ∨ sign = '-') (digits : AreDigits ds) : IsExponent (e :: sign :: ds)

/-- A number without its sign.  Without a fraction and an exponent it has no more
digits than are read. -/
inductive IsUnsigned : List Char → List Char → Prop where
  | parts {whole fraction exponent : List Char} (isWhole : IsWhole whole)
      (isFraction : IsFraction fraction) (isExponent : IsExponent exponent)
      (short : fraction = [] → exponent = [] → whole.length ≤ digitLimit) (rest : List Char) :
      IsUnsigned (whole ++ (fraction ++ (exponent ++ rest))) rest

/-- Four hexadecimal digits that write a number. -/
inductive IsUnit : Nat → List Char → List Char → Prop where
  | digits {a b c d : Char} {i j k l : Nat} (first : hexValue? a = some i)
      (second : hexValue? b = some j) (third : hexValue? c = some k)
      (fourth : hexValue? d = some l) (rest : List Char) :
      IsUnit (((i * 16 + j) * 16 + k) * 16 + l) (a :: b :: c :: d :: rest) rest

/-- The characters of a string and its closing quote. -/
inductive IsBody : List Char → List Char → Prop where
  | closed (rest : List Char) : IsBody ('\x22' :: rest) rest
  | plain {c : Char} {cs rest : List Char} (noQuote : c ≠ '\x22') (noBackslash : c ≠ '\x5c')
      (noControl : 32 ≤ c.toNat) (others : IsBody cs rest) : IsBody (c :: cs) rest
  | escape {c : Char} {cs rest : List Char}
      (simple : c ∈ ['\x22', '\x5c', '/', 'b', 'f', 'n', 'r', 't']) (others : IsBody cs rest) :
      IsBody ('\x5c' :: c :: cs) rest
  | unicode {n : Nat} {cs next rest : List Char} (unit : IsUnit n cs next)
      (whole : isHalf n = false) (others : IsBody next rest) :
      IsBody ('\x5c' :: 'u' :: cs) rest
  | pair {n m : Nat} {cs low next rest : List Char} (first : IsUnit n cs ('\x5c' :: 'u' :: low))
      (isHigh : isHighUnit n = true) (second : IsUnit m low next) (isLow : isLowUnit m = true)
      (others : IsBody next rest) : IsBody ('\x5c' :: 'u' :: cs) rest

/-- The words that are values. -/
def words : List String := ["null", "true", "false", "NaN", "Infinity", "-Infinity"]

mutual

/-- A value. -/
inductive IsValue : List Char → List Char → Prop where
  | word {w : String} (isWord : w ∈ words) (rest : List Char) : IsValue (w.toList ++ rest) rest
  | positive {cs rest : List Char} (number : IsUnsigned cs rest) : IsValue cs rest
  | negative {cs rest : List Char} (number : IsUnsigned cs rest) : IsValue ('-' :: cs) rest
  | string {cs rest : List Char} (body : IsBody cs rest) : IsValue ('\x22' :: cs) rest
  | emptyList {cs rest : List Char} (gap : IsGap cs (']' :: rest)) : IsValue ('[' :: cs) rest
  | list {cs next rest : List Char} (gap : IsGap cs next) (items : IsItems next rest) :
      IsValue ('[' :: cs) rest
  | emptyObject {cs rest : List Char} (gap : IsGap cs ('\x7d' :: rest)) :
      IsValue ('\x7b' :: cs) rest
  | object {cs next rest : List Char} (gap : IsGap cs next) (fields : IsFields next rest) :
      IsValue ('\x7b' :: cs) rest

/-- Values with commas between them, and the closing bracket. -/
inductive IsItems : List Char → List Char → Prop where
  | last {cs after rest : List Char} (value : IsValue cs after) (gap : IsGap after (']' :: rest)) :
      IsItems cs rest
  | more {cs after comma next rest : List Char} (value : IsValue cs after)
      (before : IsGap after (',' :: comma)) (behind : IsGap comma next)
      (others : IsItems next rest) : IsItems cs rest

/-- Names and values with commas between them, and the closing brace. -/
inductive IsFields : List Char → List Char → Prop where
  | last {cs named colon start after rest : List Char} (name : IsBody cs named)
      (before : IsGap named (':' :: colon)) (behind : IsGap colon start)
      (value : IsValue start after) (gap : IsGap after ('\x7d' :: rest)) :
      IsFields ('\x22' :: cs) rest
  | more {cs named colon start after comma next rest : List Char} (name : IsBody cs named)
      (before : IsGap named (':' :: colon)) (behind : IsGap colon start)
      (value : IsValue start after) (beforeComma : IsGap after (',' :: comma))
      (behindComma : IsGap comma next) (others : IsFields next rest) :
      IsFields ('\x22' :: cs) rest

end

/-- A text of one value, with blanks around it. -/
def IsText (text : String) : Prop :=
  ∃ start after, IsGap text.toList start ∧ IsValue start after ∧ IsGap after []

/-- A text that is read as far as an escape for half of a character. -/
def SpellsHalf (text : String) : Prop := ∃ position, read text = .error (.halved position)

/-! ## Gaps -/

namespace IsGap

variable {cs rest : List Char}

theorem length_le (gap : IsGap cs rest) : rest.length ≤ cs.length := by
  induction gap with
  | nothing rest => exact Nat.le_refl _
  | blank _ _ ih => exact Nat.le_succ_of_le ih

/-- The reader takes off all blanks. -/
theorem skipBlanks (p : Nat) (cs : List Char) : IsGap cs (Json.skipBlanks p cs).chars := by
  induction cs generalizing p with
  | nil => exact .nothing []
  | cons c cs ih =>
      rw [Json.skipBlanks]
      split
      · next isBlank => exact .blank isBlank (ih _)
      · exact .nothing _

/-- The reader takes off no more than the blanks in front of something. -/
theorem skipBlanks_eq (gap : IsGap cs rest)
    (shown : ∀ c, rest.head? = some c → isBlank c = false) (p : Nat) :
    ∃ q, Json.skipBlanks p cs = ⟨q, rest⟩ := by
  induction gap generalizing p with
  | nothing rest =>
      cases rest with
      | nil => exact ⟨p, rfl⟩
      | cons c rest =>
          have noBlank := shown c rfl
          exact ⟨p, by rw [Json.skipBlanks, if_neg (by simp [noBlank])]⟩
  | blank isBlank _ ih =>
      rcases ih shown (p + 1) with ⟨q, skipped⟩
      exact ⟨q, by rw [Json.skipBlanks, if_pos isBlank, skipped]⟩

end IsGap

/-! ## Strings -/

/-- Four digits that the reader takes off. -/
theorem isUnit_of_unit? {cs rest : List Char} {n : Nat} (taken : unit? cs = some (n, rest)) :
    IsUnit n cs rest := by
  rw [unit?.eq_def] at taken
  split at taken
  · next a b c d e more =>
    split at taken
    · next first second third fourth =>
      obtain ⟨rfl, rfl⟩ := Prod.mk.inj (Option.some.inj taken)
      exact .digits first second third fourth _
    · cases taken
  · cases taken

theorem IsUnit.unit?_eq {cs rest : List Char} {n : Nat} (isUnit : IsUnit n cs rest)
    (more : rest ≠ []) : unit? cs = some (n, rest) := by
  cases isUnit with
  | digits first second third fourth =>
      rcases List.exists_cons_of_ne_nil more with ⟨e, others, rfl⟩
      simp only [unit?, first, second, third, fourth]

theorem IsUnit.length_eq {cs rest : List Char} {n : Nat} (isUnit : IsUnit n cs rest) :
    cs.length = rest.length + 4 := by
  cases isUnit
  rfl

/-- The letters of short escapes are those the reader has a character for. -/
theorem mem_simple_iff {c : Char} :
    c ∈ ['\x22', '\x5c', '/', 'b', 'f', 'n', 'r', 't'] ↔ ∃ d, simpleEscape? c = some d := by
  constructor
  · intro member
    simp only [List.mem_cons, List.not_mem_nil, or_false] at member
    rcases member with rfl | rfl | rfl | rfl | rfl | rfl | rfl | rfl <;> exact ⟨_, rfl⟩
  · rintro ⟨d, found⟩
    by_contra absent
    simp only [List.mem_cons, List.not_mem_nil, or_false, not_or] at absent
    simp [simpleEscape?, absent] at found

theorem IsBody.length_lt {cs rest : List Char} (body : IsBody cs rest) :
    rest.length < cs.length := by
  induction body with
  | closed rest => exact Nat.lt_succ_self _
  | plain _ _ _ _ ih => exact Nat.lt_succ_of_lt ih
  | escape _ _ ih => simp only [List.length_cons]; omega
  | unicode unit _ _ ih =>
      have := unit.length_eq
      simp only [List.length_cons]
      omega
  | pair first _ second _ _ ih =>
      have := first.length_eq
      have := second.length_eq
      simp only [List.length_cons] at *
      omega

/-- What the reader takes for an escape is one, or a pair of them. -/
theorem isBody_of_unicodeEscape {position used : Nat} {ch : Char} {cs next rest : List Char}
    (escaped : unicodeEscape position cs = .ok (ch, used, next)) (others : IsBody next rest) :
    IsBody ('\x5c' :: 'u' :: cs) rest := by
  rw [unicodeEscape] at escaped
  split at escaped
  · cases escaped
  · next n behind taken =>
    split at escaped
    · next more isHigh =>
      split at escaped
      · next m after takenToo =>
        split at escaped
        · next isLow =>
          obtain ⟨-, -, rfl⟩ := by simpa using escaped
          exact .pair (isUnit_of_unit? taken) isHigh (isUnit_of_unit? takenToo) isLow others
        · cases escaped
      · split at escaped <;> cases escaped
    · split at escaped
      · cases escaped
      · next whole =>
        obtain ⟨-, -, rfl⟩ := by simpa using escaped
        exact .unicode (isUnit_of_unit? taken) (Bool.eq_false_iff.mpr whole) others

/-- What the reader takes for the characters of a string are such. -/
theorem isBody_of_stringBody {start fuel p : Nat} {done cs : List Char} {s : String} {rest : Rest}
    (isRead : stringBody start fuel done p cs = .ok (s, rest)) : IsBody cs rest.chars := by
  induction fuel generalizing done p cs with
  | zero => cases isRead
  | succ fuel ih =>
      cases cs with
      | nil => cases isRead
      | cons c cs =>
          rw [stringBody.eq_def] at isRead
          dsimp only at isRead
          split at isRead
          · next isQuote =>
            obtain ⟨-, rfl⟩ := by simpa using isRead
            exact isQuote ▸ .closed cs
          · next noQuote =>
            split at isRead
            · next isBackslash =>
              subst isBackslash
              split at isRead
              · cases isRead
              · next e more =>
                split at isRead
                · next isU =>
                  subst isU
                  rcases bind_eq_ok_iff.mp isRead with ⟨⟨ch, used, next⟩, escaped, others⟩
                  exact isBody_of_unicodeEscape escaped (ih others)
                · split at isRead
                  · next found => exact .escape (mem_simple_iff.mpr ⟨_, found⟩) (ih isRead)
                  · cases isRead
            · next noBackslash =>
              split at isRead
              · cases isRead
              · next noControl => exact .plain noQuote noBackslash (by omega) (ih isRead)

theorem IsBody.ne_nil {cs rest : List Char} (body : IsBody cs rest) : cs ≠ [] :=
  List.ne_nil_of_length_pos (Nat.zero_lt_of_lt body.length_lt)

/-- An escape for a character is taken off. -/
theorem unicodeEscape_of_isUnit {n : Nat} {cs next : List Char} (unit : IsUnit n cs next)
    (whole : isHalf n = false) (more : next ≠ []) (position : Nat) :
    unicodeEscape position cs = .ok (Char.ofNat n, 4, next) := by
  rw [unicodeEscape, unit.unit?_eq more]
  simp only [isHighUnit_of_isHalf whole, whole, Bool.false_eq_true, if_false]

/-- So are the two of a pair. -/
theorem exists_unicodeEscape_of_pair {n m : Nat} {cs low next : List Char}
    (first : IsUnit n cs ('\x5c' :: 'u' :: low)) (isHigh : isHighUnit n = true)
    (second : IsUnit m low next) (isLow : isLowUnit m = true) (more : next ≠ [])
    (position : Nat) : ∃ ch, unicodeEscape position cs = .ok (ch, 10, next) := by
  rw [unicodeEscape, first.unit?_eq (by simp)]
  simp only [isHigh]
  rw [second.unit?_eq more]
  simp only [isLow, if_true]
  exact ⟨_, rfl⟩

/-- The characters of a string are taken off up to the closing quote. -/
theorem exists_stringBody {cs rest : List Char} (body : IsBody cs rest) {fuel : Nat}
    (enough : cs.length ≤ fuel) (start p : Nat) (done : List Char) :
    ∃ s q, stringBody start fuel done p cs = .ok (s, ⟨q, rest⟩) := by
  induction fuel generalizing cs p done with
  | zero => exact absurd (List.eq_nil_of_length_eq_zero (Nat.le_zero.mp enough)) body.ne_nil
  | succ fuel ih =>
      cases body with
      | closed =>
          refine ⟨String.ofList done.reverse, p + 1, ?_⟩
          rw [stringBody.eq_def]
          dsimp only
          rw [if_pos rfl]
      | plain noQuote noBackslash noControl others =>
          rcases ih others (Nat.le_of_succ_le_succ enough) (p + 1) (_ :: done) with ⟨s, q, isRead⟩
          refine ⟨s, q, ?_⟩
          rw [stringBody.eq_def]
          dsimp only
          rw [if_neg noQuote, if_neg noBackslash, if_neg (by omega), isRead]
      | escape simple others =>
          rcases mem_simple_iff.mp simple with ⟨ch, found⟩
          have shorter : _ ≤ fuel := Nat.le_of_succ_le (Nat.le_of_succ_le_succ enough)
          rcases ih others shorter (p + 2) (ch :: done) with ⟨s, q, isRead⟩
          exact ⟨s, q, by rw [stringBody_simpleEscape found, isRead]⟩
      | @unicode n _ _ _ unit whole others =>
          have escaped := unicodeEscape_of_isUnit unit whole others.ne_nil (p + 1)
          have shorter := unit.length_eq
          simp only [List.length_cons] at enough
          rcases ih others (by omega) (p + 2 + 4) (Char.ofNat n :: done) with ⟨s, q, isRead⟩
          refine ⟨s, q, ?_⟩
          rw [stringBody.eq_def]
          simp [escaped, bind, Except.bind, isRead]
      | pair first isHigh second isLow others =>
          obtain ⟨ch, escaped⟩ :=
            exists_unicodeEscape_of_pair first isHigh second isLow others.ne_nil (p + 1)
          have shorter := first.length_eq
          have shorterToo := second.length_eq
          simp only [List.length_cons] at enough shorter
          rcases ih others (by omega) (p + 2 + 10) (ch :: done) with ⟨s, q, isRead⟩
          refine ⟨s, q, ?_⟩
          rw [stringBody.eq_def]
          simp [escaped, bind, Except.bind, isRead]

/-! ## Numbers -/

theorem IsWhole.digits {whole : List Char} (isWhole : IsWhole whole) :
    ∀ d ∈ whole, isDigit d = true := by
  cases isWhole with
  | zero => simp [isDigit]
  | leading digits _ => exact digits

theorem areDigits_of_takeDigits {cs ds rest : List Char} (taken : takeDigits cs = (ds, rest)) :
    cs = ds ++ rest ∧ ∀ d ∈ ds, isDigit d = true := by
  obtain ⟨rfl, rfl⟩ := Prod.mk.inj taken
  exact ⟨List.takeWhile_append_dropWhile.symm, List.all_eq_true.mp List.all_takeWhile⟩

/-- What the reader takes before the point are the digits of a whole number. -/
theorem isWhole_of_wholePart? {cs whole rest : List Char}
    (taken : wholePart? cs = some (whole, rest)) : IsWhole whole ∧ cs = whole ++ rest := by
  rw [wholePart?.eq_def] at taken
  split at taken
  · obtain ⟨rfl, rfl⟩ := Prod.mk.inj (Option.some.inj taken)
    exact ⟨.zero, rfl⟩
  · next c more notZero =>
    split at taken
    · next digit =>
      rcases areDigits_of_takeDigits (Option.some.inj taken) with ⟨cs_eq, digits⟩
      have nonzero : c ≠ '0' := by
        rintro rfl
        exact notZero rfl
      cases whole with
      | nil =>
          have none := congrArg Prod.fst (Option.some.inj taken)
          simp [takeDigits, digit] at none
      | cons d ds =>
          obtain rfl : c = d := (List.cons.inj cs_eq).1
          exact ⟨.leading digits nonzero, cs_eq⟩
    · cases taken
  · cases taken

/-- What the reader takes after the point is a fraction. -/
theorem exists_isFraction_of_fractionPart {cs ds rest : List Char}
    (taken : fractionPart cs = (ds, rest)) :
    ∃ fraction, IsFraction fraction ∧ cs = fraction ++ rest ∧ (fraction = [] ↔ ds = []) := by
  rw [fractionPart.eq_def] at taken
  split at taken
  · next more =>
    split at taken
    · obtain ⟨rfl, rfl⟩ := Prod.mk.inj taken
      exact ⟨[], .nothing, rfl, by simp⟩
    · next others =>
      rcases areDigits_of_takeDigits taken with ⟨rfl, digits⟩
      have nonempty : ds ≠ [] := by
        rintro rfl
        exact others _ taken
      exact ⟨'.' :: ds, .point ⟨nonempty, digits⟩, rfl, by simp [nonempty]⟩
  · obtain ⟨rfl, rfl⟩ := Prod.mk.inj taken
    exact ⟨[], .nothing, rfl, by simp⟩

/-- The digits of an exponent are there, or the text is left as it was. -/
theorem exponentDigits_cases {cs more rest : List Char} {read : List Char → Int}
    {exponent : Option Int}
    (taken : (match takeDigits more with
      | ([], _) => (none, cs)
      | (ds, after) => (some (read ds), after)) = (exponent, rest)) :
    exponent = none ∧ cs = rest ∨
      exponent ≠ none ∧ ∃ ds, AreDigits ds ∧ more = ds ++ rest := by
  split at taken
  · obtain ⟨rfl, rfl⟩ := Prod.mk.inj taken
    exact .inl ⟨rfl, rfl⟩
  · next ds after others both =>
    obtain ⟨rfl, rfl⟩ := Prod.mk.inj taken
    rcases areDigits_of_takeDigits both with ⟨more_eq, digits⟩
    refine .inr ⟨by simp, ds, ⟨?_, digits⟩, more_eq⟩
    rintro rfl
    exact others rfl

/-- What the reader takes after the digits is an exponent. -/
theorem exists_isExponent_of_exponentPart {cs rest : List Char} {e? : Option Int}
    (taken : exponentPart cs = (e?, rest)) :
    ∃ exponent, IsExponent exponent ∧ cs = exponent ++ rest ∧ (exponent = [] ↔ e? = none) := by
  have nothing : e? = none ∧ cs = rest →
      ∃ exponent, IsExponent exponent ∧ cs = exponent ++ rest ∧ (exponent = [] ↔ e? = none) := by
    rintro ⟨rfl, rfl⟩
    exact ⟨[], .nothing, rfl, by simp⟩
  rw [exponentPart.eq_def] at taken
  dsimp only at taken
  split at taken
  · next e more =>
    split at taken
    · next letter =>
      split at taken
      · rcases exponentDigits_cases taken with none | ⟨some, ds, digits, rfl⟩
        · exact nothing none
        · exact ⟨_, .signed letter (.inr rfl) digits, rfl, by simp [some]⟩
      · rcases exponentDigits_cases taken with none | ⟨some, ds, digits, rfl⟩
        · exact nothing none
        · exact ⟨_, .signed letter (.inl rfl) digits, rfl, by simp [some]⟩
      · rcases exponentDigits_cases taken with none | ⟨some, ds, digits, rfl⟩
        · exact nothing none
        · exact ⟨_, .unsigned letter digits, rfl, by simp [some]⟩
    · exact nothing ⟨(Prod.mk.inj taken).1.symm, (Prod.mk.inj taken).2⟩
  · exact nothing ⟨(Prod.mk.inj taken).1.symm, (Prod.mk.inj taken).2⟩

/-- What the reader takes for a number after its sign is one. -/
theorem isUnsigned_of_number {start p : Nat} {negative : Bool} {cs : List Char} {v : Json}
    {rest : Rest} (isRead : number start negative p cs = .ok (v, rest)) :
    IsUnsigned cs rest.chars := by
  rw [number] at isRead
  split at isRead
  · cases isRead
  · next whole afterWhole taken =>
    rcases isWhole_of_wholePart? taken with ⟨isWhole, rfl⟩
    dsimp only at isRead
    rcases exists_isFraction_of_fractionPart (Prod.eta (fractionPart afterWhole)).symm with
      ⟨fraction, isFraction, fraction_eq, noFraction_iff⟩
    rcases exists_isExponent_of_exponentPart
        (Prod.eta (exponentPart (fractionPart afterWhole).2)).symm with
      ⟨exponent, isExponent, exponent_eq, noExponent_iff⟩
    have whole_of : (fraction = [] → exponent = [] → whole.length ≤ digitLimit) →
        rest.chars = (exponentPart (fractionPart afterWhole).2).2 →
        IsUnsigned (whole ++ afterWhole) rest.chars := by
      intro short after_eq
      rw [fraction_eq, exponent_eq, ← after_eq]
      exact .parts isWhole isFraction isExponent short rest.chars
    split at isRead
    · split at isRead
      · cases isRead
      · next within =>
        obtain ⟨-, rfl⟩ := by simpa using isRead
        exact whole_of (fun _ _ => Nat.le_of_not_lt within) rfl
    · next notWhole =>
      obtain ⟨-, rfl⟩ := by simpa using isRead
      refine whole_of (fun noFraction noExponent => absurd ?_ notWhole) rfl
      rw [noFraction_iff.mp noFraction, noExponent_iff.mp noExponent]
      exact ⟨rfl, rfl⟩

/-! What stands in front of a text that does not go on with it is taken off. -/

theorem wholePart?_of_isWhole {whole tail : List Char} (isWhole : IsWhole whole)
    (ends : NoDigitAhead tail) : wholePart? (whole ++ tail) = some (whole, tail) := by
  cases isWhole with
  | zero => rfl
  | leading digits nonzero =>
      have taken := takeDigits_append digits ends
      rw [List.cons_append] at taken ⊢
      rw [wholePart?.eq_def]
      split
      · next same => exact absurd (List.cons.inj same).1 nonzero
      · next same =>
        rcases List.cons.inj same with ⟨rfl, rfl⟩
        rw [if_pos (digits _ List.mem_cons_self), taken]
      · next same => cases same

theorem exists_fractionPart_of_isFraction {fraction tail : List Char}
    (isFraction : IsFraction fraction) (ends : NoDigitAhead tail)
    (noPoint : tail.head? ≠ some '.') :
    ∃ ds, fractionPart (fraction ++ tail) = (ds, tail) ∧ (ds = [] → fraction = []) := by
  cases isFraction with
  | nothing =>
      refine ⟨[], ?_, fun _ => rfl⟩
      rw [List.nil_append, fractionPart.eq_def]
      split
      · exact absurd rfl noPoint
      · rfl
  | @point ds digits =>
      refine ⟨ds, ?_, fun none => absurd none digits.nonempty⟩
      rw [List.cons_append, fractionPart, takeDigits_append digits.digits ends]
      split
      · next none => exact absurd (Prod.mk.inj none).1 digits.nonempty
      · rfl

theorem exists_exponentPart_of_isExponent {exponent tail : List Char}
    (isExponent : IsExponent exponent) (ends : EndsNumber tail) :
    ∃ e?, exponentPart (exponent ++ tail) = (e?, tail) ∧ (e? = none → exponent = []) := by
  cases isExponent with
  | nothing =>
      refine ⟨none, ?_, fun _ => rfl⟩
      cases tail with
      | nil => rfl
      | cons c more =>
          rcases ends c rfl with ⟨-, -, noLower, noUpper⟩
          simp [exponentPart, noLower, noUpper]
  | @unsigned e ds letter digits =>
      have taken := takeDigits_append digits.digits ends.noDigitAhead
      rcases List.exists_cons_of_ne_nil digits.nonempty with ⟨d, others, rfl⟩
      have digit := digits.digits d List.mem_cons_self
      have noMinus : d ≠ '-' := ne_of_isDigit digit rfl
      have noPlus : d ≠ '+' := ne_of_isDigit digit rfl
      rw [List.cons_append] at taken
      refine ⟨some (digitsValue (d :: others)), ?_, by simp⟩
      simp [exponentPart, letter, noMinus, noPlus, taken]
  | @signed e sign ds letter isSign digits =>
      have taken := takeDigits_append digits.digits ends.noDigitAhead
      rcases List.exists_cons_of_ne_nil digits.nonempty with ⟨d, others, rfl⟩
      rw [List.cons_append] at taken
      rcases isSign with rfl | rfl
      · exact ⟨some (digitsValue (d :: others)), by simp [exponentPart, letter, taken], by simp⟩
      · exact ⟨some (-digitsValue (d :: others)), by simp [exponentPart, letter, taken], by simp⟩

theorem IsExponent.noDigitAhead {exponent tail : List Char} (isExponent : IsExponent exponent)
    (ends : EndsNumber tail) : NoDigitAhead (exponent ++ tail) ∧
      (exponent ++ tail).head? ≠ some '.' := by
  have letter_ne : ∀ {e : Char}, e = 'e' ∨ e = 'E' → isDigit e = false ∧ e ≠ '.' := by
    rintro e (rfl | rfl) <;> decide
  cases isExponent with
  | nothing => exact ⟨ends.noDigitAhead, fun isPoint => (ends '.' isPoint).2.1 rfl⟩
  | unsigned letter _ =>
      exact ⟨noDigitAhead_cons (letter_ne letter).1, by simpa using (letter_ne letter).2⟩
  | signed letter _ _ =>
      exact ⟨noDigitAhead_cons (letter_ne letter).1, by simpa using (letter_ne letter).2⟩

theorem IsFraction.noDigitAhead {fraction tail : List Char} (isFraction : IsFraction fraction)
    (ends : NoDigitAhead tail) : NoDigitAhead (fraction ++ tail) := by
  cases isFraction with
  | nothing => exact ends
  | point _ => exact noDigitAhead_cons (by decide)

/-- A number is taken off where no number goes on. -/
theorem exists_number {cs rest : List Char} (unsigned : IsUnsigned cs rest)
    (ends : EndsNumber rest) (start : Nat) (negative : Bool) (p : Nat) :
    ∃ v q, number start negative p cs = .ok (v, ⟨q, rest⟩) := by
  cases unsigned with
  | parts isWhole isFraction isExponent short =>
      rcases isExponent.noDigitAhead ends with ⟨noDigit, noPoint⟩
      rcases exists_fractionPart_of_isFraction isFraction noDigit noPoint with
        ⟨ds, fractionTaken, noFraction⟩
      rcases exists_exponentPart_of_isExponent isExponent ends with ⟨e?, exponentTaken, noExponent⟩
      rw [number, wholePart?_of_isWhole isWhole (isFraction.noDigitAhead noDigit)]
      dsimp only
      rw [fractionTaken]
      dsimp only
      rw [exponentTaken]
      dsimp only
      split
      · next both =>
        have within := short (noFraction (List.isEmpty_iff.mp both.1))
          (noExponent (Option.isNone_iff_eq_none.mp both.2))
        rw [if_neg (Nat.not_lt.mpr within)]
        exact ⟨_, _, rfl⟩
      · exact ⟨_, _, rfl⟩

end PromptDispatch.Json
