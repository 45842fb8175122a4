import PromptDispatch.Json.Printer
import PromptDispatch.Json.Reader

/-!
# Printed strings are read back

Every character of a printed string is read back in one step of the reader, be
it written as itself, as a short escape, as four hexadecimal digits, or as a
pair of them.  A pair is told from two characters because no character stands
for the first half of a pair.
-/

namespace PromptDispatch.Json

/-! ## What printing puts in front of a rest -/

/-- A text that goes on with a rest; no carriage return is added to it. -/
structure Keeps (cs rest : List Char) : Prop where
  length_le : rest.length ≤ cs.length
  clean : '\r' ∉ rest → '\r' ∉ cs

/-- A text with something in front of a rest, which is no carriage return. -/
structure Extends (cs rest : List Char) : Prop where
  longer : rest.length < cs.length
  clean : '\r' ∉ rest → '\r' ∉ cs

theorem Keeps.refl (rest : List Char) : Keeps rest rest :=
  ⟨Nat.le_refl _, id⟩

theorem Keeps.trans {cs middle rest : List Char} (first : Keeps cs middle)
    (second : Keeps middle rest) : Keeps cs rest where
  length_le := Nat.le_trans second.length_le first.length_le
  clean := fun absent => first.clean (second.clean absent)

theorem Extends.keeps {cs rest : List Char} (extension : Extends cs rest) : Keeps cs rest :=
  ⟨Nat.le_of_lt extension.longer, extension.clean⟩

theorem Keeps.trans_extends {cs middle rest : List Char} (first : Keeps cs middle)
    (second : Extends middle rest) : Extends cs rest where
  longer := Nat.lt_of_lt_of_le second.longer first.length_le
  clean := fun absent => first.clean (second.clean absent)

theorem Extends.trans_keeps {cs middle rest : List Char} (first : Extends cs middle)
    (second : Keeps middle rest) : Extends cs rest where
  longer := Nat.lt_of_le_of_lt second.length_le first.longer
  clean := fun absent => first.clean (second.clean absent)

theorem Extends.trans {cs middle rest : List Char} (first : Extends cs middle)
    (second : Extends middle rest) : Extends cs rest :=
  first.keeps.trans_extends second

theorem keeps_append {text : List Char} (noReturn : '\r' ∉ text) (rest : List Char) :
    Keeps (text ++ rest) rest where
  length_le := by
    rw [List.length_append]
    exact Nat.le_add_left _ _
  clean := fun absent member => by
    rcases List.mem_append.mp member with inText | inRest
    · exact noReturn inText
    · exact absent inRest

theorem extends_cons {c : Char} (noReturn : c ≠ '\r') (rest : List Char) :
    Extends (c :: rest) rest where
  longer := Nat.lt_succ_self rest.length
  clean := fun absent => by simp [absent, noReturn.symm]

theorem extends_escapeUnit (n : Nat) (rest : List Char) : Extends (escapeUnit n rest) rest := by
  have digit : ∀ k, hexDigit (k % 16) ≠ '\r' := by
    intro k
    have noReturn : ∀ d, d < 16 → hexDigit d ≠ '\r' := by decide
    exact noReturn _ (Nat.mod_lt k (by decide))
  constructor
  · simp only [escapeUnit, List.length_cons]
    omega
  · intro absent
    simp [escapeUnit, absent, (digit _).symm]

theorem extends_charText (c : Char) (rest : List Char) : Extends (charText c rest) rest := by
  have short : ∀ d, d ≠ '\r' → Extends ('\x5c' :: d :: rest) rest := fun d noReturn =>
    (extends_cons (by decide) _).trans (extends_cons noReturn rest)
  rw [charText]
  split
  · exact short _ (by decide)
  split
  · exact short _ (by decide)
  split
  · exact short _ (by decide)
  split
  · exact short _ (by decide)
  split
  · exact short _ (by decide)
  split
  · exact short _ (by decide)
  split
  · exact short _ (by decide)
  split
  · next shown =>
    refine extends_cons ?_ rest
    rintro rfl
    simp at shown
  split
  · exact extends_escapeUnit _ rest
  · exact (extends_escapeUnit _ _).trans (extends_escapeUnit _ rest)

theorem extends_foldr_charText (cs rest : List Char) :
    Extends (cs.foldr charText ('\x22' :: rest)) rest := by
  induction cs with
  | nil => exact extends_cons (by decide) rest
  | cons c cs ih => exact (extends_charText c _).trans ih

theorem length_foldr_charText (cs rest : List Char) :
    cs.length < (cs.foldr charText ('\x22' :: rest)).length := by
  induction cs with
  | nil => simp
  | cons c cs ih =>
      have step := (extends_charText c (cs.foldr charText ('\x22' :: rest))).longer
      simp only [List.foldr_cons, List.length_cons]
      omega

theorem extends_stringText (s : String) (rest : List Char) :
    Extends (stringText s rest) rest :=
  (extends_cons (by decide) _).trans (extends_foldr_charText s.toList rest)

/-! ## Reading strings back -/

theorem hexValue?_hexDigit : ∀ n, n < 16 → hexValue? (hexDigit n) = some n := by decide

/-- Four hexadecimal digits in front of something are read as their unit. -/
theorem unit?_hexDigits {n : Nat} (small : n < 65536) {rest : List Char}
    (more : rest ≠ []) :
    unit? (hexDigit (n / 4096 % 16) :: hexDigit (n / 256 % 16) ::
      hexDigit (n / 16 % 16) :: hexDigit (n % 16) :: rest) = some (n, rest) := by
  rcases List.exists_cons_of_ne_nil more with ⟨c, rest, rfl⟩
  have digit : ∀ k, hexValue? (hexDigit (k % 16)) = some (k % 16) :=
    fun k => hexValue?_hexDigit _ (Nat.mod_lt k (by decide))
  simp only [unit?, digit, Option.some.injEq, Prod.mk.injEq, and_true]
  omega

/-- No character stands for half of a pair. -/
theorem isHalf_toNat (c : Char) : isHalf c.toNat = false := by
  have valid : c.toNat.isValidChar := c.valid
  rw [Nat.isValidChar] at valid
  simp only [isHalf, isHighUnit, isLowUnit, Bool.or_eq_false_iff, Bool.and_eq_false_iff,
    decide_eq_false_iff_not]
  omega

theorem isHighUnit_of_isHalf {n : Nat} (whole : isHalf n = false) : isHighUnit n = false :=
  (Bool.or_eq_false_iff.mp whole).1

theorem toNat_lt (c : Char) : c.toNat < 1114112 := by
  have valid : c.toNat.isValidChar := c.valid
  rw [Nat.isValidChar] at valid
  omega

/-- The digits of an escape, as the reader meets them after the letter `u`. -/
def escapeDigits (n : Nat) (rest : List Char) : List Char :=
  hexDigit (n / 4096 % 16) :: hexDigit (n / 256 % 16) ::
    hexDigit (n / 16 % 16) :: hexDigit (n % 16) :: rest

theorem unicodeEscape_unit {n : Nat} (small : n < 65536) (whole : isHalf n = false)
    {rest : List Char} (more : rest ≠ []) (position : Nat) :
    unicodeEscape position (escapeDigits n rest) = .ok (Char.ofNat n, 4, rest) := by
  rw [unicodeEscape, escapeDigits, unit?_hexDigits small more]
  simp only [isHighUnit_of_isHalf whole, whole, Bool.false_eq_true, if_false]

theorem unicodeEscape_pair {n m : Nat} (high : isHighUnit n = true) (low : isLowUnit m = true)
    {rest : List Char} (more : rest ≠ []) (position : Nat) :
    unicodeEscape position (escapeDigits n (escapeUnit m rest)) =
      .ok (Char.ofNat (65536 + (n - 55296) * 1024 + (m - 56320)), 10, rest) := by
  have highSmall : n < 65536 := by
    simp only [isHighUnit, Bool.and_eq_true, decide_eq_true_eq] at high
    omega
  have lowSmall : m < 65536 := by
    simp only [isLowUnit, Bool.and_eq_true, decide_eq_true_eq] at low
    omega
  rw [unicodeEscape, escapeDigits, unit?_hexDigits highSmall (by simp [escapeUnit])]
  simp only [high, escapeUnit]
  rw [unit?_hexDigits lowSmall more]
  simp only [low, if_true]

/-- The two halves of a character beyond U+FFFF are read as the character. -/
theorem unicodeEscape_halves {c : Char} (large : 65536 ≤ c.toNat) {rest : List Char}
    (more : rest ≠ []) (position : Nat) :
    unicodeEscape position (escapeDigits (55296 + (c.toNat - 65536) / 1024)
      (escapeUnit (56320 + (c.toNat - 65536) % 1024) rest)) = .ok (c, 10, rest) := by
  have bounded := toNat_lt c
  have high : isHighUnit (55296 + (c.toNat - 65536) / 1024) = true := by
    simp only [isHighUnit, Bool.and_eq_true, decide_eq_true_eq]
    omega
  have low : isLowUnit (56320 + (c.toNat - 65536) % 1024) = true := by
    simp only [isLowUnit, Bool.and_eq_true, decide_eq_true_eq]
    omega
  have whole : 65536 + (55296 + (c.toNat - 65536) / 1024 - 55296) * 1024 +
      (56320 + (c.toNat - 65536) % 1024 - 56320) = c.toNat := by
    omega
  rw [unicodeEscape_pair high low more, whole, Char.ofNat_toNat]

theorem stringBody_unicodeEscape {c : Char} {p used n : Nat} {cs rest : List Char}
    (isRead : unicodeEscape (p + 1) (escapeDigits n cs) = .ok (c, used, rest))
    {start fuel : Nat} {done : List Char} :
    stringBody start (fuel + 1) done p (escapeUnit n cs) =
      stringBody start fuel (c :: done) (p + 2 + used) rest := by
  rw [escapeDigits] at isRead
  rw [stringBody.eq_def, escapeUnit]
  simp [isRead, bind, Except.bind]

/-- A short escape is read as its character. -/
theorem stringBody_simpleEscape {c e : Char} (isSimple : simpleEscape? e = some c)
    (start fuel p : Nat) (done rest : List Char) :
    stringBody start (fuel + 1) done p ('\x5c' :: e :: rest) =
      stringBody start fuel (c :: done) (p + 2) rest := by
  have noUnicode : e ≠ 'u' := by
    rintro rfl
    cases isSimple
  simp [stringBody, isSimple, noUnicode]

/-- One character is read back in one step. -/
theorem stringBody_charText (c : Char) {rest : List Char} (more : rest ≠ [])
    (start fuel p : Nat) (done : List Char) :
    ∃ q, stringBody start (fuel + 1) done p (charText c rest) =
      stringBody start fuel (c :: done) q rest := by
  have short : ∀ d e, c.toNat = d.toNat → simpleEscape? e = some d →
      ∃ q, stringBody start (fuel + 1) done p ('\x5c' :: e :: rest) =
        stringBody start fuel (c :: done) q rest := by
    intro d e same isSimple
    obtain rfl : c = d := Char.toNat_inj.mp same
    exact ⟨p + 2, stringBody_simpleEscape isSimple start fuel p done rest⟩
  rw [charText]
  split
  · next same => exact short '\x22' '\x22' same rfl
  split
  · next same => exact short '\x5c' '\x5c' same rfl
  split
  · next same => exact short '\n' 'n' same rfl
  split
  · next same => exact short '\r' 'r' same rfl
  split
  · next same => exact short '\t' 't' same rfl
  split
  · next same => exact short '\x0c' 'f' same rfl
  split
  · next same => exact short '\x08' 'b' same rfl
  next notQuote notBackslash _ _ _ _ _ =>
  split
  · next shown =>
    have noQuote : c ≠ '\x22' := fun same => notQuote (congrArg Char.toNat same)
    have noBackslash : c ≠ '\x5c' := fun same => notBackslash (congrArg Char.toNat same)
    refine ⟨p + 1, ?_⟩
    rw [stringBody.eq_def]
    dsimp only
    rw [if_neg noQuote, if_neg noBackslash, if_neg (by omega)]
  split
  · next small =>
    have isRead := unicodeEscape_unit small (isHalf_toNat c) more (p + 1)
    rw [Char.ofNat_toNat] at isRead
    exact ⟨p + 2 + 4, stringBody_unicodeEscape isRead⟩
  · next large =>
    have isRead := unicodeEscape_halves (Nat.le_of_not_lt large) more (p + 1)
    exact ⟨p + 2 + 10, stringBody_unicodeEscape isRead⟩

/-- The characters of a string are read back up to the closing quote. -/
theorem stringBody_foldr (cs rest : List Char) {fuel : Nat} (enough : cs.length + 1 ≤ fuel)
    (start p : Nat) (done : List Char) :
    ∃ q, stringBody start fuel done p (cs.foldr charText ('\x22' :: rest)) =
      .ok (String.ofList (done.reverse ++ cs), ⟨q, rest⟩) := by
  induction cs generalizing fuel p done with
  | nil =>
      cases fuel with
      | zero => simp at enough
      | succ fuel => exact ⟨p + 1, by simp [stringBody]⟩
  | cons c cs ih =>
      rw [List.length_cons] at enough
      rcases Nat.exists_eq_add_of_le' (Nat.le_trans (Nat.le_add_left 1 _) enough) with ⟨fuel, rfl⟩
      have more : cs.foldr charText ('\x22' :: rest) ≠ [] :=
        List.ne_nil_of_length_pos (Nat.zero_lt_of_lt (extends_foldr_charText cs rest).longer)
      rcases stringBody_charText c more start fuel p done with ⟨q, step⟩
      have left : cs.length + 1 ≤ fuel := by omega
      rcases ih left q (c :: done) with ⟨r, isRead⟩
      refine ⟨r, ?_⟩
      rw [List.foldr_cons, step, isRead, List.reverse_cons, List.append_assoc,
        List.singleton_append]

/-- A string is read back after its opening quote. -/
theorem stringBody_toList (s : String) (rest : List Char) (start p : Nat) :
    ∃ q, stringBody start ((s.toList.foldr charText ('\x22' :: rest)).length + 1) [] p
      (s.toList.foldr charText ('\x22' :: rest)) = .ok (s, ⟨q, rest⟩) := by
  have long := length_foldr_charText s.toList rest
  obtain ⟨q, isRead⟩ := stringBody_foldr s.toList rest (Nat.succ_le_succ (Nat.le_of_lt long))
    start p []
  refine ⟨q, ?_⟩
  rw [isRead, List.reverse_nil, List.nil_append, String.ofList_toList]

end PromptDispatch.Json
