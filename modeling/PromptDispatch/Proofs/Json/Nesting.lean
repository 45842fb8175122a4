import PromptDispatch.Json.Nesting
import PromptDispatch.Proofs.Json.Obstacle
import PromptDispatch.Proofs.Json.RoundTrip

/-!
# Nesting in values and texts

A search meets everything that stands inside a value, at the level where it stands.

A value that was printed on one line opens its lists and objects in the order in which
a search meets them, at the levels that they have in the value.  A text that was printed
is therefore too deep for a reader exactly when its value is, whatever stands in the
strings.
-/

namespace PromptDispatch.Json

/-! ## What stands inside a value -/

/-- A value stands inside another one, each at its level. -/
inductive Inside (meant : Nat) (inner : Json) : Nat → Json → Prop where
  | self : Inside meant inner meant inner
  | item {level : Nat} {items : List Json} {v : Json} (among : v ∈ items)
      (inside : Inside meant inner (level + 1) v) : Inside meant inner level (.arr items)
  | field {level : Nat} {fields : List (String × Json)} {f : String × Json} (among : f ∈ fields)
      (inside : Inside meant inner (level + 1) f.2) : Inside meant inner level (.obj fields)

section

variable {ε : Type} {meet : Nat → Json → Option ε} {e : ε}

theorem firstMet_of_scalar (meet : Nat → Json → Option ε) {level : Nat} {v : Json}
    (scalar : v.holder? = none) : v.firstMet meet level = meet level v := by
  cases v with
  | arr items => cases scalar
  | obj fields => cases scalar
  | _ => simp only [firstMet]

theorem Inside.eq_of_scalar {meant level : Nat} {inner v : Json} (scalar : v.holder? = none)
    (inside : Inside meant inner level v) : meant = level ∧ inner = v := by
  cases inside with
  | self => exact ⟨rfl, rfl⟩
  | item => cases scalar
  | field => cases scalar

theorem firstInItems_eq_none_iff {level : Nat} {items : List Json} :
    firstInItems meet level items = none ↔ ∀ v ∈ items, v.firstMet meet level = none := by
  induction items with
  | nil => simp [firstInItems]
  | cons v items ih => rw [firstInItems, Option.or_eq_none_iff, ih, List.forall_mem_cons]

theorem firstInFields_eq_none_iff {level : Nat} {fields : List (String × Json)} :
    firstInFields meet level fields = none ↔ ∀ f ∈ fields, f.2.firstMet meet level = none := by
  induction fields with
  | nil => simp [firstInFields]
  | cons f fields ih =>
      rw [firstInFields, firstInField, Option.or_eq_none_iff, ih, List.forall_mem_cons]

theorem firstMet_eq_none_of_inside {meant level : Nat} {inner v : Json}
    (nothing : v.firstMet meet level = none) (inside : Inside meant inner level v) :
    meet meant inner = none := by
  induction inside with
  | self =>
      cases inner with
      | arr items =>
          rw [firstMet, Option.or_eq_none_iff] at nothing
          exact nothing.1
      | obj fields =>
          rw [firstMet, Option.or_eq_none_iff] at nothing
          exact nothing.1
      | _ => simpa only [firstMet] using nothing
  | item among _ ih =>
      rw [firstMet, Option.or_eq_none_iff, firstInItems_eq_none_iff] at nothing
      exact ih (nothing.2 _ among)
  | field among _ ih =>
      rw [firstMet, Option.or_eq_none_iff, firstInFields_eq_none_iff] at nothing
      exact ih (nothing.2 _ among)

mutual

/-- What is met first is met somewhere inside. -/
theorem exists_inside_of_firstMet : ∀ (v : Json) (level : Nat), v.firstMet meet level = some e →
    ∃ meant inner, Inside meant inner level v ∧ meet meant inner = some e
  | .arr items, level => fun met => by
      rw [firstMet, Option.or_eq_some_iff] at met
      rcases met with here | ⟨-, later⟩
      · exact ⟨_, _, .self, here⟩
      · rcases exists_inside_of_firstInItems items (level + 1) later with
          ⟨v, among, meant, inner, inside, met⟩
        exact ⟨meant, inner, .item among inside, met⟩
  | .obj fields, level => fun met => by
      rw [firstMet, Option.or_eq_some_iff] at met
      rcases met with here | ⟨-, later⟩
      · exact ⟨_, _, .self, here⟩
      · rcases exists_inside_of_firstInFields fields (level + 1) later with
          ⟨f, among, meant, inner, inside, met⟩
        exact ⟨meant, inner, .field among inside, met⟩
  | .null, level | .bool _, level | .int _, level | .float _, level | .str _, level
  | .sealed _, level => fun met => ⟨level, _, .self, by simpa only [firstMet] using met⟩

theorem exists_inside_of_firstInItems : ∀ (items : List Json) (level : Nat),
    firstInItems meet level items = some e → ∃ v ∈ items, ∃ meant inner,
      Inside meant inner level v ∧ meet meant inner = some e
  | [], _ => fun met => by cases met
  | v :: items, level => fun met => by
      rw [firstInItems, Option.or_eq_some_iff] at met
      rcases met with here | ⟨-, later⟩
      · exact ⟨v, List.mem_cons_self, exists_inside_of_firstMet v level here⟩
      · rcases exists_inside_of_firstInItems items level later with ⟨w, among, found⟩
        exact ⟨w, List.mem_cons_of_mem v among, found⟩

theorem exists_inside_of_firstInFields : ∀ (fields : List (String × Json)) (level : Nat),
    firstInFields meet level fields = some e → ∃ f ∈ fields, ∃ meant inner,
      Inside meant inner level f.2 ∧ meet meant inner = some e
  | [], _ => fun met => by cases met
  | (name, v) :: fields, level => fun met => by
      rw [firstInFields, firstInField, Option.or_eq_some_iff] at met
      rcases met with here | ⟨-, later⟩
      · exact ⟨(name, v), List.mem_cons_self, exists_inside_of_firstMet v level here⟩
      · rcases exists_inside_of_firstInFields fields level later with ⟨f, among, found⟩
        exact ⟨f, List.mem_cons_of_mem _ among, found⟩

end

/-- A search meets nothing exactly when nothing inside the value is met at its level. -/
theorem firstMet_eq_none_iff {level : Nat} {v : Json} : v.firstMet meet level = none ↔
    ∀ meant inner, Inside meant inner level v → meet meant inner = none := by
  constructor
  · exact fun nothing _ _ inside => firstMet_eq_none_of_inside nothing inside
  · intro nothing
    cases met : v.firstMet meet level with
    | none => rfl
    | some e =>
        rcases exists_inside_of_firstMet v level met with ⟨meant, inner, inside, isMet⟩
        cases (nothing meant inner inside).symm.trans isMet

end

/-! ## What opens nothing -/

/-- A text without brackets, braces and quotes. -/
def IsLevel (text : List Char) : Prop :=
  ∀ c ∈ text, c ≠ '[' ∧ c ≠ ']' ∧ c ≠ '\x7b' ∧ c ≠ '\x7d' ∧ c ≠ '\x22'

instance (text : List Char) : Decidable (IsLevel text) :=
  List.decidableBAll _ text

variable {limit level : Nat}

theorem opened?_append {text : List Char} (isLevel : IsLevel text) (rest : List Char) :
    opened? limit .outside level (text ++ rest) = opened? limit .outside level rest := by
  induction text with
  | nil => rfl
  | cons c text ih =>
      obtain ⟨list, listEnd, object, objectEnd, quote⟩ := isLevel c List.mem_cons_self
      rw [List.cons_append, opened?, if_neg list, if_neg object, if_neg (not_or.mpr
        ⟨listEnd, objectEnd⟩), if_neg quote]
      exact ih fun d member => isLevel d (List.mem_cons_of_mem c member)

theorem isLevel_append {text more : List Char} (first : IsLevel text) (second : IsLevel more) :
    IsLevel (text ++ more) :=
  List.forall_mem_append.mpr ⟨first, second⟩

theorem isLevel_of_digits {ds : List Char} (digits : ∀ c ∈ ds, isDigit c = true) :
    IsLevel ds := by
  intro c member
  have noDigit : ∀ d, isDigit d = false → c ≠ d := fun _ => ne_of_isDigit (digits c member)
  exact ⟨noDigit _ rfl, noDigit _ rfl, noDigit _ rfl, noDigit _ rfl, noDigit _ rfl⟩

namespace Numeral

variable {n : Numeral} (lawful : n.Lawful)
include lawful

theorem isLevel_exponentChars : IsLevel (n.exponentChars []) := by
  rw [exponentChars]
  cases has : n.exponent with
  | none => exact fun _ absent => absurd absent List.not_mem_nil
  | some parts =>
      rcases parts with ⟨negative, ds⟩
      have digits : IsLevel (ds ++ []) := by
        rw [List.append_nil]
        exact isLevel_of_digits (lawful.exponent negative ds has).2
      cases negative
      · exact isLevel_append (by decide : IsLevel ['e', '+']) digits
      · exact isLevel_append (by decide : IsLevel ['e', '-']) digits

theorem isLevel_chars : IsLevel (n.chars []) := by
  have fraction : IsLevel (n.fractionChars []) := by
    rw [fractionChars]
    split
    · exact isLevel_exponentChars lawful
    · exact isLevel_append (by decide : IsLevel ['.']) (isLevel_append
        (isLevel_of_digits lawful.fraction) (isLevel_exponentChars lawful))
  have unsigned := isLevel_append (isLevel_of_digits lawful.whole) fraction
  rw [chars]
  split
  · exact isLevel_append (by decide : IsLevel ['-']) unsigned
  · exact unsigned

end Numeral

theorem IsNumeral.isLevel {v : Json} {text : List Char} (isNumeral : IsNumeral v text) :
    IsLevel text := by
  rcases isNumeral with ⟨n, lawful, -, chars_eq⟩
  rw [← List.append_nil text, ← chars_eq]
  exact n.isLevel_chars lawful

theorem isLevel_float (x : Binary64) : IsLevel (x.text Binary64.jsonLayout).toList := by
  cases x with
  | nan => decide
  | infinite negative => cases negative <;> decide
  | finite negative rank => exact (isNumeral_finite negative rank).isLevel

/-! ## Strings -/

theorem opened?_escape (c : Char) (rest : List Char) :
    opened? limit .inString level ('\x5c' :: c :: rest) = opened? limit .inString level rest := by
  rw [opened?, if_neg (by decide), if_pos rfl, opened?]

theorem opened?_inString {c : Char} (quote : c ≠ '\x22') (backslash : c ≠ '\x5c')
    (rest : List Char) :
    opened? limit .inString level (c :: rest) = opened? limit .inString level rest := by
  rw [opened?, if_neg quote, if_neg backslash]

theorem opened?_escapeUnit (n : Nat) (rest : List Char) :
    opened? limit .inString level (escapeUnit n rest) = opened? limit .inString level rest := by
  have digit (k : Nat) (more : List Char) :
      opened? limit .inString level (hexDigit (k % 16) :: more) =
        opened? limit .inString level more := by
    have noMark : ∀ d, d < 16 → hexDigit d ≠ '\x22' ∧ hexDigit d ≠ '\x5c' := by decide
    have small := noMark _ (Nat.mod_lt k (by decide))
    exact opened?_inString small.1 small.2 more
  rw [escapeUnit, opened?_escape, digit, digit, digit, digit]

theorem opened?_charText (c : Char) (rest : List Char) :
    opened? limit .inString level (charText c rest) = opened? limit .inString level rest := by
  rw [charText]
  split
  · exact opened?_escape _ rest
  · next quote =>
    split
    · exact opened?_escape _ rest
    · next backslash =>
      iterate 5
        split
        · exact opened?_escape _ rest
      split
      · apply opened?_inString
        · rintro rfl
          exact quote rfl
        · rintro rfl
          exact backslash rfl
      split
      · exact opened?_escapeUnit _ rest
      · rw [opened?_escapeUnit, opened?_escapeUnit]

/-- Whatever stands in a string, it opens nothing. -/
theorem opened?_stringText (s : String) (rest : List Char) :
    opened? limit .outside level (stringText s rest) = opened? limit .outside level rest := by
  have body (cs : List Char) : opened? limit .inString level (cs.foldr charText ('\x22' :: rest)) =
      opened? limit .outside level rest := by
    induction cs with
    | nil => rw [List.foldr_nil, opened?, if_pos rfl]
    | cons c cs ih => rw [List.foldr_cons, opened?_charText, ih]
  rw [stringText, opened?, if_neg (by decide), if_neg (by decide), if_neg (by decide),
    if_pos rfl, body]

/-! ## Values -/

/-- A bracket that opens a list is beyond the limit or not. -/
theorem opened?_bracket (items : List Json) (cs : List Char) :
    opened? limit .outside level ('[' :: cs) =
      (beyond? limit level (.arr items)).or (opened? limit .outside (level + 1) cs) := by
  rw [opened?, if_pos rfl, beyond?]
  split <;> rfl

theorem opened?_brace (fields : List (String × Json)) (cs : List Char) :
    opened? limit .outside level ('\x7b' :: cs) =
      (beyond? limit level (.obj fields)).or (opened? limit .outside (level + 1) cs) := by
  rw [opened?, if_neg (by decide), if_pos rfl, beyond?]
  split <;> rfl

theorem opened?_closing {c : Char} (closes : c = ']' ∨ c = '\x7d') (cs : List Char) :
    opened? limit .outside (level + 1) (c :: cs) = opened? limit .outside level cs := by
  rcases closes with rfl | rfl
  · rw [opened?, if_neg (by decide), if_neg (by decide), if_pos (.inl rfl), Nat.add_sub_cancel]
  · rw [opened?, if_neg (by decide), if_neg (by decide), if_pos (.inr rfl), Nat.add_sub_cancel]

theorem opened?_separator (cs : List Char) :
    opened? limit .outside level (',' :: ' ' :: cs) = opened? limit .outside level cs :=
  opened?_append (by decide : IsLevel [',', ' ']) cs

theorem opened?_colon (cs : List Char) :
    opened? limit .outside level (':' :: ' ' :: cs) = opened? limit .outside level cs :=
  opened?_append (by decide : IsLevel [':', ' ']) cs

/-- What holds nothing is never beyond a limit. -/
theorem firstMet_beyond?_of_scalar {v : Json} (scalar : v.holder? = none) :
    v.firstMet (beyond? limit) level = none := by
  rw [firstMet_of_scalar _ scalar, beyond?, scalar, ite_self]

mutual

theorem opened?_lineText : ∀ (v : Json) (level : Nat) (rest : List Char), v.obstacle? = none →
    opened? limit .outside level (lineText v rest) =
      (v.firstMet (beyond? limit) level).or (opened? limit .outside level rest)
  | .null, level, rest => fun _ => by
      rw [firstMet_beyond?_of_scalar rfl, Option.none_or]
      exact opened?_append (by decide : IsLevel "null".toList) rest
  | .bool b, level, rest => fun _ => by
      rw [firstMet_beyond?_of_scalar rfl, Option.none_or]
      cases b
      · exact opened?_append (by decide : IsLevel "false".toList) rest
      · exact opened?_append (by decide : IsLevel "true".toList) rest
  | .int n, level, rest => fun unhindered => by
      rw [firstMet_beyond?_of_scalar rfl, Option.none_or]
      exact opened?_append (isNumeral_int (obstacle?_int_eq_none_iff.mp unhindered)).isLevel rest
  | .float x, level, rest => fun _ => by
      rw [firstMet_beyond?_of_scalar rfl, Option.none_or]
      exact opened?_append (isLevel_float x) rest
  | .str s, level, rest => fun _ => by
      rw [firstMet_beyond?_of_scalar rfl, Option.none_or]
      exact opened?_stringText s rest
  | .sealed _, _, _ => fun unhindered => by cases unhindered
  | .arr items, level, rest => fun unhindered => by
      rw [lineText, opened?_bracket items, opened?_lineItems items _ _ unhindered, firstMet,
        opened?_closing (.inl rfl), Option.or_assoc]
  | .obj fields, level, rest => fun unhindered => by
      rw [lineText, opened?_brace fields, opened?_lineFields fields _ _ unhindered, firstMet,
        opened?_closing (.inr rfl), Option.or_assoc]

theorem opened?_lineItems : ∀ (items : List Json) (level : Nat) (rest : List Char),
    obstacleInItems? items = none →
      opened? limit .outside level (lineItems items rest) =
        (firstInItems (beyond? limit) level items).or (opened? limit .outside level rest)
  | [], level, rest => fun _ => rfl
  | v :: items, level, rest => fun unhindered => by
      rw [obstacleInItems?, Option.or_eq_none_iff] at unhindered
      rw [lineItems, opened?_lineText v _ _ unhindered.1,
        opened?_lineMoreItems items _ _ unhindered.2, firstInItems, Option.or_assoc]

theorem opened?_lineMoreItems : ∀ (items : List Json) (level : Nat) (rest : List Char),
    obstacleInItems? items = none →
      opened? limit .outside level (lineMoreItems items rest) =
        (firstInItems (beyond? limit) level items).or (opened? limit .outside level rest)
  | [], level, rest => fun _ => rfl
  | v :: items, level, rest => fun unhindered => by
      rw [obstacleInItems?, Option.or_eq_none_iff] at unhindered
      rw [lineMoreItems, opened?_separator, opened?_lineText v _ _ unhindered.1,
        opened?_lineMoreItems items _ _ unhindered.2, firstInItems, Option.or_assoc]

theorem opened?_lineFields : ∀ (fields : List (String × Json)) (level : Nat) (rest : List Char),
    obstacleInFields? fields = none →
      opened? limit .outside level (lineFields fields rest) =
        (firstInFields (beyond? limit) level fields).or (opened? limit .outside level rest)
  | [], level, rest => fun _ => rfl
  | (name, v) :: fields, level, rest => fun unhindered => by
      rw [obstacleInFields?, obstacleInField?, Option.or_eq_none_iff] at unhindered
      rw [lineFields, lineField, opened?_stringText, opened?_colon,
        opened?_lineText v _ _ unhindered.1, opened?_lineMoreFields fields _ _ unhindered.2,
        firstInFields, firstInField, Option.or_assoc]

theorem opened?_lineMoreFields : ∀ (fields : List (String × Json)) (level : Nat)
    (rest : List Char), obstacleInFields? fields = none →
      opened? limit .outside level (lineMoreFields fields rest) =
        (firstInFields (beyond? limit) level fields).or (opened? limit .outside level rest)
  | [], level, rest => fun _ => rfl
  | (name, v) :: fields, level, rest => fun unhindered => by
      rw [obstacleInFields?, obstacleInField?, Option.or_eq_none_iff] at unhindered
      rw [lineMoreFields, lineField, opened?_separator, opened?_stringText, opened?_colon,
        opened?_lineText v _ _ unhindered.1, opened?_lineMoreFields fields _ _ unhindered.2,
        firstInFields, firstInField, Option.or_assoc]

end

/-- A printed value that is read is as deep for the reader as it is itself. -/
theorem openedBeyond?_line {v value : Json} (unhindered : v.obstacle? = none)
    (isRead : read v.line = .ok value) (limit : Nat) :
    openedBeyond? limit v.line = v.nestedBeyond? limit := by
  rw [openedBeyond?, readPart, isRead, line, String.toList_ofList,
    opened?_lineText v _ _ unhindered, opened?, Option.or_none, nestedBeyond?]

/-! ## Lists of lists -/

/-- A list inside a list, so many times. -/
def nested : Nat → Json
  | 0 => .arr []
  | depth + 1 => .arr [nested depth]

theorem isPlain_nested (depth : Nat) : (nested depth).IsPlain := by
  induction depth with
  | zero => trivial
  | succ depth ih => exact ⟨ih, trivial⟩

theorem namesOnce_nested (depth : Nat) : (nested depth).NamesOnce := by
  induction depth with
  | zero => trivial
  | succ depth ih => exact ⟨ih, trivial⟩

theorem firstMet_nested {limit depth level : Nat} (deep : limit ≤ level + depth) :
    (nested depth).firstMet (beyond? limit) level = some .list := by
  induction depth generalizing level with
  | zero =>
      rw [nested, firstMet, beyond?, if_pos (show limit ≤ level from deep)]
      rfl
  | succ depth ih =>
      have inner : (nested depth).firstMet (beyond? limit) (level + 1) = some .list :=
        ih (by omega)
      rw [nested, firstMet, firstInItems, inner, Option.some_or, beyond?]
      split <;> rfl

/-- What is deeper than a reader goes is too deep for it. -/
theorem openedBeyond?_nested {limit depth : Nat} (deep : limit ≤ depth) :
    openedBeyond? limit (nested depth).line = some .list := by
  rw [openedBeyond?_line (obstacle?_of_isPlain _ (isPlain_nested depth))
    (read_line (isPlain_nested depth)), nestedBeyond?]
  exact firstMet_nested (by omega)

theorem not_mem_lineText_nested {c : Char} (noBracket : c ≠ '[' ∧ c ≠ ']') (depth : Nat)
    {rest : List Char} (absent : c ∉ rest) : c ∉ lineText (nested depth) rest := by
  induction depth generalizing rest with
  | zero => simp [nested, lineText, lineItems, noBracket, absent]
  | succ depth ih =>
      have closed : c ∉ ']' :: rest := by simp [noBracket, absent]
      simpa [nested, lineText, lineItems, lineMoreItems, noBracket] using ih closed

end PromptDispatch.Json
