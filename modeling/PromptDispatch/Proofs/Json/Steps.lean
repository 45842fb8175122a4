import PromptDispatch.Proofs.Json.Grammar

/-!
# How the reader takes values apart

The reader takes off a list or an object when it takes off the parts, with any
blanks between them, and it takes off nothing else.  What it makes of the whole is
told by what it makes of the parts, so every step is stated for parts of any kind:
for one value that a text is known to spell, or for whatever value there is.
-/

namespace PromptDispatch.Json

/-- The first character of a part tells it from blanks and from the end of a
list. -/
def Begins (cs : List Char) : Prop :=
  ∃ c more, cs = c :: more ∧ isBlank c = false ∧ c ≠ ']'

/-- Given a number of steps at least, a reader takes a text off in front of a rest
and makes something of a kind of it. -/
def Takes {α : Type} (reader : Nat → Nat → List Char → Except ReadError (α × Rest))
    (least : Nat) (kind : α → Prop) (cs rest : List Char) : Prop :=
  ∀ fuel p, least ≤ fuel → ∃ found q, kind found ∧ reader fuel p cs = .ok (found, ⟨q, rest⟩)

/-- A value is taken off, given steps enough for the length of the text. -/
abbrev TakesValue (kind : Json → Prop) (cs : List Char) : List Char → Prop :=
  Takes value (2 * cs.length) kind cs

/-- The items of a list are taken off with its bracket. -/
abbrev TakesItems (kind : List Json → Prop) (cs : List Char) : List Char → Prop :=
  Takes items (2 * cs.length + 1) kind cs

/-- The fields of an object are taken off with its brace. -/
abbrev TakesFields (kind : List (String × Json) → Prop) (cs : List Char) : List Char → Prop :=
  Takes fields (2 * cs.length + 1) kind cs

/-- The characters of a string are taken off with the closing quote. -/
def TakesBody (kind : String → Prop) (cs rest : List Char) : Prop :=
  ∀ p, ∃ s q, kind s ∧ stringBody p (cs.length + 1) [] (p + 1) cs = .ok (s, ⟨q, rest⟩)

/-- A reader that needs a step takes one. -/
theorem takes_of_step {α : Type} {reader : Nat → Nat → List Char → Except ReadError (α × Rest)}
    {least : Nat} {kind : α → Prop} {cs rest : List Char} (positive : 0 < least)
    (step : ∀ fuel p, least ≤ fuel + 1 →
      ∃ found q, kind found ∧ reader (fuel + 1) p cs = .ok (found, ⟨q, rest⟩)) :
    Takes reader least kind cs rest := by
  intro fuel p enough
  cases fuel with
  | zero => exact absurd enough (Nat.not_le_of_lt positive)
  | succ fuel => exact step fuel p enough

/-! ## Values, items and fields are taken off -/

section Values

variable {kind : Json → Prop} {cs next rest : List Char}

theorem takesValue_scalar {c : Char} {more : List Char}
    (other : c ≠ '\x22' ∧ c ≠ '[' ∧ c ≠ '\x7b')
    (isRead : ∀ p, ∃ v q, kind v ∧ scalar p (c :: more) = .ok (v, ⟨q, rest⟩)) :
    TakesValue kind (c :: more) rest := by
  rcases other with ⟨noQuote, noList, noObject⟩
  apply takes_of_step (by simp)
  intro fuel p _
  rcases isRead p with ⟨v, q, isKind, found⟩
  exact ⟨v, q, isKind, by rw [value, if_neg noQuote, if_neg noList, if_neg noObject, found]⟩

theorem takesValue_string {body : String → Prop} (isRead : TakesBody body cs rest)
    (makes : ∀ s, body s → kind (.str s)) : TakesValue kind ('\x22' :: cs) rest := by
  apply takes_of_step (by simp)
  intro fuel p _
  rcases isRead p with ⟨s, q, isBody, found⟩
  refine ⟨.str s, q, makes s isBody, ?_⟩
  rw [value, if_pos rfl, found]
  rfl

theorem takesValue_emptyList (gap : IsGap cs (']' :: rest)) (isKind : kind (.arr [])) :
    TakesValue kind ('[' :: cs) rest := by
  apply takes_of_step (by simp)
  intro fuel p _
  rcases gap.skipBlanks_eq (by simp [isBlank]) (p + 1) with ⟨q, skipped⟩
  refine ⟨.arr [], q + 1, isKind, ?_⟩
  rw [value, if_neg (by decide), if_pos rfl, skipped]
  rfl

theorem takesValue_list {parts : List Json → Prop} (gap : IsGap cs next) (begins : Begins next)
    (isRead : TakesItems parts next rest) (makes : ∀ vs, parts vs → kind (.arr vs)) :
    TakesValue kind ('[' :: cs) rest := by
  apply takes_of_step (by simp)
  intro fuel p enough
  have shorter := gap.length_le
  rw [List.length_cons] at enough
  rcases begins with ⟨c, more, rfl, shown, noEnd⟩
  rcases gap.skipBlanks_eq (by simpa using shown) (p + 1) with ⟨q, skipped⟩
  rcases isRead fuel q (by omega) with ⟨vs, r, areParts, found⟩
  refine ⟨.arr vs, r, makes vs areParts, ?_⟩
  rw [value, if_neg (by decide), if_pos rfl, skipped]
  split
  · next same => exact absurd (List.cons.inj (Rest.mk.inj same).2).1 noEnd
  · next same =>
    rcases Rest.mk.inj same with ⟨rfl, rfl⟩
    rw [found]
    rfl

theorem takesValue_emptyObject (gap : IsGap cs ('\x7d' :: rest)) (isKind : kind (.obj [])) :
    TakesValue kind ('\x7b' :: cs) rest := by
  apply takes_of_step (by simp)
  intro fuel p _
  rcases gap.skipBlanks_eq (by simp [isBlank]) (p + 1) with ⟨q, skipped⟩
  refine ⟨.obj [], q + 1, isKind, ?_⟩
  rw [value, if_neg (by decide), if_neg (by decide), if_pos rfl, skipped]
  rfl

/-- Of fields of one name the last counts, in the place of the first. -/
theorem takesValue_object {parts : List (String × Json) → Prop}
    (gap : IsGap cs ('\x22' :: next)) (isRead : TakesFields parts ('\x22' :: next) rest)
    (makes : ∀ fs, parts fs → kind (.obj (Keyed.ofPairs fs))) :
    TakesValue kind ('\x7b' :: cs) rest := by
  apply takes_of_step (by simp)
  intro fuel p enough
  have shorter := gap.length_le
  rw [List.length_cons] at enough
  rcases gap.skipBlanks_eq (by simp [isBlank]) (p + 1) with ⟨q, skipped⟩
  rcases isRead fuel q (by omega) with ⟨fs, r, areParts, found⟩
  refine ⟨.obj (Keyed.ofPairs fs), r, makes fs areParts, ?_⟩
  rw [value, if_neg (by decide), if_neg (by decide), if_pos rfl, skipped]
  split
  · next same => exact absurd (List.cons.inj (Rest.mk.inj same).2).1 (by decide)
  · next same =>
    rcases Rest.mk.inj same with ⟨rfl, rfl⟩
    rw [found]
    rfl

end Values

section Items

variable {head : Json → Prop} {kind : List Json → Prop} {cs after comma next rest : List Char}

theorem takesItems_last (isRead : TakesValue head cs after) (gap : IsGap after (']' :: rest))
    (makes : ∀ v, head v → kind [v]) : TakesItems kind cs rest := by
  apply takes_of_step (Nat.succ_pos _)
  intro fuel p enough
  rcases isRead fuel p (by omega) with ⟨v, q, isHead, found⟩
  rcases gap.skipBlanks_eq (by simp [isBlank]) q with ⟨r, closed⟩
  refine ⟨[v], r + 1, makes v isHead, ?_⟩
  rw [items, found]
  simp only [bind, Except.bind, closed]

theorem takesItems_more {tail : List Json → Prop} (shorter : after.length < cs.length)
    (isRead : TakesValue head cs after) (before : IsGap after (',' :: comma))
    (behind : IsGap comma next) (begins : Begins next) (othersRead : TakesItems tail next rest)
    (makes : ∀ v vs, head v → tail vs → kind (v :: vs)) : TakesItems kind cs rest := by
  apply takes_of_step (Nat.succ_pos _)
  intro fuel p enough
  -- What is left of the text after the comma is shorter by the value and the comma.
  have beforeShorter := before.length_le
  have behindShorter := behind.length_le
  rw [List.length_cons] at beforeShorter
  rcases begins with ⟨c, more, rfl, shown, -⟩
  rcases isRead fuel p (by omega) with ⟨v, valueEnd, isHead, found⟩
  rcases before.skipBlanks_eq (by simp [isBlank]) valueEnd with ⟨commaPlace, atComma⟩
  rcases behind.skipBlanks_eq (by simpa using shown) (commaPlace + 1) with ⟨start, skipped⟩
  rcases othersRead fuel start (by omega) with ⟨vs, tailEnd, isTail, othersFound⟩
  refine ⟨v :: vs, tailEnd, makes v vs isHead isTail, ?_⟩
  rw [items, found]
  simp only [bind, Except.bind, atComma, skipped, othersFound]

end Items

section Fields

variable {name : String → Prop} {field : Json → Prop} {kind : List (String × Json) → Prop}
  {cs named colon start after comma next rest : List Char}
  (nameShorter : named.length ≤ cs.length) (nameRead : TakesBody name cs named)
  (before : IsGap named (':' :: colon)) (behind : IsGap colon start) (begins : Begins start)
  (isRead : TakesValue field start after)

include nameShorter nameRead before behind begins isRead

theorem takesFields_last (gap : IsGap after ('\x7d' :: rest))
    (makes : ∀ s v, name s → field v → kind [(s, v)]) :
    TakesFields kind ('\x22' :: cs) rest := by
  apply takes_of_step (Nat.succ_pos _)
  intro fuel p enough
  have beforeShorter := before.length_le
  have behindShorter := behind.length_le
  simp only [List.length_cons] at enough beforeShorter
  rcases begins with ⟨c, more, rfl, shown, -⟩
  rcases nameRead p with ⟨s, nameEnd, isName, nameFound⟩
  rcases before.skipBlanks_eq (by simp [isBlank]) nameEnd with ⟨colonPlace, atColon⟩
  rcases behind.skipBlanks_eq (by simpa using shown) (colonPlace + 1) with ⟨valueStart, skipped⟩
  rcases isRead fuel valueStart (by omega) with ⟨v, valueEnd, isField, found⟩
  rcases gap.skipBlanks_eq (by simp [isBlank]) valueEnd with ⟨brace, closed⟩
  refine ⟨[(s, v)], brace + 1, makes s v isName isField, ?_⟩
  rw [fields, nameFound]
  simp only [bind, Except.bind, atColon, skipped, found, closed]

theorem takesFields_more {tail : List (String × Json) → Prop}
    (shorter : after.length < start.length) (beforeComma : IsGap after (',' :: comma))
    (behindComma : IsGap comma ('\x22' :: next))
    (othersRead : TakesFields tail ('\x22' :: next) rest)
    (makes : ∀ s v fs, name s → field v → tail fs → kind ((s, v) :: fs)) :
    TakesFields kind ('\x22' :: cs) rest := by
  apply takes_of_step (Nat.succ_pos _)
  intro fuel p enough
  have beforeShorter := before.length_le
  have behindShorter := behind.length_le
  have beforeCommaShorter := beforeComma.length_le
  have behindCommaShorter := behindComma.length_le
  simp only [List.length_cons] at enough beforeShorter beforeCommaShorter
  rcases begins with ⟨c, more, rfl, shown, -⟩
  rcases nameRead p with ⟨s, nameEnd, isName, nameFound⟩
  rcases before.skipBlanks_eq (by simp [isBlank]) nameEnd with ⟨colonPlace, atColon⟩
  rcases behind.skipBlanks_eq (by simpa using shown) (colonPlace + 1) with ⟨valueStart, skipped⟩
  rcases isRead fuel valueStart (by omega) with ⟨v, valueEnd, isField, found⟩
  rcases beforeComma.skipBlanks_eq (by simp [isBlank]) valueEnd with ⟨commaPlace, atComma⟩
  rcases behindComma.skipBlanks_eq (by simp [isBlank]) (commaPlace + 1) with
    ⟨tailStart, skippedGap⟩
  rcases othersRead fuel tailStart (by omega) with ⟨fs, tailEnd, isTail, othersFound⟩
  refine ⟨(s, v) :: fs, tailEnd, makes s v fs isName isField isTail, ?_⟩
  rw [fields, nameFound]
  simp only [bind, Except.bind, atColon, skipped, found, atComma, skippedGap, othersFound]

end Fields

/-! ## Nothing else is taken off -/

/-- The words that are values, and what they stand for. -/
def meanings : List (String × Json) :=
  [("null", .null), ("true", .bool true), ("false", .bool false), ("NaN", .float .nan),
    ("Infinity", .float (.infinite false)), ("-Infinity", .float (.infinite true))]

/-- A scalar is a word, or a number with or without a sign. -/
theorem scalar_cases {p : Nat} {cs : List Char} {v : Json} {rest : Rest}
    (isRead : scalar p cs = .ok (v, rest)) :
    (∃ word ∈ meanings, cs = word.1.toList ++ rest.chars ∧ v = word.2) ∨
      ∃ negative q unsigned, (cs = unsigned ∨ cs = '-' :: unsigned) ∧
        number p negative q unsigned = .ok (v, rest) := by
  have of_word : ∀ {word : String} {named : Json}, (word, named) ∈ meanings →
      (if word.toList.isPrefixOf cs then
        some (named, (⟨p + word.length, cs.drop word.length⟩ : Rest)) else none) = some (v, rest) →
      ∃ word ∈ meanings, cs = word.1.toList ++ rest.chars ∧ v = word.2 := by
    intro word named isWord found
    split at found
    · next isPrefix =>
      rcases List.isPrefixOf_iff_prefix.mp isPrefix with ⟨tail, rfl⟩
      obtain ⟨rfl, rfl⟩ := Prod.mk.inj (Option.some.inj found)
      refine ⟨(word, named), isWord, ?_, rfl⟩
      rw [← String.length_toList, List.drop_left]
    · cases found
  simp only [scalar] at isRead
  split at isRead
  · next found chosen =>
    obtain rfl : found = (v, rest) := Except.ok.inj isRead
    simp only [Option.or_eq_some_iff] at chosen
    left
    rcases chosen with h | ⟨-, h | ⟨-, h | ⟨-, h | ⟨-, h | ⟨-, h⟩⟩⟩⟩⟩ <;>
      exact of_word (by simp [meanings]) h
  · split at isRead
    · exact .inr ⟨true, _, _, .inr rfl, isRead⟩
    · exact .inr ⟨false, _, _, .inl rfl, isRead⟩

/-- Relations between values, items and fields and the texts they are taken off,
which hold of the whole when they hold of the parts. -/
structure Closed (V : Json → List Char → List Char → Prop)
    (I : List Json → List Char → List Char → Prop)
    (F : List (String × Json) → List Char → List Char → Prop) : Prop where
  scalar : ∀ {p cs v rest}, scalar p cs = .ok (v, rest) → V v cs rest.chars
  string : ∀ {p fuel cs s rest}, stringBody p fuel [] (p + 1) cs = .ok (s, rest) →
    V (.str s) ('\x22' :: cs) rest.chars
  emptyList : ∀ {cs rest}, IsGap cs (']' :: rest) → V (.arr []) ('[' :: cs) rest
  list : ∀ {vs cs next rest}, IsGap cs next → I vs next rest → V (.arr vs) ('[' :: cs) rest
  emptyObject : ∀ {cs rest}, IsGap cs ('\x7d' :: rest) → V (.obj []) ('\x7b' :: cs) rest
  object : ∀ {fs cs next rest}, IsGap cs next → F fs next rest →
    V (.obj (Keyed.ofPairs fs)) ('\x7b' :: cs) rest
  lastItem : ∀ {v cs after rest}, V v cs after → IsGap after (']' :: rest) → I [v] cs rest
  moreItems : ∀ {v vs cs after comma next rest}, V v cs after → IsGap after (',' :: comma) →
    IsGap comma next → I vs next rest → I (v :: vs) cs rest
  lastField : ∀ {p fuel s v cs named colon start after rest},
    stringBody p fuel [] (p + 1) cs = .ok (s, named) → IsGap named.chars (':' :: colon) →
    IsGap colon start → V v start after → IsGap after ('\x7d' :: rest) →
    F [(s, v)] ('\x22' :: cs) rest
  moreFields : ∀ {p fuel s v fs cs named colon start after comma next rest},
    stringBody p fuel [] (p + 1) cs = .ok (s, named) → IsGap named.chars (':' :: colon) →
    IsGap colon start → V v start after → IsGap after (',' :: comma) → IsGap comma next →
    F fs next rest → F ((s, v) :: fs) ('\x22' :: cs) rest

namespace Closed

variable {V : Json → List Char → List Char → Prop} {I : List Json → List Char → List Char → Prop}
  {F : List (String × Json) → List Char → List Char → Prop} (closed : Closed V I F) {fuel : Nat}

include closed

theorem value_succ
    (itemsIh : ∀ {p cs vs rest}, items fuel p cs = .ok (vs, rest) → I vs cs rest.chars)
    (fieldsIh : ∀ {p cs fs rest}, fields fuel p cs = .ok (fs, rest) → F fs cs rest.chars)
    {p : Nat} {cs : List Char} {v : Json} {rest : Rest}
    (isRead : value (fuel + 1) p cs = .ok (v, rest)) : V v cs rest.chars := by
  cases cs with
  | nil => cases isRead
  | cons c cs =>
      have gap := IsGap.skipBlanks (p + 1) cs
      rw [value] at isRead
      split at isRead
      · next isQuote =>
        rcases bind_eq_ok_iff.mp isRead with ⟨⟨s, after⟩, bodyRead, same⟩
        obtain ⟨rfl, rfl⟩ := by simpa using same
        exact isQuote ▸ closed.string bodyRead
      split at isRead
      · next isBracket =>
        split at isRead
        · next skipped =>
          obtain ⟨rfl, rfl⟩ := by simpa using isRead
          rw [skipped] at gap
          exact isBracket ▸ closed.emptyList gap
        · next skipped =>
          rcases bind_eq_ok_iff.mp isRead with ⟨⟨vs, after⟩, itemsRead, same⟩
          obtain ⟨rfl, rfl⟩ := by simpa using same
          rw [skipped] at gap
          exact isBracket ▸ closed.list gap (itemsIh itemsRead)
      split at isRead
      · next isBrace =>
        split at isRead
        · next skipped =>
          obtain ⟨rfl, rfl⟩ := by simpa using isRead
          rw [skipped] at gap
          exact isBrace ▸ closed.emptyObject gap
        · next skipped =>
          rcases bind_eq_ok_iff.mp isRead with ⟨⟨fs, after⟩, fieldsRead, same⟩
          obtain ⟨rfl, rfl⟩ := by simpa using same
          rw [skipped] at gap
          exact isBrace ▸ closed.object gap (fieldsIh fieldsRead)
      · exact closed.scalar isRead

theorem items_succ
    (valueIh : ∀ {p cs v rest}, value fuel p cs = .ok (v, rest) → V v cs rest.chars)
    (itemsIh : ∀ {p cs vs rest}, items fuel p cs = .ok (vs, rest) → I vs cs rest.chars)
    {p : Nat} {cs : List Char} {vs : List Json} {rest : Rest}
    (isRead : items (fuel + 1) p cs = .ok (vs, rest)) : I vs cs rest.chars := by
  rw [items] at isRead
  rcases bind_eq_ok_iff.mp isRead with ⟨⟨v, after⟩, valueRead, more⟩
  have gap := IsGap.skipBlanks after.position after.chars
  dsimp only at more
  split at more
  · next closes =>
    obtain ⟨rfl, rfl⟩ := by simpa using more
    rw [closes] at gap
    exact closed.lastItem (valueIh valueRead) gap
  · next atComma =>
    rcases bind_eq_ok_iff.mp more with ⟨⟨vs, after⟩, itemsRead, same⟩
    obtain ⟨rfl, rfl⟩ := by simpa using same
    rw [atComma] at gap
    exact closed.moreItems (valueIh valueRead) gap (IsGap.skipBlanks _ _) (itemsIh itemsRead)
  · cases more

theorem fields_succ
    (valueIh : ∀ {p cs v rest}, value fuel p cs = .ok (v, rest) → V v cs rest.chars)
    (fieldsIh : ∀ {p cs fs rest}, fields fuel p cs = .ok (fs, rest) → F fs cs rest.chars)
    {p : Nat} {cs : List Char} {fs : List (String × Json)} {rest : Rest}
    (isRead : fields (fuel + 1) p cs = .ok (fs, rest)) : F fs cs rest.chars := by
  rw [fields.eq_def] at isRead
  dsimp only at isRead
  split at isRead
  · rcases bind_eq_ok_iff.mp isRead with ⟨⟨name, named⟩, nameRead, isRead⟩
    have before := IsGap.skipBlanks named.position named.chars
    dsimp only at isRead
    split at isRead
    · next atColon =>
      rw [atColon] at before
      rcases bind_eq_ok_iff.mp isRead with ⟨⟨v, after⟩, valueRead, more⟩
      have gap := IsGap.skipBlanks after.position after.chars
      dsimp only at more
      split at more
      · next closes =>
        obtain ⟨rfl, rfl⟩ := by simpa using more
        rw [closes] at gap
        exact closed.lastField nameRead before (IsGap.skipBlanks _ _) (valueIh valueRead) gap
      · next atComma =>
        rcases bind_eq_ok_iff.mp more with ⟨⟨fs, after⟩, fieldsRead, same⟩
        obtain ⟨rfl, rfl⟩ := by simpa using same
        rw [atComma] at gap
        exact closed.moreFields nameRead before (IsGap.skipBlanks _ _) (valueIh valueRead) gap
          (IsGap.skipBlanks _ _) (fieldsIh fieldsRead)
      · cases more
    · cases isRead
  · cases isRead

/-- What holds of the whole when it holds of the parts holds of all that is read. -/
theorem of_reads (fuel : Nat) :
    (∀ {p cs v rest}, value fuel p cs = .ok (v, rest) → V v cs rest.chars) ∧
    (∀ {p cs vs rest}, items fuel p cs = .ok (vs, rest) → I vs cs rest.chars) ∧
    (∀ {p cs fs rest}, fields fuel p cs = .ok (fs, rest) → F fs cs rest.chars) := by
  induction fuel with
  | zero => simp [value, items, fields]
  | succ fuel ih =>
      rcases ih with ⟨valueIh, itemsIh, fieldsIh⟩
      exact ⟨closed.value_succ itemsIh fieldsIh, closed.items_succ valueIh itemsIh,
        closed.fields_succ valueIh fieldsIh⟩

/-- A text that is read is one value with blanks around it. -/
theorem of_read {text : String} {v : Json} (isRead : read text = .ok v) :
    ∃ start after, IsGap text.toList start ∧ V v start after ∧ IsGap after [] := by
  rw [read, readChars.eq_def] at isRead
  split at isRead
  · cases isRead
  · rcases bind_eq_ok_iff.mp isRead with ⟨⟨w, after⟩, valueRead, ended⟩
    have trailing := IsGap.skipBlanks after.position after.chars
    dsimp only at ended
    split at ended
    · next atEnd =>
      obtain rfl := Except.ok.inj ended
      rw [atEnd] at trailing
      exact ⟨_, _, IsGap.skipBlanks 0 text.toList, (closed.of_reads _).1 valueRead, trailing⟩
    · cases ended

end Closed

end PromptDispatch.Json
