import PromptDispatch.Proofs.Json.Steps
import PromptDispatch.Proofs.Keyed

/-!
# Spellings of values

A text spells a value in front of a rest when the reader, given steps enough
for the length of the text, finds the value and leaves the rest.  Lists and
objects are put together from the spellings of their parts, with any blanks
between the parts, so every layout that is built this way is read back.
-/

namespace PromptDispatch.Json

/-! ## Blanks between the parts -/

/-- Blanks and line breaks in front of a rest. -/
def Skips (cs rest : List Char) : Prop :=
  ∃ blanks, cs = blanks ++ rest ∧ ∀ c ∈ blanks, c = ' ' ∨ c = '\n'

namespace Skips

theorem refl (rest : List Char) : Skips rest rest := ⟨[], rfl, by simp⟩

theorem keeps {cs rest : List Char} (skips : Skips cs rest) : Keeps cs rest := by
  rcases skips with ⟨blanks, rfl, blank⟩
  apply keeps_append
  intro member
  rcases blank _ member with isSpace | isBreak
  · exact absurd isSpace (by decide)
  · exact absurd isBreak (by decide)

theorem isGap {cs rest : List Char} (skips : Skips cs rest) : IsGap cs rest := by
  rcases skips with ⟨blanks, rfl, blank⟩
  induction blanks with
  | nil => exact .nothing rest
  | cons b blanks ih =>
      have isBlank_b : isBlank b = true := by
        rcases blank b List.mem_cons_self with rfl | rfl <;> rfl
      exact .blank isBlank_b (ih fun d member => blank d (List.mem_cons_of_mem b member))

end Skips

theorem skips_space (rest : List Char) : Skips (' ' :: rest) rest :=
  ⟨[' '], rfl, by simp⟩

/-! ## Values, items and fields -/

/-- Given a number of steps at least, a reader finds something at the beginning
of a text and leaves the rest. -/
def Finds {α : Type} (reader : Nat → Nat → List Char → Except ReadError (α × Rest))
    (least : Nat) (found : α) (cs rest : List Char) : Prop :=
  ∀ fuel p, least ≤ fuel → ∃ q, reader fuel p cs = .ok (found, ⟨q, rest⟩)

/-- What is found is what is taken for one value. -/
theorem finds_iff {α : Type} {reader : Nat → Nat → List Char → Except ReadError (α × Rest)}
    {least : Nat} {found : α} {cs rest : List Char} :
    Finds reader least found cs rest ↔ Takes reader least (· = found) cs rest := by
  simp [Finds, Takes]

/-- A text that is read as a value in front of a rest. -/
structure Spells (v : Json) (cs rest : List Char) : Prop where
  begins : Begins cs
  longer : Extends cs rest
  isRead : Finds value (2 * cs.length) v cs rest

/-- A text that is read as the items of a list, up to its bracket. -/
structure SpellsItems (vs : List Json) (cs rest : List Char) : Prop where
  begins : Begins cs
  longer : Extends cs rest
  isRead : Finds items (2 * cs.length + 1) vs cs rest

/-- A text that is read as the fields of an object, up to its brace. -/
structure SpellsFields (fs : List (String × Json)) (cs rest : List Char) : Prop where
  begins : ∃ more, cs = '\x22' :: more
  longer : Extends cs rest
  isRead : Finds fields (2 * cs.length + 1) fs cs rest

/-- A text that the reader takes for a scalar spells it. -/
theorem spells_scalar {v : Json} {c : Char} {more rest : List Char}
    (begins : isBlank c = false ∧ c ≠ ']' ∧ c ≠ '\x22' ∧ c ≠ '[' ∧ c ≠ '\x7b')
    (longer : Extends (c :: more) rest)
    (isRead : ∀ p, ∃ q, scalar p (c :: more) = .ok (v, ⟨q, rest⟩)) :
    Spells v (c :: more) rest := by
  rcases begins with ⟨shown, noEnd, others⟩
  refine ⟨⟨c, more, rfl, shown, noEnd⟩, longer, finds_iff.mpr (takesValue_scalar others ?_)⟩
  simpa using isRead

theorem takesBody_stringText (s : String) (rest : List Char) :
    TakesBody (· = s) (s.toList.foldr charText ('\x22' :: rest)) rest := by
  intro p
  rcases stringBody_toList s rest p (p + 1) with ⟨q, found⟩
  exact ⟨s, q, rfl, found⟩

theorem spells_stringText (s : String) (rest : List Char) :
    Spells (.str s) (stringText s rest) rest where
  begins := ⟨'\x22', _, rfl, rfl, by decide⟩
  longer := extends_stringText s rest
  isRead := finds_iff.mpr (takesValue_string (takesBody_stringText s rest)
    fun _ => congrArg Json.str)

/-! ## Lists -/

theorem spells_arr_nil (rest : List Char) :
    Spells (.arr []) ('[' :: ']' :: rest) rest where
  begins := ⟨'[', _, rfl, rfl, by decide⟩
  longer := (extends_cons (by decide) _).trans (extends_cons (by decide) rest)
  isRead := finds_iff.mpr (takesValue_emptyList (.nothing _) rfl)

theorem spells_arr {vs : List Json} {gap next rest : List Char} (spaced : Skips gap next)
    (spelled : SpellsItems vs next rest) : Spells (.arr vs) ('[' :: gap) rest where
  begins := ⟨'[', gap, rfl, rfl, by decide⟩
  longer := (extends_cons (by decide) gap).trans (spaced.keeps.trans_extends spelled.longer)
  isRead := finds_iff.mpr
    (takesValue_list spaced.isGap spelled.begins (finds_iff.mp spelled.isRead)
      fun _ => congrArg Json.arr)

theorem spellsItems_last {v : Json} {cs after rest : List Char} (head : Spells v cs after)
    (closes : Skips after (']' :: rest)) : SpellsItems [v] cs rest where
  begins := head.begins
  longer := head.longer.trans (closes.keeps.trans_extends (extends_cons (by decide) rest))
  isRead := finds_iff.mpr (takesItems_last (finds_iff.mp head.isRead) closes.isGap (by simp))

theorem spellsItems_cons {v : Json} {vs : List Json} {cs after gap next rest : List Char}
    (head : Spells v cs after) (comma : Skips after (',' :: gap)) (spaced : Skips gap next)
    (tail : SpellsItems vs next rest) : SpellsItems (v :: vs) cs rest where
  begins := head.begins
  longer := head.longer.trans (comma.keeps.trans_extends
    ((extends_cons (by decide) gap).trans (spaced.keeps.trans_extends tail.longer)))
  isRead := finds_iff.mpr
    (takesItems_more head.longer.longer (finds_iff.mp head.isRead) comma.isGap spaced.isGap
      tail.begins (finds_iff.mp tail.isRead) (by simp +contextual))

/-! ## Objects -/

theorem spells_obj_nil (rest : List Char) :
    Spells (.obj []) ('\x7b' :: '\x7d' :: rest) rest where
  begins := ⟨'\x7b', _, rfl, rfl, by decide⟩
  longer := (extends_cons (by decide) _).trans (extends_cons (by decide) rest)
  isRead := finds_iff.mpr (takesValue_emptyObject (.nothing _) rfl)

/-- Of fields of one name the last counts, in the place of the first. -/
theorem spells_ofPairs {fs : List (String × Json)} {gap next rest : List Char}
    (spaced : Skips gap next) (spelled : SpellsFields fs next rest) :
    Spells (.obj (Keyed.ofPairs fs)) ('\x7b' :: gap) rest where
  begins := ⟨'\x7b', gap, rfl, rfl, by decide⟩
  longer := (extends_cons (by decide) gap).trans (spaced.keeps.trans_extends spelled.longer)
  isRead := by
    have isRead := spelled.isRead
    rcases spelled.begins with ⟨more, rfl⟩
    exact finds_iff.mpr (takesValue_object spaced.isGap (finds_iff.mp isRead)
      fun _ same => congrArg (Json.obj ∘ Keyed.ofPairs) same)

theorem spells_obj {fs : List (String × Json)} {gap next rest : List Char}
    (distinct : (Keyed.keys fs).Nodup) (spaced : Skips gap next)
    (spelled : SpellsFields fs next rest) : Spells (.obj fs) ('\x7b' :: gap) rest := by
  rw [← Keyed.ofPairs_of_nodup distinct]
  exact spells_ofPairs spaced spelled

section Fields

variable {name : String} {v : Json} {colon cs after rest : List Char}
  (colonSpaced : Skips colon cs) (head : Spells v cs after)

include colonSpaced head

/-- A field's name, its colon and its value in front of what follows. -/
theorem extends_field : Extends (stringText name (':' :: colon)) after :=
  (extends_stringText name _).trans
    ((extends_cons (by decide) colon).trans (colonSpaced.keeps.trans_extends head.longer))

theorem spellsFields_last (closes : Skips after ('\x7d' :: rest)) :
    SpellsFields [(name, v)] (stringText name (':' :: colon)) rest where
  begins := ⟨_, rfl⟩
  longer := (extends_field colonSpaced head).trans
    (closes.keeps.trans_extends (extends_cons (by decide) rest))
  isRead := by
    have nameLonger := (extends_stringText name (':' :: colon)).longer
    exact finds_iff.mpr (takesFields_last (Nat.le_of_lt_succ nameLonger)
      (takesBody_stringText name _) (.nothing _) colonSpaced.isGap head.begins
      (finds_iff.mp head.isRead) closes.isGap (by simp +contextual))

theorem spellsFields_cons {fs : List (String × Json)} {gap next : List Char}
    (comma : Skips after (',' :: gap)) (spaced : Skips gap next)
    (tail : SpellsFields fs next rest) :
    SpellsFields ((name, v) :: fs) (stringText name (':' :: colon)) rest where
  begins := ⟨_, rfl⟩
  longer := (extends_field colonSpaced head).trans (comma.keeps.trans_extends
    ((extends_cons (by decide) gap).trans (spaced.keeps.trans_extends tail.longer)))
  isRead := by
    have nameLonger := (extends_stringText name (':' :: colon)).longer
    have tailRead := tail.isRead
    have spacedGap := spaced.isGap
    rcases tail.begins with ⟨tailChars, rfl⟩
    exact finds_iff.mpr (takesFields_more (Nat.le_of_lt_succ nameLonger)
      (takesBody_stringText name _) (.nothing _) colonSpaced.isGap head.begins
      (finds_iff.mp head.isRead) head.longer.longer comma.isGap spacedGap
      (finds_iff.mp tailRead) (by simp +contextual))

end Fields

end PromptDispatch.Json
