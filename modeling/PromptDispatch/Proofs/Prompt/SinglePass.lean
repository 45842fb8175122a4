import PromptDispatch.Proofs.Prompt.QuietContent
import PromptDispatch.Proofs.Unicode.LetterCase

/-!
# What one pass over the quiet elements leaves

The pass that drops quiet elements goes over a text once and puts a blank where an element
stood.  A blank can complete no opening tag: an opening bracket and the name behind it stay
together, and where they stay together the pass has looked for an element already.  It can
complete a closing tag, though, since blanks may stand behind the closing name.  So the text
that is left holds another element exactly when the pass puts a closing tag together that
was not written as one, behind an opening tag of the same name.
-/

namespace PromptDispatch.Prompt

open Unicode

/-! ## The shape of an element -/

/-- The opening tag of a quiet element of the given name. -/
def Opens (name tag : List Char) : Prop :=
  ∃ attributes, tag = '<' :: (name ++ (attributes ++ ['>'])) ∧ Spells name ∧
    (∀ c ∈ (attributes ++ ['>']).head?, isWord c = false) ∧ '>' ∉ attributes

/-- Somewhere in a text a quiet element begins. -/
def HoldsElement (cs : List Char) : Prop :=
  ∃ before after, cs = before ++ after ∧ (quietElement? after).isSome = true

theorem Spells.isWord {name : List Char} (spells : Spells name) :
    ∀ c ∈ name, isWord c = true := by
  have basic : ∀ word ∈ quietNames,
      (word.all fun w => decide (97 ≤ w.toNat ∧ w.toNat ≤ 122)) = true := by decide
  obtain ⟨word, quiet, same⟩ := spells
  have letters := List.all_eq_true.mp (basic word quiet)
  simp only [decide_eq_true_eq] at letters
  clear quiet
  induction same with
  | nil => simp
  | cons sameLetter _ ih =>
      rw [List.forall_mem_cons] at letters ⊢
      exact ⟨isWord_of_sameUpToCase letters.1 sameLetter, ih letters.2⟩

/-- The letters of a closing name are those of a word. -/
theorem Spells.isWord_of_lower {name letters : List Char} (spells : Spells name)
    (same : letters.map lower = name.map lower) : ∀ c ∈ letters, Unicode.isWord c = true := by
  intro c mem
  have lowerMem : lower c ∈ name.map lower := same ▸ List.mem_map_of_mem mem
  obtain ⟨other, otherMem, isLower⟩ := List.mem_map.mp lowerMem
  rw [← isWord_lower c, ← isLower, isWord_lower]
  exact spells.isWord other otherMem

theorem not_mem_of_not_isWord {c : Char} {letters : List Char} (other : isWord c = false)
    (words : ∀ d ∈ letters, isWord d = true) : c ∉ letters := by
  intro mem
  rw [words c mem] at other
  cases other

theorem not_isWord_space : isWord ' ' = false := by decide +kernel

theorem not_isWord_opening : isWord '<' = false := by decide +kernel

/-- An element that is found runs from an opening tag to a closing tag of the same name. -/
theorem exists_of_quietElement? {cs : List Char} {n : Nat} (width : quietElement? cs = some n) :
    ∃ name opening body closing rest, cs = opening ++ (body ++ (closing ++ rest)) ∧
      Opens name opening ∧ Closes name closing ∧
      n = opening.length + (body.length + closing.length) := by
  rw [quietElement?.eq_def] at width
  split at width
  · next cs =>
    split at width
    · next name afterName isName =>
      split at width
      · next opened isOpened =>
        obtain ⟨later, isLater, rfl⟩ := Option.map_eq_some_iff.mp width
        obtain ⟨rfl, spells, ends⟩ := exists_of_quietName? isName
        obtain ⟨attributes, behind, rfl, noBracket, rfl⟩ := exists_of_throughBracket? isOpened
        rw [drop_bracket] at isLater
        obtain ⟨body, closing, rest, rfl, closes, rfl⟩ := exists_of_throughClosingTag? isLater
        refine ⟨name, _, body, closing, rest, ?_, ⟨attributes, rfl, spells, ?_, noBracket⟩,
          closes, ?_⟩
        · simp
        · cases attributes <;> exact ends
        · simp only [List.length_cons, List.length_append, List.length_nil]
          omega
      · cases width
    · cases width
  · cases width

/-- Behind an opening bracket and the name, an element is found if only the opening tag ends
somewhere and a closing tag of the name follows it. -/
theorem isSome_quietElement? {name : List Char} (spells : Spells name) {attributes : List Char}
    (ends : ∀ c ∈ attributes.head?, isWord c = false) (bracket : '>' ∈ attributes)
    {closing : List Char} (closes : Closes name closing) (body rest : List Char) :
    (quietElement? ('<' :: (name ++ (attributes ++ (body ++ (closing ++ rest)))))).isSome =
      true := by
  obtain ⟨inner, more, rfl, noBracket⟩ := List.eq_append_cons_of_mem bracket
  have nonempty : inner ++ '>' :: more ≠ [] := by simp
  have isName : quietName? (name ++ ((inner ++ '>' :: more) ++ (body ++ (closing ++ rest)))) =
      some (name, (inner ++ '>' :: more) ++ (body ++ (closing ++ rest))) := by
    apply quietName?_append spells
    rwa [List.head?_append_of_ne_nil _ nonempty]
  have isOpened := throughBracket?_append noBracket (more ++ (body ++ (closing ++ rest)))
  have within : closing <:+: more ++ (body ++ (closing ++ rest)) :=
    ⟨more ++ body, rest, by simp⟩
  have closed : throughClosingTag? name (more ++ (body ++ (closing ++ rest))) ≠ none :=
    fun unfound => not_infix_of_throughClosingTag?_eq_none unfound closing closes within
  obtain ⟨width, isWidth⟩ := Option.ne_none_iff_exists'.mp closed
  rw [List.append_assoc, List.cons_append] at isName ⊢
  rw [quietElement?]
  simp only [isName, isOpened, drop_bracket, isWidth, Option.map_some, Option.isSome_some]

/-! ## The course of the pass -/

/-- The pass gets from one text to a later part of it and leaves something meanwhile. -/
inductive Passes : List Char → List Char → List Char → Prop
  | stay (cs : List Char) : Passes cs [] cs
  /-- a character at which no element begins is left -/
  | keep {c : Char} {cs left rest : List Char} (unmatched : quietElement? (c :: cs) = none)
      (later : Passes cs left rest) : Passes (c :: cs) (c :: left) rest
  /-- an element leaves a blank -/
  | drop {element cs left rest : List Char}
      (isElement : quietElement? (element ++ cs) = some element.length)
      (later : Passes cs left rest) : Passes (element ++ cs) (' ' :: left) rest

theorem exists_element_of_width {cs : List Char} {n : Nat} (width : quietElement? cs = some n) :
    ∃ element rest, cs = element ++ rest ∧ element ≠ [] ∧ n = element.length := by
  obtain ⟨name, opening, body, closing, rest, rfl, ⟨attributes, rfl, -⟩, -, rfl⟩ :=
    exists_of_quietElement? width
  refine ⟨'<' :: (name ++ (attributes ++ ['>'])) ++ (body ++ closing), rest, by simp, by simp, ?_⟩
  rw [List.length_append, List.length_append]

namespace Passes

variable {cs left rest : List Char}

theorem dropQuietElements_eq (passes : Passes cs left rest) :
    dropQuietElements cs = left ++ dropQuietElements rest := by
  induction passes with
  | stay cs => rfl
  | keep unmatched _ ih =>
      rw [dropQuietElements, blankOut, unmatched]
      exact congrArg (_ :: ·) ih
  | @drop element cs left rest isElement _ ih =>
      have nonempty : element ≠ [] := by
        rintro rfl
        obtain ⟨found, _, -, nonempty, isLength⟩ := exists_element_of_width isElement
        exact nonempty (List.length_eq_zero_iff.mp isLength.symm)
      rw [dropQuietElements, blankOut_of_width nonempty isElement]
      exact congrArg (' ' :: ·) ih

/-- The pass gets to where it has left the first part of what it leaves. -/
theorem exists_of_dropQuietElements {behind : List Char}
    (isLeft : dropQuietElements cs = left ++ behind) :
    ∃ rest, Passes cs left rest ∧ dropQuietElements rest = behind := by
  induction left generalizing cs with
  | nil => exact ⟨cs, .stay cs, isLeft⟩
  | cons c left ih =>
      cases width : quietElement? cs with
      | none =>
          cases cs with
          | nil => cases isLeft
          | cons first cs =>
              have kept : first :: dropQuietElements cs = c :: (left ++ behind) := by
                rw [dropQuietElements, blankOut, width] at isLeft
                exact isLeft
              obtain ⟨rfl, isLater⟩ := List.cons.inj kept
              obtain ⟨rest, later, isBehind⟩ := ih isLater
              exact ⟨rest, .keep width later, isBehind⟩
      | some n =>
          obtain ⟨element, after, rfl, nonempty, rfl⟩ := exists_element_of_width width
          have blank : ' ' :: dropQuietElements after = c :: (left ++ behind) := by
            rw [dropQuietElements, blankOut_of_width nonempty width] at isLeft
            exact isLeft
          obtain ⟨rfl, isLater⟩ := List.cons.inj blank
          obtain ⟨rest, later, isBehind⟩ := ih isLater
          exact ⟨rest, .drop width later, isBehind⟩

/-- Whatever is left but the blanks stands in the text that the pass has gone through. -/
theorem exists_passed (passes : Passes cs left rest) :
    ∃ passed, cs = passed ++ rest ∧ ∀ c ∈ left, c ≠ ' ' → c ∈ passed := by
  induction passes with
  | stay cs => exact ⟨[], rfl, by simp⟩
  | @keep c _ _ _ _ _ ih =>
      obtain ⟨passed, rfl, stands⟩ := ih
      refine ⟨c :: passed, rfl, List.forall_mem_cons.mpr ⟨fun _ => List.mem_cons_self, ?_⟩⟩
      intro d mem other
      exact List.mem_cons_of_mem c (stands d mem other)
  | @drop element _ _ _ _ _ ih =>
      obtain ⟨passed, rfl, stands⟩ := ih
      refine ⟨element ++ passed, by simp, List.forall_mem_cons.mpr ⟨absurd rfl, ?_⟩⟩
      intro d mem other
      exact List.mem_append_right element (stands d mem other)

/-- What is left and is no blank has been kept. -/
theorem kept {c : Char} (passes : Passes cs (c :: left) rest) (other : c ≠ ' ') :
    ∃ later, cs = c :: later ∧ quietElement? cs = none ∧ Passes later left rest := by
  cases passes with
  | keep unmatched later => exact ⟨_, rfl, unmatched, later⟩
  | drop => exact absurd rfl other

theorem kept_append {letters : List Char} (noBlank : ' ' ∉ letters)
    (passes : Passes cs (letters ++ left) rest) :
    ∃ later, cs = letters ++ later ∧ Passes later left rest := by
  induction letters generalizing cs with
  | nil => exact ⟨cs, rfl, passes⟩
  | cons c letters ih =>
      rw [List.mem_cons, not_or] at noBlank
      obtain ⟨more, rfl, -, others⟩ := passes.kept (Ne.symm noBlank.1)
      obtain ⟨later, rfl, behind⟩ := ih noBlank.2 others
      exact ⟨later, rfl, behind⟩

/-- Where a word ends in what is left, one ends in the text. -/
theorem word_ends (passes : Passes cs left rest) (nonempty : left ≠ [])
    (ends : ∀ c ∈ left.head?, isWord c = false) : ∀ c ∈ cs.head?, isWord c = false := by
  cases passes with
  | stay => exact absurd rfl nonempty
  | keep => exact ends
  | drop isElement =>
      obtain ⟨name, opening, body, closing, later, isText, ⟨attributes, rfl, -⟩, -⟩ :=
        exists_of_quietElement? isElement
      rw [isText]
      rintro c ⟨rfl⟩
      exact not_isWord_opening

/-- What is left stands in the text as it is, unless an element stands where a blank is
left. -/
theorem prefix_or_element (passes : Passes cs left rest) :
    left <+: cs ∨ ∃ kept element, kept ++ [' '] <+: left ∧ cs = kept ++ element ∧
      (quietElement? element).isSome = true := by
  induction passes with
  | stay cs => exact .inl List.nil_prefix
  | @keep c _ _ _ _ _ ih =>
      rcases ih with stands | ⟨kept, element, isLeft, rfl, isElement⟩
      · exact .inl ((List.prefix_cons_inj c).mpr stands)
      · exact .inr ⟨c :: kept, element, (List.prefix_cons_inj c).mpr isLeft, rfl, isElement⟩
  | @drop element cs _ _ isElement _ _ =>
      refine .inr ⟨[], element ++ cs, ?_, rfl, Option.isSome_of_eq_some isElement⟩
      exact (List.prefix_cons_inj ' ').mpr List.nil_prefix

/-- Behind an opening tag that the pass has left there was no closing tag of its name. -/
theorem not_closing {name opening body closing behind : List Char} (opens : Opens name opening)
    (closes : Closes name closing) (atOpening : Passes cs opening behind)
    (atBody : Passes behind body rest) : ¬ closing <+: rest := by
  rintro ⟨after, rfl⟩
  obtain ⟨attributes, rfl, spells, ends, -⟩ := opens
  obtain ⟨afterBracket, rfl, unmatched, atName⟩ := atOpening.kept (by decide)
  have noBlank := not_mem_of_not_isWord not_isWord_space spells.isWord
  obtain ⟨afterName, rfl, atAttributes⟩ := atName.kept_append noBlank
  have afterName_ends := atAttributes.word_ends (by simp) ends
  obtain ⟨passed, rfl, stands⟩ := atAttributes.exists_passed
  obtain ⟨bodyPassed, rfl, -⟩ := atBody.exists_passed
  have bracket : '>' ∈ passed := stands '>' (by simp) (by decide)
  rw [List.head?_append_of_ne_nil _ (List.ne_nil_of_mem bracket)] at afterName_ends
  have found := isSome_quietElement? spells afterName_ends bracket closes bodyPassed after
  rw [unmatched] at found
  cases found

end Passes

/-! ## Elements that are left -/

/-- The pass leaves an opening tag, and behind it a closing tag of the same name that does
not stand in the text as it is left. -/
inductive Rejoins (cs : List Char) : Prop
  | intro {name before opening body closing atOpening atBody atClosing after : List Char}
      (opens : Opens name opening) (closes : Closes name closing)
      (passesBefore : Passes cs before atOpening) (passesOpening : Passes atOpening opening atBody)
      (passesBody : Passes atBody body atClosing) (passesClosing : Passes atClosing closing after)
      (isNew : ¬ closing <+: atClosing)

/-- Somewhere an element directly follows the beginning of a closing tag. -/
def Severs (cs : List Char) : Prop :=
  ∃ before letters blanks element,
    cs = before ++ ('<' :: '/' :: (letters ++ (blanks ++ element))) ∧
      (∃ name, Spells name ∧ letters.map lower = name.map lower) ∧
      (∀ c ∈ blanks, isBlank c = true) ∧ (quietElement? element).isSome = true

theorem rejoins_of_holdsElement {cs : List Char} (holds : HoldsElement (dropQuietElements cs)) :
    Rejoins cs := by
  obtain ⟨before, found, isLeft, isSome⟩ := holds
  obtain ⟨n, width⟩ := Option.isSome_iff_exists.mp isSome
  obtain ⟨name, opening, body, closing, behind, rfl, opens, closes, -⟩ :=
    exists_of_quietElement? width
  obtain ⟨atOpening, passesBefore, leftBefore⟩ := Passes.exists_of_dropQuietElements isLeft
  obtain ⟨atBody, passesOpening, leftOpening⟩ := Passes.exists_of_dropQuietElements leftBefore
  obtain ⟨atClosing, passesBody, leftBody⟩ := Passes.exists_of_dropQuietElements leftOpening
  obtain ⟨after, passesClosing, -⟩ := Passes.exists_of_dropQuietElements leftBody
  exact .intro opens closes passesBefore passesOpening passesBody passesClosing
    (passesOpening.not_closing opens closes passesBody)

theorem Rejoins.holdsElement {cs : List Char} (rejoins : Rejoins cs) :
    HoldsElement (dropQuietElements cs) := by
  obtain ⟨⟨attributes, rfl, spells, ends, -⟩, closes, passesBefore, passesOpening, passesBody,
    passesClosing, -⟩ := rejoins
  refine ⟨_, _, passesBefore.dropQuietElements_eq, ?_⟩
  rw [passesOpening.dropQuietElements_eq, passesBody.dropQuietElements_eq,
    passesClosing.dropQuietElements_eq, List.cons_append, List.append_assoc]
  exact isSome_quietElement? spells ends (by simp) closes _ _

/-- A closing tag that is put together was severed by an element. -/
theorem Rejoins.severs {cs : List Char} (rejoins : Rejoins cs) : Severs cs := by
  obtain ⟨⟨attributes, -, spells, -⟩, ⟨letters, blanks, rfl, same, blank⟩, passesBefore,
    passesOpening, passesBody, passesClosing, isNew⟩ := rejoins
  obtain ⟨beforeOpening, rfl, -⟩ := passesBefore.exists_passed
  obtain ⟨beforeBody, rfl, -⟩ := passesOpening.exists_passed
  obtain ⟨beforeClosing, rfl, -⟩ := passesBody.exists_passed
  obtain ⟨afterBracket, rfl, -, atSlash⟩ := passesClosing.kept (by decide)
  obtain ⟨afterSlash, rfl, -, atLetters⟩ := atSlash.kept (by decide)
  have noBlank := not_mem_of_not_isWord not_isWord_space (spells.isWord_of_lower same)
  obtain ⟨afterLetters, rfl, atBlanks⟩ := atLetters.kept_append noBlank
  rcases atBlanks.prefix_or_element with stands | ⟨kept, element, isLeft, rfl, isElement⟩
  · refine absurd ?_ isNew
    rw [List.prefix_cons_inj, List.prefix_cons_inj, List.prefix_append_right_inj]
    exact stands
  · have keptBlank : kept <+: blanks := by
      rcases List.prefix_concat_iff.mp isLeft with whole | within
      · obtain ⟨-, differ⟩ := List.append_inj' whole rfl
        cases differ
      · exact (List.prefix_append kept [' ']).trans within
    refine ⟨beforeOpening ++ (beforeBody ++ beforeClosing), letters, kept, element, by simp,
      ⟨_, spells, same⟩, ?_, isElement⟩
    exact fun c mem => blank c (keptBlank.subset mem)

/-- What the pass over the quiet elements leaves holds a further element exactly when the
pass puts a closing tag together that did not stand in the prompt.  There is none in what
is left of a prompt in which no element directly follows the beginning of a closing tag. -/
theorem holdsElement_dropQuietElements_iff (prompt : List Char) :
    (HoldsElement (dropQuietElements prompt) ↔ Rejoins prompt) ∧
      (HoldsElement (dropQuietElements prompt) → Severs prompt) :=
  ⟨⟨rejoins_of_holdsElement, Rejoins.holdsElement⟩, fun holds =>
    (rejoins_of_holdsElement holds).severs⟩

/-- A script whose closing tag is severed by an empty style. -/
def severedScript : String := "<script>x</script<style></style>>"

/-- The script is an element only when the style is gone, and its content is not
dropped. -/
theorem holdsElement_severedScript :
    HoldsElement (dropQuietElements severedScript.toList) ∧ sanitize severedScript = "x" := by
  refine ⟨⟨[], dropQuietElements severedScript.toList, rfl, ?_⟩, ?_⟩
  · decide +kernel
  · decide +kernel

end PromptDispatch.Prompt
