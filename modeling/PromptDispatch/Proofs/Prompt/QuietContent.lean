import PromptDispatch.Prompt.Sanitize
import PromptDispatch.Proofs.Prompt.Markup

/-!
# The content of quiet elements

A quiet element that is opened before any other markup is recognised up to its own closing
tag, whatever stands between the two, and what follows it is read as if it stood alone.
Sanitizing therefore makes the same of a prompt whatever the element holds: it is as good
as one space.
-/

namespace PromptDispatch.Prompt

open Unicode

/-! ## The nearest closing tag -/

/-- A closing tag has no opening bracket but its own. -/
theorem Closes.noOpening {name tag : List Char} (closes : Closes name tag)
    (noOpening : '<' ∉ name.map lower) : ∃ inner, tag = '<' :: inner ∧ '<' ∉ inner := by
  obtain ⟨letters, blanks, rfl, same, blank⟩ := closes
  refine ⟨_, rfl, ?_⟩
  have notLetter : '<' ∉ letters := by
    intro mem
    apply noOpening
    rw [← same]
    exact List.mem_map_of_mem mem
  have notBlank : '<' ∉ blanks := by
    intro mem
    have blankBracket := blank '<' mem
    revert blankBracket
    decide
  simp [notLetter, notBlank]

/-- No closing tag begins in a text that holds none and is followed by one. -/
theorem closingTag?_eq_none {name tag body : List Char} (noOpening : '<' ∉ name.map lower)
    (closes : Closes name tag) (unclosed : ∀ found, Closes name found → ¬ found <:+: body)
    (nonempty : body ≠ []) (rest : List Char) :
    closingTag? name (body ++ (tag ++ rest)) = none := by
  rw [← Option.not_isSome_iff_eq_none, Option.isSome_iff_exists]
  rintro ⟨width, isWidth⟩
  obtain ⟨found, behind, split, foundCloses, -⟩ := closingTag?_eq_some_iff.mp isWidth
  rcases List.append_eq_append_iff.mp split with ⟨more, isFound, isRest⟩ | ⟨more, isBody, -⟩
  · cases more with
    | nil =>
        rw [List.append_nil] at isFound
        exact unclosed found foundCloses (isFound ▸ List.infix_rfl)
    | cons c more =>
        -- The tag found would reach into the one that follows, past its opening bracket.
        obtain ⟨inner, isTag, -⟩ := closes.noOpening noOpening
        obtain ⟨foundInner, isOpened, onlyOne⟩ := foundCloses.noOpening noOpening
        rw [isTag, List.cons_append, List.cons_append] at isRest
        obtain ⟨rfl, -⟩ := List.cons.inj isRest
        rw [isOpened] at isFound
        cases body with
        | nil => exact nonempty rfl
        | cons first body =>
            apply onlyOne
            rw [(List.cons.inj isFound).2]
            simp
  · apply unclosed found foundCloses
    rw [isBody]
    exact (List.prefix_append found more).isInfix

/-- The nearest closing tag behind a text that holds none is the one that follows it. -/
theorem throughClosingTag?_append {name tag body : List Char} (noOpening : '<' ∉ name.map lower)
    (closes : Closes name tag) (unclosed : ∀ found, Closes name found → ¬ found <:+: body)
    (rest : List Char) :
    throughClosingTag? name (body ++ (tag ++ rest)) = some (body.length + tag.length) := by
  induction body with
  | nil =>
      have width := closingTag?_append closes rest
      obtain ⟨inner, rfl, -⟩ := closes.noOpening noOpening
      rw [List.cons_append] at width
      rw [List.nil_append, List.cons_append, throughClosingTag?, width, List.length_nil,
        Nat.zero_add]
  | cons c body ih =>
      have further : ∀ found, Closes name found → ¬ found <:+: body := by
        intro found foundCloses within
        exact unclosed found foundCloses (List.infix_cons within)
      have unmatched := closingTag?_eq_none noOpening closes unclosed (List.cons_ne_nil c body) rest
      rw [List.cons_append] at unmatched ⊢
      rw [throughClosingTag?, unmatched]
      dsimp only
      rw [ih further, Option.map_some, List.length_cons]
      congr 1
      omega

/-- Where no closing tag is found there is none. -/
theorem not_infix_of_throughClosingTag?_eq_none {name body : List Char}
    (unfound : throughClosingTag? name body = none) :
    ∀ tag, Closes name tag → ¬ tag <:+: body := by
  rintro tag closes ⟨before, after, rfl⟩
  induction before with
  | nil =>
      have width := closingTag?_append closes after
      obtain ⟨letters, blanks, rfl, -⟩ := closes
      rw [List.cons_append] at width
      rw [List.nil_append, List.cons_append, throughClosingTag?, width] at unfound
      exact Option.some_ne_none _ unfound
  | cons c before ih =>
      rw [List.cons_append, List.cons_append, throughClosingTag?] at unfound
      split at unfound
      · exact Option.some_ne_none _ unfound
      · exact ih (Option.map_eq_none_iff.mp unfound)

theorem exists_of_throughClosingTag? {name cs : List Char} {n : Nat}
    (width : throughClosingTag? name cs = some n) :
    ∃ body closing rest, cs = body ++ (closing ++ rest) ∧ Closes name closing ∧
      n = body.length + closing.length := by
  induction cs generalizing n with
  | nil => cases width
  | cons c cs ih =>
      rw [throughClosingTag?] at width
      split at width
      · next found =>
        obtain ⟨closing, rest, isText, closes, rfl⟩ := closingTag?_eq_some_iff.mp found
        obtain rfl := Option.some.inj width
        exact ⟨[], closing, rest, isText, closes, by simp⟩
      · obtain ⟨later, laterWidth, rfl⟩ := Option.map_eq_some_iff.mp width
        obtain ⟨body, closing, rest, rfl, closes, rfl⟩ := ih laterWidth
        refine ⟨c :: body, closing, rest, rfl, closes, ?_⟩
        rw [List.length_cons]
        omega

/-! ## Quiet elements -/

/-- A quiet element as it is written. -/
structure QuietElement where
  name : String
  /-- what follows the name in the opening tag -/
  attributes : String
  body : String
  closingName : String
  /-- what follows the name in the closing tag -/
  blanks : String
  quiet : IsQuietName name.toList
  attributes_end : '>' ∉ attributes.toList
  /-- the name is a word of its own -/
  name_ends : ∀ c ∈ attributes.toList.head?, isWord c = false
  /-- there is no closing tag of the name in the body -/
  unclosed : ∀ tag, Closes name.toList tag → ¬ tag <:+: body.toList
  same_name : closingName.toList.map lowerBasic = name.toList.map lowerBasic
  all_blank : ∀ c ∈ blanks.toList, isBlank c = true

namespace QuietElement

/-- The text of a quiet element. -/
def text (e : QuietElement) : String :=
  "<" ++ e.name ++ e.attributes ++ ">" ++ e.body ++ "</" ++ e.closingName ++ e.blanks ++ ">"

/-- The closing tag of a quiet element. -/
def closing (e : QuietElement) : List Char :=
  '<' :: '/' :: (e.closingName.toList ++ (e.blanks.toList ++ ['>']))

theorem toList_text (e : QuietElement) : e.text.toList =
    '<' :: (e.name.toList ++ (e.attributes.toList ++ '>' :: (e.body.toList ++ e.closing))) := by
  simp [text, closing]

theorem closes (e : QuietElement) : Closes e.name.toList e.closing := by
  refine ⟨_, _, rfl, ?_, e.all_blank⟩
  rw [map_lower_eq e.closingName.toList, e.same_name, ← map_lower_eq]

theorem noOpening (e : QuietElement) : '<' ∉ e.name.toList.map lower := by
  have names : ∀ name ∈ quietNames, '<' ∉ name.map lower := by decide
  rw [map_lower_eq]
  exact names _ e.quiet

theorem word_ends (e : QuietElement) (rest : List Char) :
    ∀ c ∈ (e.attributes.toList ++ '>' :: rest).head?, isWord c = false := by
  have ends := e.name_ends
  intro c first
  cases attributes : e.attributes.toList with
  | nil =>
      rw [attributes] at first
      obtain rfl : '>' = c := Option.some.inj first
      decide +kernel
  | cons other attributes' =>
      rw [attributes] at first ends
      exact ends c first

/-- A quiet element is recognised as a whole, whatever follows it. -/
theorem quietElement?_eq (e : QuietElement) (rest : List Char) :
    quietElement? (e.text.toList ++ rest) = some e.text.toList.length := by
  have name := quietName?_append e.quiet.spells (e.word_ends (e.body.toList ++ (e.closing ++ rest)))
  have bracket := throughBracket?_append e.attributes_end (e.body.toList ++ (e.closing ++ rest))
  have closed := throughClosingTag?_append e.noOpening e.closes e.unclosed rest
  rw [toList_text]
  simp only [List.cons_append, List.append_assoc, quietElement?, name, bracket, drop_bracket,
    closed,
    Option.map_some, List.length_cons, List.length_append]
  congr 1
  omega

end QuietElement

/-- Behind a text without markup, a quiet element is replaced by one blank, and what
follows it is treated as if it stood alone. -/
theorem dropQuietElements_append {before : List Char} (noOpening : '<' ∉ before)
    (e : QuietElement) (after : List Char) :
    dropQuietElements (before ++ (e.text.toList ++ after)) =
      before ++ ' ' :: dropQuietElements after := by
  have nonempty : e.text.toList ≠ [] := by
    rw [e.toList_text]
    exact List.cons_ne_nil _ _
  rw [dropQuietElements, blankOut_append bracketed_quietElement noOpening,
    blankOut_of_width nonempty (e.quietElement?_eq after)]
  rfl

/-- A prompt in which no markup stands before a quiet element is sanitized as if a space
stood in place of the element.  So it does not matter which quiet element it is, and what
the element holds. -/
theorem sanitize_quietElement {before : String} (noOpening : '<' ∉ before.toList)
    (e : QuietElement) (after : String) :
    sanitize (before ++ e.text ++ after) = sanitize (before ++ " " ++ after) ∧
      ∀ other : QuietElement,
        sanitize (before ++ other.text ++ after) = sanitize (before ++ e.text ++ after) := by
  have blanked (e : QuietElement) :
      sanitize (before ++ e.text ++ after) = sanitize (before ++ " " ++ after) := by
    have spaced : '<' ∉ before.toList ++ [' '] := by
      simpa using noOpening
    have stays : dropQuietElements (before.toList ++ ' ' :: after.toList) =
        before.toList ++ ' ' :: dropQuietElements after.toList := by
      rw [List.append_cons, dropQuietElements, blankOut_append bracketed_quietElement spaced,
        List.append_assoc]
      rfl
    have space : " ".toList = [' '] := rfl
    rw [sanitize, sanitize, sanitizeChars, sanitizeChars]
    simp only [String.toList_append, List.append_assoc, space, List.singleton_append]
    rw [dropQuietElements_append noOpening, stays]
  refine ⟨blanked e, ?_⟩
  intro other
  rw [blanked other, blanked e]

/-- A script that spells its name in two ways and holds other markup. -/
def mixedScript : QuietElement where
  name := "SCRipt"
  attributes := " defer"
  body := "if (a </script b) <style>/* </ScrıptX> */"
  closingName := "scrIPT"
  blanks := "\n\t"
  quiet := List.contains_iff_mem.mp (by decide)
  attributes_end := by decide
  name_ends := by
    rintro c ⟨rfl⟩
    decide +kernel
  unclosed := not_infix_of_throughClosingTag?_eq_none (by decide +kernel)
  same_name := by decide
  all_blank := List.all_eq_true.mp (by decide)

theorem sanitize_quietElement_mixedScript :
    '<' ∉ "make ui & ".toList ∧
      sanitize ("make ui & " ++ mixedScript.text ++ "</style> now") = "make ui now" := by
  have noOpening : '<' ∉ "make ui & ".toList := by decide
  refine ⟨noOpening, ?_⟩
  rw [(sanitize_quietElement noOpening mixedScript "</style> now").1]
  decide +kernel

end PromptDispatch.Prompt
