import Mathlib.Data.List.DropRight
import PromptDispatch.Prompt.Sanitize
import PromptDispatch.Proofs.Prompt.Markup

/-!
# The form of sanitized prompts

A clean text holds word characters, a few punctuation marks, and spaces that stand alone
and inside.  Sanitizing always gives a clean text and leaves a clean text as it is, so the
clean texts are exactly those that sanitizing does not change.
-/

namespace PromptDispatch.Prompt

open Unicode

/-- A clean text. -/
structure IsClean (text : String) : Prop where
  /-- nothing but word characters, spaces and punctuation -/
  allowed : ∀ c ∈ text.toList, isWord c = true ∨ c = ' ' ∨ c ∈ ".,!?/-".toList
  /-- no space at the beginning -/
  first : text.toList.head? ≠ some ' '
  /-- no space at the end -/
  last : text.toList.getLast? ≠ some ' '
  /-- no two spaces in a row -/
  single : ¬ [' ', ' '] <:+: text.toList

/-! ## Collapsing blanks -/

theorem twoSpaces_infix_cons_iff {c : Char} {cs : List Char} :
    [' ', ' '] <:+: c :: cs ↔ (c = ' ' ∧ cs.head? = some ' ') ∨ [' ', ' '] <:+: cs := by
  rw [List.infix_cons_iff, List.cons_prefix_cons, List.singleton_prefix_iff_head?_eq_some]
  constructor
  · rintro (⟨rfl, next⟩ | later)
    · exact .inl ⟨rfl, next⟩
    · exact .inr later
  · rintro (⟨rfl, next⟩ | later)
    · exact .inl ⟨rfl, next⟩
    · exact .inr later

/-- A character of a collapsed text is a space, or one of the text that is not blank. -/
theorem mem_collapse {inRun : Bool} {cs : List Char} {c : Char} (mem : c ∈ collapse inRun cs) :
    c = ' ' ∨ (c ∈ cs ∧ isBlank c = false) := by
  induction cs generalizing inRun with
  | nil => cases mem
  | cons first cs ih =>
      have later {inRun : Bool} (mem : c ∈ collapse inRun cs) :
          c = ' ' ∨ (c ∈ first :: cs ∧ isBlank c = false) :=
        (ih mem).imp_right fun found => ⟨List.mem_cons_of_mem _ found.1, found.2⟩
      rw [collapse] at mem
      split at mem
      · split at mem
        · exact later mem
        · rcases List.mem_cons.mp mem with rfl | mem
          · exact .inl rfl
          · exact later mem
      · next notBlank =>
        rcases List.mem_cons.mp mem with rfl | mem
        · exact .inr ⟨List.mem_cons_self, by simpa using notBlank⟩
        · exact later mem

/-- A collapsed text has no two spaces in a row, and none at its beginning when a blank was
just written. -/
theorem single_collapse (inRun : Bool) (cs : List Char) :
    ¬ [' ', ' '] <:+: collapse inRun cs ∧
      (inRun = true → (collapse inRun cs).head? ≠ some ' ') := by
  induction cs generalizing inRun with
  | nil => simp [collapse]
  | cons c cs ih =>
      rw [collapse]
      split
      · split
        · next running =>
          rw [running]
          exact ih true
        · next fresh =>
          obtain ⟨single, head⟩ := ih true
          refine ⟨?_, fun running => absurd running fresh⟩
          rw [twoSpaces_infix_cons_iff]
          rintro (⟨-, next⟩ | later)
          · exact head rfl next
          · exact single later
      · next notBlank =>
        have different : c ≠ ' ' := by
          rintro rfl
          exact notBlank (by decide)
        refine ⟨?_, fun _ same => different (Option.some.inj same)⟩
        rw [twoSpaces_infix_cons_iff]
        rintro (⟨same, -⟩ | later)
        · exact different same
        · exact (ih false).1 later

/-- A text whose blanks are spaces that stand alone is collapsed already. -/
theorem collapse_eq_self {inRun : Bool} {cs : List Char}
    (spaces : ∀ c ∈ cs, isBlank c = true → c = ' ') (single : ¬ [' ', ' '] <:+: cs)
    (head : inRun = true → cs.head? ≠ some ' ') : collapse inRun cs = cs := by
  induction cs generalizing inRun with
  | nil => rfl
  | cons c cs ih =>
      rw [List.forall_mem_cons] at spaces
      rw [twoSpaces_infix_cons_iff, not_or] at single
      rw [collapse]
      split
      · next blank =>
        have isSpace := spaces.1 blank
        have fresh : ¬ inRun = true := fun running => head running (congrArg some isSpace)
        rw [if_neg fresh, ih spaces.2 single.2 fun _ next => single.1 ⟨isSpace, next⟩, isSpace]
      · rw [ih spaces.2 single.2 (by simp)]

/-! ## Trimming -/

theorem trim_eq (cs : List Char) : trim cs = (cs.dropWhile isBlank).rdropWhile isBlank :=
  rfl

theorem trim_within (cs : List Char) : trim cs <:+: cs :=
  (List.rdropWhile_prefix isBlank _).isInfix.trans (List.dropWhile_suffix isBlank).isInfix

theorem isBlank_of_head?_trim {cs : List Char} {c : Char} (first : (trim cs).head? = some c) :
    isBlank c = false := by
  have begins : (cs.dropWhile isBlank).head? = some c := by
    rw [← List.singleton_prefix_iff_head?_eq_some] at first ⊢
    exact first.trans (List.rdropWhile_prefix isBlank _)
  have notBlank := List.head?_dropWhile_not isBlank cs
  rw [begins] at notBlank
  exact notBlank

theorem isBlank_of_getLast?_trim {cs : List Char} {c : Char}
    (last : (trim cs).getLast? = some c) : isBlank c = false := by
  have nonempty : trim cs ≠ [] := by
    intro empty
    rw [empty] at last
    cases last
  have notBlank := List.rdropWhile_last_not isBlank (cs.dropWhile isBlank) nonempty
  rw [List.getLast?_eq_some_getLast nonempty] at last
  rw [← Option.some.inj last]
  exact eq_false_of_ne_true notBlank

/-- A text that neither begins nor ends with a blank is trimmed already. -/
theorem trim_eq_self {cs : List Char} (first : ∀ c, cs.head? = some c → isBlank c = false)
    (last : ∀ c, cs.getLast? = some c → isBlank c = false) : trim cs = cs := by
  have front : cs.dropWhile isBlank = cs := by
    cases cs with
    | nil => rfl
    | cons c cs => rw [List.dropWhile_cons_of_neg (by simp [first c rfl])]
  rw [trim_eq, front, List.rdropWhile_eq_self_iff]
  intro nonempty
  simp [last _ (List.getLast?_eq_some_getLast nonempty)]

/-! ## Clean texts -/

theorem isPunctuation_iff (c : Char) : isPunctuation c = true ↔ c ∈ ".,!?/-".toList := by
  rw [isPunctuation, List.contains_iff_mem]

theorem isAllowed_iff (c : Char) :
    isAllowed c = true ↔ isWord c = true ∨ isBlank c = true ∨ c ∈ ".,!?/-".toList := by
  rw [isAllowed, Bool.or_eq_true, Bool.or_eq_true, isPunctuation_iff, or_assoc]

theorem isClean_sanitize (prompt : String) : IsClean (sanitize prompt) := by
  have form : (sanitize prompt).toList = sanitizeChars prompt.toList := String.toList_ofList
  have space : isBlank ' ' = true := by decide
  constructor
  · intro c mem
    rw [form] at mem
    rcases mem_collapse ((trim_within _).subset mem) with rfl | ⟨kept, notBlank⟩
    · exact .inr (.inl rfl)
    · have allowed := (isAllowed_iff c).mp (List.mem_filter.mp kept).2
      rw [notBlank] at allowed
      rcases allowed with word | blank | punctuation
      · exact .inl word
      · cases blank
      · exact .inr (.inr punctuation)
  · rw [form]
    intro first
    have notBlank := isBlank_of_head?_trim first
    rw [space] at notBlank
    cases notBlank
  · rw [form]
    intro last
    have notBlank := isBlank_of_getLast?_trim last
    rw [space] at notBlank
    cases notBlank
  · rw [form]
    intro twoSpaces
    exact (single_collapse false _).1 (twoSpaces.trans (trim_within _))

section

variable {text : String} (clean : IsClean text)
include clean

/-- The only blanks of a clean text are spaces. -/
theorem IsClean.eq_space {c : Char} (mem : c ∈ text.toList) (blank : isBlank c = true) :
    c = ' ' := by
  rcases clean.allowed c mem with word | isSpace | punctuation
  · rw [isBlank_of_isWord word] at blank
    cases blank
  · exact isSpace
  · have noBlanks : ".,!?/-".toList.any isBlank = false := by decide
    rw [List.any_eq_false] at noBlanks
    exact absurd blank (noBlanks c punctuation)

theorem IsClean.not_blank {c : Char} (mem : c ∈ text.toList) (different : c ≠ ' ') :
    isBlank c = false := by
  rw [← Bool.not_eq_true]
  intro blank
  exact different (clean.eq_space mem blank)

/-- There is no markup in a clean text. -/
theorem IsClean.noOpening : '<' ∉ text.toList := by
  intro mem
  rcases clean.allowed '<' mem with word | isSpace | punctuation
  · revert word
    decide +kernel
  · cases isSpace
  · revert punctuation
    decide

theorem sanitize_of_isClean : sanitize text = text := by
  have allowed : text.toList.filter isAllowed = text.toList := by
    rw [List.filter_eq_self]
    intro c mem
    rw [isAllowed_iff]
    rcases clean.allowed c mem with word | rfl | punctuation
    · exact .inl word
    · exact .inr (.inl (by decide))
    · exact .inr (.inr punctuation)
  have trimmed : trim text.toList = text.toList := by
    apply trim_eq_self
    · intro c first
      apply clean.not_blank (List.mem_of_mem_head? first)
      rintro rfl
      exact clean.first first
    · intro c last
      apply clean.not_blank (List.mem_of_mem_getLast? last)
      rintro rfl
      exact clean.last last
  rw [sanitize, sanitizeChars, dropQuietElements,
    blankOut_eq_self bracketed_quietElement clean.noOpening, dropTags,
    blankOut_eq_self bracketed_tag clean.noOpening, allowed,
    collapse_eq_self (fun _ => clean.eq_space) clean.single (by simp), trimmed,
    String.ofList_toList]

end

/-- A sanitized prompt is clean, sanitizing leaves exactly the clean texts as they are, and
sanitizing twice is the same as sanitizing once. -/
theorem sanitize_eq_self_iff_isClean :
    (∀ prompt, IsClean (sanitize prompt)) ∧
      (∀ prompt, sanitize prompt = prompt ↔ IsClean prompt) ∧
      ∀ prompt, sanitize (sanitize prompt) = sanitize prompt := by
  refine ⟨isClean_sanitize, ?_, ?_⟩
  · intro prompt
    constructor
    · intro unchanged
      rw [← unchanged]
      exact isClean_sanitize prompt
    · exact sanitize_of_isClean
  · intro prompt
    exact sanitize_of_isClean (isClean_sanitize prompt)

end PromptDispatch.Prompt
