import Mathlib.Data.List.Forall2
import PromptDispatch.Proofs.Pattern.WholeWords
import PromptDispatch.Proofs.Unicode.LetterCase
import PromptDispatch.Route.Builtin

/-!
# The words that call the built-in agents

Every built-in route is a list of keywords between word boundaries.  A prompt goes to a
built-in agent exactly when one of its whole words is named by a keyword of the agent; a
keyword that is only a part of a longer word calls nobody.  Letter case does not matter, in
the sense in which patterns compare letters.
-/

namespace PromptDispatch.Route

open Pattern Unicode

/-! ## Keywords -/

/-- A keyword of a route. -/
inductive Keyword where
  /-- the word as it is -/
  | word (letters : String)
  /-- the word as it is, or with an s behind it -/
  | noun (letters : String)
  /-- every word that begins with the letters -/
  | stem (letters : String)

namespace Keyword

/-- The letters of a keyword. -/
def letters : Keyword → String
  | .word letters | .noun letters | .stem letters => letters

/-- The letters of a text agree with those of a word, one by one and up to case. -/
def Spells (letters : String) (run : List Char) : Prop :=
  List.Forall₂ (fun letter c => sameUpToCase letter c = true) letters.toList run

/-- The words that a keyword names. -/
def Names : Keyword → List Char → Prop
  | .word letters, run => Spells letters run
  | .noun letters, run => Spells letters run ∨ Spells (letters ++ "s") run
  | .stem letters, run => ∃ first rest, run = first ++ rest ∧ Spells letters first

/-- The letters of a keyword are basic small letters, and there are some. -/
def IsBasic (keyword : Keyword) : Prop :=
  keyword.letters.toList ≠ [] ∧
    ∀ letter ∈ keyword.letters.toList, 97 ≤ letter.toNat ∧ letter.toNat ≤ 122

instance (keyword : Keyword) : Decidable keyword.IsBasic :=
  @instDecidableAnd (keyword.letters.toList ≠ []) _ inferInstance
    (List.decidableBAll (fun letter => 97 ≤ letter.toNat ∧ letter.toNat ≤ 122)
      keyword.letters.toList)

/-- What may stand behind the letters of a keyword. -/
def ending : Keyword → List Node
  | .word _ => []
  | .noun _ => [.rounds 0 (some 1) .greedy (.char 's'.toNat)]
  | .stem _ => [.rounds 0 none .greedy (.set false [.category .word false])]

/-- The pattern of a keyword. -/
def node (keyword : Keyword) : Node :=
  .ofList (keyword.letters.toList.map (fun letter => .char letter.toNat) ++ keyword.ending)

theorem isPlain_node (keyword : Keyword) : keyword.node.IsPlain := by
  apply Node.isPlain_ofList
  intro node mem
  rcases List.mem_append.mp mem with isLetter | isEnding
  · obtain ⟨letter, -, rfl⟩ := List.mem_map.mp isLetter
    trivial
  · cases keyword with
    | word letters => cases isEnding
    | noun letters =>
        obtain rfl := List.mem_singleton.mp isEnding
        exact ⟨rfl, trivial, by simp⟩
    | stem letters =>
        obtain rfl := List.mem_singleton.mp isEnding
        exact ⟨rfl, trivial, by simp⟩

/-! ## What keywords cover -/

/-- The flags of a route's pattern. -/
def flags : Flags := { ignoreCase := true }

theorem covers_letters_iff (letters : List Char) (more : List Node) (taken : List Char) :
    (Node.ofList (letters.map (fun letter => .char letter.toNat) ++ more)).Covers flags taken ↔
      ∃ first rest, taken = first ++ rest ∧
        List.Forall₂ (fun letter c => sameUpToCase letter c = true) letters first ∧
        (Node.ofList more).Covers flags rest := by
  induction letters generalizing taken with
  | nil => simp
  | cons letter letters ih =>
      rw [List.map_cons, List.cons_append, Node.covers_ofList_cons_iff]
      constructor
      · rintro ⟨_, others, rfl, ⟨c, rfl, same⟩, covers⟩
        obtain ⟨first, rest, rfl, spells, endCovers⟩ := (ih others).mp covers
        exact ⟨c :: first, rest, rfl, .cons same spells, endCovers⟩
      · rintro ⟨_, rest, rfl, spells, endCovers⟩
        obtain ⟨c, first, same, others, rfl⟩ := List.forall₂_cons_left_iff.mp spells
        exact ⟨[c], first ++ rest, rfl, ⟨c, rfl, same⟩,
          (ih _).mpr ⟨first, rest, rfl, others, endCovers⟩⟩

theorem spells_plural_iff (letters : String) (run : List Char) :
    Spells (letters ++ "s") run ↔
      ∃ first c, run = first ++ [c] ∧ Spells letters first ∧ sameUpToCase 's' c = true := by
  have plural : (letters ++ "s").toList = letters.toList ++ ['s'] := by simp
  rw [Spells, plural]
  constructor
  · intro spells
    rw [← List.forall₂_reverse_iff, List.reverse_append] at spells
    obtain ⟨c, first, same, others, reversed⟩ := List.forall₂_cons_left_iff.mp spells
    refine ⟨first.reverse, c, List.reverse_eq_cons_iff.mp reversed, ?_, same⟩
    rw [Spells, ← List.forall₂_reverse_iff, List.reverse_reverse]
    exact others
  · rintro ⟨first, c, rfl, spells, same⟩
    exact List.rel_append spells (.cons same .nil)

theorem matchesSet_word (c : Char) :
    matchesSet flags false [.category .word false] c = isWord c := by
  rw [← isWord_lower c]
  simp [matchesSet, SetItem.holds, Category.holds, flags, lowerUnder, lower]

/-- What follows the letters of a keyword. -/
def Follows : Keyword → List Char → Prop
  | .word _, rest => rest = []
  | .noun _, rest => rest = [] ∨ ∃ c, rest = [c] ∧ sameUpToCase 's' c = true
  | .stem _, rest => ∀ c ∈ rest, isWord c = true

theorem covers_ending_iff (keyword : Keyword) (rest : List Char) :
    (Node.ofList keyword.ending).Covers flags rest ↔ keyword.Follows rest := by
  cases keyword with
  | word letters => exact Iff.rfl
  | noun letters =>
      have isS (c : Char) : matchesChar flags 's'.toNat c = sameUpToCase 's' c := rfl
      simp only [ending, Node.ofList, Node.Covers, Follows, isOne_singleton_iff, isS]
      rcases rest with _ | ⟨c, _ | ⟨other, rest⟩⟩ <;> simp
  | stem letters =>
      simp [ending, Node.ofList, Node.Covers, Follows, isOne_singleton_iff, matchesSet_word]

variable {keyword : Keyword} (basic : keyword.IsBasic) {run : List Char}
include basic

theorem IsBasic.isWord_of_spells (spells : Spells keyword.letters run) :
    ∀ c ∈ run, isWord c = true := by
  obtain ⟨-, basicLetters⟩ := basic
  rw [Spells] at spells
  generalize keyword.letters.toList = letters at basicLetters spells
  induction spells with
  | nil => simp
  | cons same _ ih =>
      rw [List.forall_mem_cons] at basicLetters ⊢
      exact ⟨isWord_of_sameUpToCase basicLetters.1 same, ih basicLetters.2⟩

/-- A keyword's pattern covers exactly the texts of word characters that the keyword
names. -/
theorem IsBasic.covers_node_iff :
    keyword.node.Covers flags run ↔ keyword.Names run ∧ ∀ c ∈ run, isWord c = true := by
  have words {first : List Char} (spells : Spells keyword.letters first) :
      ∀ c ∈ first, isWord c = true := basic.isWord_of_spells spells
  rw [node, covers_letters_iff]
  simp only [covers_ending_iff]
  cases keyword with
  | word letters =>
      constructor
      · rintro ⟨first, _, rfl, spells, rfl⟩
        rw [List.append_nil]
        exact ⟨spells, words spells⟩
      · rintro ⟨spells, -⟩
        exact ⟨run, [], (List.append_nil run).symm, spells, rfl⟩
  | noun letters =>
      constructor
      · rintro ⟨first, rest, rfl, spells, rfl | ⟨c, rfl, same⟩⟩
        · rw [List.append_nil]
          exact ⟨.inl spells, words spells⟩
        · refine ⟨.inr ((spells_plural_iff _ _).mpr ⟨first, c, rfl, spells, same⟩), ?_⟩
          rw [List.forall_mem_append, List.forall_mem_singleton]
          exact ⟨words spells, isWord_of_sameUpToCase (by decide) same⟩
      · rintro ⟨spells | plural, -⟩
        · exact ⟨run, [], (List.append_nil run).symm, spells, .inl rfl⟩
        · obtain ⟨first, c, rfl, spells, same⟩ := (spells_plural_iff _ _).mp plural
          exact ⟨first, [c], rfl, spells, .inr ⟨c, rfl, same⟩⟩
  | stem letters =>
      constructor
      · rintro ⟨first, rest, rfl, spells, word⟩
        refine ⟨⟨first, rest, rfl, spells⟩, ?_⟩
        rw [List.forall_mem_append]
        exact ⟨words spells, word⟩
      · rintro ⟨⟨first, rest, rfl, spells⟩, word⟩
        rw [List.forall_mem_append] at word
        exact ⟨first, rest, rfl, spells, word.2⟩

/-- A keyword names no empty text. -/
theorem IsBasic.ne_nil_of_names (names : keyword.Names run) : run ≠ [] := by
  have spelled {first : List Char} (spells : Spells keyword.letters first) : first ≠ [] := by
    rintro rfl
    exact basic.1 (List.forall₂_nil_right_iff.mp spells)
  cases keyword with
  | word letters => exact spelled names
  | noun letters =>
      rcases names with spells | plural
      · exact spelled spells
      · obtain ⟨first, c, rfl, -⟩ := (spells_plural_iff _ _).mp plural
        simp
  | stem letters =>
      obtain ⟨first, rest, rfl, spells⟩ := names
      exact List.append_ne_nil_of_left_ne_nil (spelled spells) rest

end Keyword

/-- Agents and their keywords, in the order of the routes. -/
def vocabulary : List (String × List Keyword) :=
  [("frontend", [.word "ui", .word "ux", .word "frontend", .word "react", .noun "component",
      .word "css", .word "layout", .word "page"]),
   ("backend", [.word "api", .word "apis", .word "server", .word "backend", .noun "endpoint",
      .word "service"]),
   ("database", [.word "db", .word "database", .word "databases", .noun "schema", .word "sql",
      .noun "migration", .noun "table"]),
   ("devops", [.stem "deploy", .word "ci", .word "cd", .stem "docker", .word "infrastructure",
      .word "kubernetes", .word "pipeline"]),
   ("docs", [.noun "doc", .word "documentation", .word "readme"])]

/-- The pattern of a list of keywords. -/
def compiledKeywords (keywords : List Keyword) : Compiled :=
  ⟨Keyword.flags, (Node.alternatives (keywords.map Keyword.node)).wholeWord, [none]⟩

/-- The built-in patterns are those of the vocabulary. -/
theorem compile_builtinTexts :
    builtinTexts.map (fun row => (row.1, (compile { ignoreCase := true } row.2.1).toOption)) =
      vocabulary.map fun entry => (entry.1, some (compiledKeywords entry.2)) := by
  decide +kernel

/-- A pattern of keywords is found exactly when one of the keywords names a whole word. -/
theorem foundIn_compiledKeywords_iff {keywords : List Keyword} (some_keyword : keywords ≠ [])
    (basic : ∀ keyword ∈ keywords, keyword.IsBasic) (prompt : String) :
    (compiledKeywords keywords).foundIn prompt = true ↔
      ∃ run, IsWholeWord run prompt.toList ∧ ∃ keyword ∈ keywords, keyword.Names run := by
  have plain : (Node.alternatives (keywords.map Keyword.node)).IsPlain := by
    apply Node.isPlain_alternatives
    intro node mem
    obtain ⟨keyword, -, rfl⟩ := List.mem_map.mp mem
    exact keyword.isPlain_node
  have covers (run : List Char) :
      (Node.alternatives (keywords.map Keyword.node)).Covers Keyword.flags run ↔
        ∃ keyword ∈ keywords, keyword.Names run ∧ ∀ c ∈ run, isWord c = true := by
    rw [Node.covers_alternatives_iff (by simpa using some_keyword)]
    constructor
    · rintro ⟨_, mem, nodeCovers⟩
      obtain ⟨keyword, keywordMem, rfl⟩ := List.mem_map.mp mem
      exact ⟨keyword, keywordMem, (basic keyword keywordMem).covers_node_iff.mp nodeCovers⟩
    · rintro ⟨keyword, keywordMem, named⟩
      exact ⟨_, List.mem_map_of_mem keywordMem,
        (basic keyword keywordMem).covers_node_iff.mpr named⟩
  have words : ∀ run, (Node.alternatives (keywords.map Keyword.node)).Covers Keyword.flags run →
      run ≠ [] ∧ ∀ c ∈ run, isWord c = true := by
    intro run runCovers
    obtain ⟨keyword, keywordMem, names, word⟩ := (covers run).mp runCovers
    exact ⟨(basic keyword keywordMem).ne_nil_of_names names, word⟩
  rw [compiledKeywords, foundIn_wholeWord_iff plain rfl words]
  constructor
  · rintro ⟨run, whole, runCovers⟩
    obtain ⟨keyword, keywordMem, names, -⟩ := (covers run).mp runCovers
    exact ⟨run, whole, keyword, keywordMem, names⟩
  · rintro ⟨run, whole, keyword, keywordMem, names⟩
    exact ⟨run, whole, (covers run).mpr ⟨keyword, keywordMem, names, whole.word⟩⟩

/-! ## The agents of a prompt -/

theorem toOption_make {agent : String} (named : agent ≠ "") (pattern : String)
    (description : Json) :
    (make (.str agent) (.str pattern) description).toOption =
      (compile { ignoreCase := true } pattern).toOption.map
        fun compiled => ⟨agent, pattern, description, compiled⟩ := by
  rw [make]
  · cases compile { ignoreCase := true } pattern <;> rfl
  · exact named

/-- The agents of routes that are made from texts, told by the compiled patterns. -/
theorem agentsFor_made {texts : List (String × String × String)}
    (named : ∀ row ∈ texts, row.1 ≠ "") (prompt : String) :
    agentsFor (texts.filterMap fun row =>
        (make (.str row.1) (.str row.2.1) (.str row.2.2)).toOption) prompt =
      ((texts.map fun row => (row.1, (compile { ignoreCase := true } row.2.1).toOption)).filter
        fun entry => entry.2.any (·.foundIn prompt)).map (·.1) := by
  induction texts with
  | nil => rfl
  | cons row texts ih =>
      rcases row with ⟨agent, pattern, description⟩
      rw [List.forall_mem_cons] at named
      have rest := ih named.2
      rw [agentsFor] at rest ⊢
      rw [List.filterMap_cons, toOption_make named.1, List.map_cons]
      cases (compile { ignoreCase := true } pattern).toOption with
      | none => exact rest
      | some compiled =>
          simp only [Option.map_some, List.filter_cons, occursIn, Option.any_some]
          split
          · exact congrArg (agent :: ·) rest
          · exact rest

theorem agentsFor_builtin_eq (prompt : String) :
    agentsFor builtin prompt =
      (vocabulary.filter fun entry => (compiledKeywords entry.2).foundIn prompt).map (·.1) := by
  have named : ∀ row ∈ builtinTexts, row.1 ≠ "" := by decide
  have made := agentsFor_made named prompt
  rw [compile_builtinTexts, List.filter_map, List.map_map] at made
  exact made

/-- The agents that a prompt goes to by the built-in routes stand in the order of the
routes, each once, and they are those with a keyword that names a whole word of the
prompt. -/
theorem agentsFor_builtin (prompt : String) :
    (agentsFor builtin prompt).Sublist (vocabulary.map (·.1)) ∧ (agentsFor builtin prompt).Nodup ∧
      ∀ agent, agent ∈ agentsFor builtin prompt ↔ ∃ keywords, (agent, keywords) ∈ vocabulary ∧
        ∃ run, IsWholeWord run prompt.toList ∧ ∃ keyword ∈ keywords, keyword.Names run := by
  have basic : ∀ entry ∈ vocabulary, entry.2 ≠ [] ∧ ∀ keyword ∈ entry.2, keyword.IsBasic := by
    decide +kernel
  have distinct : (vocabulary.map (·.1)).Nodup := by decide
  have ordered : (agentsFor builtin prompt).Sublist (vocabulary.map (·.1)) := by
    rw [agentsFor_builtin_eq]
    exact (List.filter_sublist).map _
  refine ⟨ordered, distinct.sublist ordered, ?_⟩
  intro agent
  rw [agentsFor_builtin_eq, List.mem_map]
  constructor
  · rintro ⟨⟨_, keywords⟩, mem, rfl⟩
    obtain ⟨entryMem, found⟩ := List.mem_filter.mp mem
    obtain ⟨some_keyword, allBasic⟩ := basic _ entryMem
    exact ⟨keywords, entryMem, (foundIn_compiledKeywords_iff some_keyword allBasic _).mp found⟩
  · rintro ⟨keywords, entryMem, named⟩
    obtain ⟨some_keyword, allBasic⟩ := basic _ entryMem
    refine ⟨(agent, keywords), List.mem_filter.mpr ⟨entryMem, ?_⟩, rfl⟩
    exact (foundIn_compiledKeywords_iff some_keyword allBasic _).mpr named

example : agentsFor builtin "Redeploy the apis; ſQL docker-compose!" =
    ["backend", "database", "devops"] := by
  rw [agentsFor_builtin_eq]
  decide +kernel

end PromptDispatch.Route
