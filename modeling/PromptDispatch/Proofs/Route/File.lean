import PromptDispatch.Proofs.Store.Loading
import PromptDispatch.Route.File

/-!
# Loading a routes file

A file that can be read either gives one route for every item of its list, or the first
fault is reported.  Nearly every fault counts as a wrong value: bytes that encode no text,
text that is no JSON, a value that is no list, an item without agent or pattern, an agent
without a name, a pattern that is no text or does not compile.  The one exception is a
pattern that repeats something more often than can be counted: its fault is passed on as
it is.

What a pattern compiles to is assumed to be what `Pattern.compile` says.  In particular
a character can be asked for by those names only that `Unicode.characterNames` has, which
are the names of Latin, Greek and Cyrillic characters and of punctuation; a pattern with
any other name is taken not to compile.
-/

namespace PromptDispatch.Route

open Pattern (Flags)

/-! ## Outcomes -/

/-- The kinds of faults that count as a wrong value. -/
def valueErrors : List String := ["ValueError", "JSONDecodeError", "UnicodeDecodeError"]

section Outcome

variable {α β : Type}

/-- A result is as it was asked for, or a fault that counts as a wrong value. -/
def IsKept (asked : α → Prop) (result : Except FileFault α) : Prop :=
  (∃ a, result = .ok a ∧ asked a) ∨
    ∃ fault, result = .error fault ∧ fault.kindName ∈ valueErrors

/-- How a result comes about where something may count beyond all bounds. -/
inductive Outcome (asked : α → Prop) (beyond : Prop) : Except FileFault α → Prop
  | made {a : α} (asks : asked a) (within : ¬ beyond) : Outcome asked beyond (.ok a)
  | wrong {fault : FileFault} (isWrong : fault.kindName ∈ valueErrors) (within : ¬ beyond) :
      Outcome asked beyond (.error fault)
  | beyond {fault : FileFault} (kind : fault.kindName = "OverflowError") (isBeyond : beyond) :
      Outcome asked beyond (.error fault)

namespace Outcome

variable {asked : α → Prop} {beyond : Prop} {result : Except FileFault α}

/-- Only a count beyond all bounds breaks what is promised. -/
theorem isKept_iff (outcome : Outcome asked beyond result) : IsKept asked result ↔ ¬ beyond := by
  rcases outcome with ⟨asks, within⟩ | ⟨isWrong, within⟩ | ⟨kind, isBeyond⟩
  · exact iff_of_true (.inl ⟨_, rfl, asks⟩) within
  · exact iff_of_true (.inr ⟨_, rfl, isWrong⟩) within
  · refine iff_of_false ?_ (not_not_intro isBeyond)
    rintro (⟨_, isOk, -⟩ | ⟨other, isError, isWrong⟩)
    · cases isOk
    · obtain rfl := Except.error.inj isError
      rw [kind] at isWrong
      exact absurd isWrong (by decide)

theorem exists_fault (outcome : Outcome asked beyond result) (isBeyond : beyond) :
    ∃ fault, result = .error fault ∧ fault.kindName = "OverflowError" := by
  rcases outcome with ⟨-, within⟩ | ⟨-, within⟩ | ⟨kind, -⟩
  · exact absurd isBeyond within
  · exact absurd isBeyond within
  · exact ⟨_, rfl, kind⟩

theorem map {f : α → β} {askedToo : β → Prop} {beyondToo : Prop}
    (outcome : Outcome asked beyond result) (asks : ∀ a, asked a → askedToo (f a))
    (beyond_iff : beyondToo ↔ beyond) : Outcome askedToo beyondToo (result.map f) := by
  rcases outcome with ⟨isAsked, within⟩ | ⟨isWrong, within⟩ | ⟨kind, isBeyond⟩
  · exact .made (asks _ isAsked) (mt beyond_iff.mp within)
  · exact .wrong isWrong (mt beyond_iff.mp within)
  · exact .beyond kind (beyond_iff.mpr isBeyond)

end Outcome

end Outcome

/-! ## One item -/

/-- A list item asks for a route: it names the agent and gives a pattern that compiles
without regard to letter case. -/
structure Asks (item : Json) (route : Route) : Prop where
  agent : item.field? "agent" = some (.str route.agent)
  isNamed : route.agent ≠ ""
  pattern : item.field? "pattern" = some (.str route.pattern)
  compiles : Pattern.compile { ignoreCase := true } route.pattern = .ok route.compiled
  description : route.description = (item.field? "description").getD (.str "")

/-- A list item names the agent and gives a pattern that counts beyond all bounds. -/
def AsksBeyond (item : Json) : Prop :=
  ∃ agent text fault, item.field? "agent" = some (.str agent) ∧ agent ≠ "" ∧
    item.field? "pattern" = some (.str text) ∧
    Pattern.compile { ignoreCase := true } text = .error fault ∧ fault.kind = .count

theorem Asks.ofItem_eq {item : Json} {route : Route} (asks : Asks item route) (index : Nat) :
    ofItem index item = .ok route := by
  rcases route with ⟨agent, pattern, description, compiled⟩
  have isDescription : description = (item.field? "description").getD (.str "") :=
    asks.description
  rw [ofItem, asks.agent, asks.pattern]
  dsimp only
  rw [make, asks.compiles, isDescription]
  exact asks.isNamed

theorem Asks.not_beyond {item : Json} {route : Route} (asks : Asks item route) :
    ¬ AsksBeyond item := by
  rintro ⟨agent, text, fault, -, -, isText, refused, -⟩
  rw [asks.pattern] at isText
  obtain rfl : route.pattern = text := Json.str.inj (Option.some.inj isText)
  rw [asks.compiles] at refused
  cases refused

/-- A route is made of a named agent and a text, and of nothing else. -/
theorem make_cases (agent pattern description : Json) :
    (∃ name text, agent = .str name ∧ name ≠ "" ∧ pattern = .str text ∧
      (∀ compiled, Pattern.compile { ignoreCase := true } text = .ok compiled →
        make agent pattern description = .ok ⟨name, text, description, compiled⟩) ∧
      ∀ fault, Pattern.compile { ignoreCase := true } text = .error fault →
        make agent pattern description = .error (.pattern text fault)) ∨
      (¬ ∃ name text, agent = .str name ∧ name ≠ "" ∧ pattern = .str text) ∧
        (make agent pattern description = .error .agentMissing ∨
          make agent pattern description = .error .patternNotText) := by
  cases agent with
  | str name =>
      by_cases isNamed : name = ""
      · rw [isNamed]
        exact .inr ⟨by simp, .inl rfl⟩
      · cases pattern with
        | str text =>
            refine .inl ⟨name, text, rfl, isNamed, rfl, ?_, ?_⟩
            · intro compiled compiles
              simp [make, compiles]
            · intro fault refused
              simp [make, refused]
        | _ => exact .inr ⟨by simp, .inr (by simp [make])⟩
  | _ => exact .inr ⟨by simp, .inl rfl⟩

theorem outcome_ofItem (index : Nat) (item : Json) :
    Outcome (Asks item) (AsksBeyond item) (ofItem index item) := by
  rw [ofItem]
  split
  · next agent pattern isAgent isPattern =>
    rcases make_cases agent pattern ((item.field? "description").getD (.str "")) with
      ⟨name, text, rfl, isNamed, rfl, made, refused⟩ | ⟨other, made⟩
    · cases compiles : Pattern.compile { ignoreCase := true } text with
      | ok compiled =>
          have asks : Asks item ⟨name, text, (item.field? "description").getD (.str ""), compiled⟩ :=
            ⟨isAgent, isNamed, isPattern, compiles, rfl⟩
          rw [made compiled compiles]
          exact .made asks asks.not_beyond
      | error fault =>
          have beyond_iff : AsksBeyond item ↔ fault.kind = .count := by
            simp [AsksBeyond, isAgent, isNamed, isPattern, compiles]
          rw [refused fault compiles]
          cases kind : fault.kind with
          | count =>
              refine .beyond ?_ (beyond_iff.mpr kind)
              simp [FileFault.kindName, Fault.kindName, kind, Pattern.FaultKind.name]
          | form =>
              refine .wrong ?_ (mt beyond_iff.mp (by simp [kind]))
              simp [FileFault.kindName, kind, valueErrors]
          | digits =>
              refine .wrong ?_ (mt beyond_iff.mp (by simp [kind]))
              simp [FileFault.kindName, kind, valueErrors]
          | flags =>
              refine .wrong ?_ (mt beyond_iff.mp (by simp [kind]))
              simp [FileFault.kindName, kind, valueErrors]
    · have within : ¬ AsksBeyond item := by
        rintro ⟨name, text, fault, isName, isNamed, isText, -⟩
        rw [isAgent] at isName
        rw [isPattern] at isText
        exact other ⟨name, text, Option.some.inj isName, isNamed, Option.some.inj isText⟩
      rcases made with made | made
      · rw [made]
        exact .wrong (by simp [FileFault.kindName, valueErrors]) within
      · rw [made]
        exact .wrong (by simp [FileFault.kindName, valueErrors]) within
  · next incomplete =>
    refine .wrong (by simp [FileFault.kindName, valueErrors]) ?_
    rintro ⟨name, text, fault, isAgent, -, isPattern, -⟩
    exact incomplete _ _ isAgent isPattern

/-! ## The list -/

/-- The list has an item that counts beyond all bounds, and all items before it ask for
routes. -/
def OverCounts (items : List Json) : Prop :=
  ∃ before item after, items = before ++ item :: after ∧
    (∀ earlier ∈ before, ∃ route, Asks earlier route) ∧ AsksBeyond item

/-- A list counts beyond all bounds if its first item does, or if that one asks for a route
and the others do. -/
theorem overCounts_cons_iff {item : Json} {items : List Json} :
    OverCounts (item :: items) ↔
      AsksBeyond item ∨ (∃ route, Asks item route) ∧ OverCounts items := by
  constructor
  · rintro ⟨before, beyond, after, split, good, asks⟩
    cases before with
    | nil =>
        obtain ⟨rfl, -⟩ := List.cons.inj split
        exact .inl asks
    | cons first before =>
        obtain ⟨rfl, rfl⟩ := List.cons.inj split
        rw [List.forall_mem_cons] at good
        exact .inr ⟨good.1, before, beyond, after, rfl, good.2, asks⟩
  · rintro (asks | ⟨first, before, beyond, after, rfl, good, asks⟩)
    · exact ⟨[], item, items, rfl, by simp, asks⟩
    · exact ⟨item :: before, beyond, after, rfl, List.forall_mem_cons.mpr ⟨first, good⟩, asks⟩

/-- The routes of a list are those of its items in order, up to the first item that is at
fault. -/
theorem outcome_ofItems (index : Nat) (items : List Json) :
    Outcome (List.Forall₂ Asks items) (OverCounts items) (ofItems index items) := by
  induction items generalizing index with
  | nil =>
      refine .made .nil ?_
      rintro ⟨before, item, after, split, -⟩
      cases before <;> cases split
  | cons item items ih =>
      have first := outcome_ofItem index item
      cases made : ofItem index item with
      | ok route =>
          rw [made] at first
          obtain ⟨asks, -⟩ := first
          have others : ofItems index (item :: items) =
              (ofItems (index + 1) items).map (route :: ·) := by
            rw [ofItems, made]
            rfl
          rw [others]
          refine (ih (index + 1)).map (fun routes areAsked => .cons asks areAsked) ?_
          rw [overCounts_cons_iff]
          simp [asks.not_beyond, Exists.intro route asks]
      | error fault =>
          have failed : ofItems index (item :: items) = .error fault := by
            rw [ofItems, made]
            rfl
          rw [made] at first
          rw [failed]
          rcases first with _ | ⟨isWrong, within⟩ | ⟨kind, isBeyond⟩
          · refine .wrong isWrong (mt overCounts_cons_iff.mp ?_)
            rintro (isBeyond | ⟨⟨route, asks⟩, -⟩)
            · exact within isBeyond
            · rw [asks.ofItem_eq index] at made
              cases made
          · exact .beyond kind (overCounts_cons_iff.mpr (.inl isBeyond))

/-! ## The file -/

variable {disk : Disk} {path : Disk.Path} {entry : Disk.Entry}

/-- The text of a file is a JSON list of the given items. -/
def HoldsList (entry : Disk.Entry) (items : List Json) : Prop :=
  ∃ s, entry.HoldsText s ∧ Json.read (Text.unified s) = .ok (.arr items)

/-- A file holds a list that asks for the routes, one for every item in order. -/
def HoldsRoutes (entry : Disk.Entry) (routes : List Route) : Prop :=
  ∃ items, HoldsList entry items ∧ List.Forall₂ Asks items routes

theorem HoldsList.unique {items others : List Json} (holds : HoldsList entry items)
    (holdsToo : HoldsList entry others) : items = others := by
  obtain ⟨s, isText, isRead⟩ := holds
  obtain ⟨t, isTextToo, isReadToo⟩ := holdsToo
  obtain rfl := isText.unique isTextToo
  rw [isRead] at isReadToo
  exact Json.arr.inj (Except.ok.inj isReadToo)

theorem kindName_of_readText_error (found : disk.find path = .ok entry)
    (isFile : entry ≠ .folder) {fault : Disk.ReadFault}
    (failed : disk.readText path = .error fault) : fault.kindName = "UnicodeDecodeError" := by
  rw [Disk.readText, found] at failed
  cases entry with
  | folder => exact absurd rfl isFile
  | bytes bs =>
      dsimp only at failed
      split at failed
      · cases failed
      · obtain rfl := Except.error.inj failed
        rfl
  | _ => cases failed

/-- A file that holds a list comes to what becomes of the list; any other one is at fault
in itself. -/
theorem load_cases (found : disk.find path = .ok entry) (isFile : entry ≠ .folder) :
    (∃ items, HoldsList entry items ∧ load disk path = ofItems 0 items) ∨
      (∀ items, ¬ HoldsList entry items) ∧
        ∃ fault, load disk path = .error fault ∧ fault.kindName ∈ valueErrors := by
  rw [load]
  cases isText : disk.readText path with
  | error fault =>
      have kind := kindName_of_readText_error found isFile isText
      refine .inr ⟨?_, _, rfl, by simp [FileFault.kindName, kind, valueErrors]⟩
      rintro items ⟨s, holds, -⟩
      rw [(Disk.readText_eq_ok_iff found).mpr ⟨s, holds, rfl⟩] at isText
      cases isText
  | ok text =>
      obtain ⟨s, holds, rfl⟩ := (Disk.readText_eq_ok_iff found).mp isText
      have list_iff (items : List Json) : HoldsList entry items ↔
          Json.read (Text.unified s) = .ok (.arr items) := by
        refine ⟨?_, fun isRead => ⟨s, holds, isRead⟩⟩
        rintro ⟨t, holdsToo, isRead⟩
        rwa [holds.unique holdsToo]
      simp only [list_iff]
      cases isRead : Json.read (Text.unified s) with
      | error error =>
          refine .inr ⟨by simp, _, rfl, ?_⟩
          cases error <;> simp [FileFault.kindName, Json.ReadError.kindName, valueErrors]
      | ok value =>
          cases value with
          | arr items => exact .inl ⟨items, rfl, rfl⟩
          | _ => exact .inr ⟨by simp, _, rfl, by simp [FileFault.kindName, valueErrors]⟩

theorem HoldsList.load_eq {items : List Json} (holds : HoldsList entry items)
    (found : disk.find path = .ok entry) (isFile : entry ≠ .folder) :
    load disk path = ofItems 0 items := by
  rcases load_cases found isFile with ⟨others, holdsToo, loaded⟩ | ⟨noList, -⟩
  · rw [loaded, holds.unique holdsToo]
  · exact absurd holds (noList items)

theorem outcome_load (found : disk.find path = .ok entry) (isFile : entry ≠ .folder) :
    Outcome (HoldsRoutes entry) (∃ items, HoldsList entry items ∧ OverCounts items)
      (load disk path) := by
  rcases load_cases found isFile with ⟨items, holds, loaded⟩ | ⟨noList, fault, failed, isWrong⟩
  · have beyond_iff : (∃ items, HoldsList entry items ∧ OverCounts items) ↔ OverCounts items :=
      ⟨fun ⟨_, holdsToo, beyond⟩ => holds.unique holdsToo ▸ beyond,
        fun beyond => ⟨items, holds, beyond⟩⟩
    have unchanged : load disk path = (ofItems 0 items).map id := by
      rw [loaded, Except.map_id]
      rfl
    rw [unchanged]
    exact (outcome_ofItems 0 items).map (fun _ areAsked => ⟨items, holds, areAsked⟩) beyond_iff
  · rw [failed]
    exact .wrong isWrong fun ⟨items, holds, _⟩ => noList items holds

/-- A file that can be read gives a route for every item of its list, in order, or a fault
that counts as a wrong value, unless its list counts beyond all bounds before anything else
is wrong with it; then the fault is that of the count.  Which patterns compile, and by which
names they may ask for characters, is assumed as `Pattern.compile` has it. -/
theorem load_isKept_iff (found : disk.find path = .ok entry) (isFile : entry ≠ .folder) :
    (IsKept (HoldsRoutes entry) (load disk path) ↔
        ¬ ∃ items, HoldsList entry items ∧ OverCounts items) ∧
      ((∃ items, HoldsList entry items ∧ OverCounts items) →
        ∃ fault, load disk path = .error fault ∧ fault.kindName = "OverflowError") :=
  ⟨(outcome_load found isFile).isKept_iff, (outcome_load found isFile).exists_fault⟩

/-- A file that holds the page of a plain list holds the list. -/
theorem holdsList_page {items : List Json} (plain : (Json.arr items).IsPlain) :
    HoldsList (.text (Json.arr items).page) items := by
  refine ⟨_, .text _, ?_⟩
  rw [Text.unified, Text.unifyLineEnds_of_not_mem (Json.noReturn_page plain), String.ofList_toList]
  exact Json.read_page plain

/-- List items with an agent and a pattern. -/
def routeItems (rows : List (String × String)) : List Json :=
  rows.map fun row => .obj [("agent", .str row.1), ("pattern", .str row.2)]

theorem isPlain_routeItems (rows : List (String × String)) :
    (Json.arr (routeItems rows)).IsPlain := by
  induction rows with
  | nil => trivial
  | cons row rows ih =>
      refine ⟨?_, ih⟩
      simp [Json.IsPlain, Json.FieldsPlain, Json.FieldPlain, Keyed.keys]

/-- A disk with a routes file. -/
def routesDisk (rows : List (String × String)) : Disk :=
  Disk.empty.put ["routes.json"] (.text (Json.arr (routeItems rows)).page)

/-- A pattern that repeats a letter more often than can be counted. -/
def countlessPattern : String := "x\x7b4294967295\x7d"

theorem compile_countlessPattern :
    Pattern.compile { ignoreCase := true } countlessPattern = .error ⟨.countTooLarge, none⟩ := by
  decide +kernel

/-- Behind an item that asks for a route, an item without a name is at fault before its
pattern is looked at. -/
theorem load_isKept_iff_nameless :
    let disk := routesDisk [("a", "x"), ("", countlessPattern)]
    ∃ entry, disk.find (.ofString "routes.json") = .ok entry ∧ entry ≠ .folder ∧
      IsKept (HoldsRoutes entry) (load disk (.ofString "routes.json")) := by
  intro disk
  have holds := holdsList_page (isPlain_routeItems [("a", "x"), ("", countlessPattern)])
  refine ⟨_, rfl, by simp, ?_⟩
  refine (load_isKept_iff rfl (by simp)).1.mpr ?_
  rintro ⟨items, holdsToo, beyond⟩
  obtain rfl := holds.unique holdsToo
  have compiles : (Pattern.compile { ignoreCase := true } "x").isOk = true := by decide +kernel
  rcases overCounts_cons_iff.mp beyond with first | ⟨-, beyond⟩
  · obtain ⟨agent, text, fault, -, -, isText, refused, -⟩ := first
    obtain rfl : "x" = text := Json.str.inj (Option.some.inj isText)
    rw [refused] at compiles
    cases compiles
  · rcases overCounts_cons_iff.mp beyond with second | ⟨⟨route, asks⟩, -⟩
    · obtain ⟨agent, text, fault, isAgent, isNamed, -⟩ := second
      exact isNamed (Json.str.inj (Option.some.inj isAgent)).symm
    · exact asks.isNamed (Json.str.inj (Option.some.inj asks.agent)).symm

/-- An item with a name and that pattern is not told as a wrong value. -/
theorem not_isKept_countless :
    let disk := routesDisk [("a", countlessPattern)]
    ∃ entry fault, disk.find (.ofString "routes.json") = .ok entry ∧ entry ≠ .folder ∧
      load disk (.ofString "routes.json") = .error fault ∧ fault.kindName = "OverflowError" ∧
      fault.message = "the repetition number is too large" ∧
      ¬ IsKept (HoldsRoutes entry) (load disk (.ofString "routes.json")) := by
  intro disk
  have holds := holdsList_page (isPlain_routeItems [("a", countlessPattern)])
  have failed : load disk (.ofString "routes.json") =
      .error (.route 0 (.pattern countlessPattern ⟨.countTooLarge, none⟩)) := by
    have first : ofItem 0 (.obj [("agent", .str "a"), ("pattern", .str countlessPattern)]) =
        .error (.route 0 (.pattern countlessPattern ⟨.countTooLarge, none⟩)) := by
      simp [ofItem, Json.field?, Keyed.get?, make, compile_countlessPattern]
    rw [holds.load_eq rfl (by simp), routeItems, List.map_cons, ofItems, first]
    rfl
  refine ⟨_, _, rfl, by simp, failed, rfl, rfl, ?_⟩
  rintro (⟨_, isOk, -⟩ | ⟨fault, isError, isWrong⟩)
  · rw [failed] at isOk
    cases isOk
  · rw [failed] at isError
    obtain rfl := Except.error.inj isError
    exact absurd isWrong (by decide)

end PromptDispatch.Route
