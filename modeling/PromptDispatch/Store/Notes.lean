import PromptDispatch.Store.Basic

/-!
# What the store reports

The journal lines of every operation on the store, told from the store before
the operation.
-/

namespace PromptDispatch.Store

open Journal (Line Level)

/-- A name or key as it is shown. -/
def shownName (name : Option String) : String := name.getD "None"

/-- A line about an entry. -/
def debugLine (text : String) : Line := ⟨.debug, .store, text⟩

/-- Lines of a write: the dropped entry, if there is one. -/
def writeNotes (store : Store) (agent key : Option String) : List Line :=
  match store.dropped? agent key with
  | some oldest =>
    [debugLine s!"Evicted oldest context key {shownName agent}.{shownName oldest}"]
  | none => []

/-- Lines of a save. -/
def saveNotes (store : Store) (agent key : Option String) : List Line :=
  store.writeNotes agent key ++
    [debugLine s!"Saved context for {shownName agent}.{shownName key}"]

/-- Lines of a merge. -/
def mergeNotes (store : Store) (agent key : Option String) (strategy : Strategy) :
    List Line :=
  store.writeNotes agent key ++
    [debugLine s!"Merged context for {shownName agent}.{shownName key} ({strategy.text})"]

/-- Line of removing an agent. -/
def clearAgentNote (agent : Option String) : Line :=
  ⟨.info, .store, s!"Cleared all context for agent: {shownName agent}"⟩

/-- Line of removing all agents. -/
def clearAllNote : Line := ⟨.info, .store, "Cleared all context data"⟩

end PromptDispatch.Store
