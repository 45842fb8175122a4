import PromptDispatch.Fault
import PromptDispatch.Journal
import PromptDispatch.Json.Merge

/-!
# The context store

The store keeps entries for every agent, bounded in number: writing a key that
is absent drops the oldest entry once the bound is passed, and writing a key
that is present keeps its place.  Beside the entries it keeps the latest
prompts, bounded as well.

An agent's name and a key may be missing, since a database row may lack either.
-/

namespace PromptDispatch

/-- Bounds of a store. -/
structure Store.Limits where
  /-- entries kept for every agent -/
  entries : Nat
  /-- prompts kept -/
  prompts : Nat
  entries_pos : 1 ≤ entries := by decide
  prompts_pos : 1 ≤ prompts := by decide

/-- Entries of one agent, oldest first. -/
abbrev Store.Entries := List (Option String × Json)

/-- The context store. -/
structure Store where
  limits : Store.Limits
  agents : List (Option String × Store.Entries)
  prompts : List String

namespace Store

/-- The last items of a list. -/
def newest {α : Type} (n : Nat) (xs : List α) : List α := xs.drop (xs.length - n)

namespace Limits

/-- The bounds of a store that is not configured. -/
def standard : Limits := ⟨100, 5, by decide, by decide⟩

/-- The greatest number of prompts a store can be asked to keep. -/
def mostPrompts : Nat := Nat.pow 2 63 - 1

/-- Checks bounds. -/
def make (entries prompts : Int) : Except Fault Limits :=
  if hEntries : entries < 1 then
    .error (.badValue "max_entries_per_agent must be at least 1")
  else if hPrompts : prompts < 1 then
    .error (.badValue "history_size must be at least 1")
  else
    .ok ⟨entries.toNat, prompts.toNat, by omega, by omega⟩

end Limits

/-- A store without entries and prompts. -/
def empty (limits : Limits) : Store := ⟨limits, [], []⟩

/-- Whether a text names an agent. -/
def isName : Option String → Bool
  | some name => name != ""
  | none => false

/-- All entries of an agent, as they are kept.  Whoever asks for them gets a copy, where
one can be made. -/
def getAll (store : Store) (agent : Option String) : Entries :=
  (Keyed.get? agent store.agents).getD []

/-- Value of an agent's entry. -/
def get? (store : Store) (agent key : Option String) : Option Json :=
  if isName agent then Keyed.get? key (store.getAll agent) else none

/-- Names of the agents that have entries or had some. -/
def agentIds (store : Store) : List (Option String) := Keyed.keys store.agents

/-- Number of an agent's entries. -/
def size (store : Store) (agent : Option String) : Nat := (store.getAll agent).length

/-- Whether an agent has an entry. -/
def has (store : Store) (agent key : Option String) : Bool :=
  Keyed.has key (store.getAll agent)

/-- An agent's entries after a write, before the bound is kept. -/
def written (store : Store) (agent key : Option String) (value : Json) : Entries :=
  Keyed.put key value (store.getAll agent)

/-- Drops the oldest entry when there is one too many. -/
def bounded (limits : Limits) (entries : Entries) : Entries :=
  if limits.entries < entries.length then entries.drop 1 else entries

/-- Writes an entry. -/
def write (store : Store) (agent key : Option String) (value : Json) : Store :=
  { store with
    agents := Keyed.put agent (bounded store.limits (store.written agent key value))
      store.agents }

/-- The key that a write drops. -/
def dropped? (store : Store) (agent key : Option String) : Option (Option String) :=
  let entries := store.written agent key .null
  if store.limits.entries < entries.length then entries.head?.map (·.1) else none

/-- Writes an entry for a named agent. -/
def save (store : Store) (agent key : Option String) (value : Json) : Except Fault Store :=
  if isName agent then .ok (store.write agent key value) else .error .namelessAgent

/-- How a mapping is merged into the one that is stored. -/
inductive Strategy where
  /-- fields of the new mapping replace those of the stored one -/
  | shallow
  /-- mappings and lists are united at every depth -/
  | deepUnion
deriving DecidableEq, Repr

/-- Name of a strategy. -/
def Strategy.text : Strategy → String
  | .shallow => "shallow"
  | .deepUnion => "deep_union"

/-- The strategy that a name or the plain choice between deep and shallow asks
for; a name goes first. -/
def Strategy.choose (deep : Bool) (name : Json) : Except Fault Strategy :=
  match name with
  | .null => .ok (if deep then .deepUnion else .shallow)
  | .str "shallow" => .ok .shallow
  | .str "deep_union" => .ok .deepUnion
  | other => .error (.badValue (other.literal ++ " is not a valid MergeStrategy"))

/-- The fields an entry holds; an entry of another kind counts as empty. -/
def heldFields (store : Store) (agent key : Option String) : List (String × Json) :=
  match Keyed.get? key (store.getAll agent) with
  | some (.obj fields) => fields
  | _ => []

/-- Two mappings merged under a strategy. -/
def Strategy.merge (strategy : Strategy) (held fields : List (String × Json)) :
    List (String × Json) :=
  match strategy with
  | .deepUnion => Json.mergeFields held fields
  | .shallow => fields.foldl (fun m f => Keyed.put f.1 f.2 m) held

/-- Merges a mapping into an entry. -/
def mergeFields (store : Store) (agent key : Option String)
    (fields : List (String × Json)) (strategy : Strategy) : Store :=
  store.write agent key (.obj (strategy.merge (store.heldFields agent key) fields))

/-- Merges a value into an entry.  The agent is checked first, then the value,
then the strategy. -/
def merge (store : Store) (agent key : Option String) (value : Json)
    (strategy : Except Fault Strategy) : Except Fault Store :=
  if isName agent then
    match value with
    | .obj fields =>
      match strategy with
      | .ok strategy => .ok (store.mergeFields agent key fields strategy)
      | .error fault => .error fault
    | _ => .error (.badKind "merge value must be a mapping")
  else .error .namelessAgent

/-- Removes an entry. -/
def delete (store : Store) (agent key : Option String) : Store :=
  if store.has agent key then
    { store with
      agents := Keyed.put agent (Keyed.erase key (store.getAll agent)) store.agents }
  else store

/-- Removes an agent with all its entries. -/
def clearAgent (store : Store) (agent : Option String) : Store :=
  { store with agents := Keyed.erase agent store.agents }

/-- Removes all agents. -/
def clearAll (store : Store) : Store := { store with agents := [] }

/-- Keeps a prompt and forgets the oldest one beyond the bound. -/
def record (store : Store) (prompt : String) : Store :=
  { store with prompts := newest store.limits.prompts (store.prompts ++ [prompt]) }

/-- Forgets all prompts. -/
def clearPrompts (store : Store) : Store := { store with prompts := [] }

/-- Replaces all entries; every agent keeps its newest ones. -/
def replace (store : Store) (agents : List (Option String × Entries)) : Store :=
  { store with
    agents := agents.map fun (agent, entries) =>
      (agent, newest store.limits.entries entries) }

end Store

end PromptDispatch
