import PromptDispatch.Store.Basic

/-!
# Snapshots

A snapshot is the JSON form of a store's entries: a mapping of agents to
mappings of keys to values, both in the store's order.  A missing name is
written as the text `null`; where that makes two names equal, the later
mapping takes the earlier one's place.
-/

namespace PromptDispatch.Store

/-- JSON form of a store's entries. -/
abbrev Snapshot := List (String × List (String × Json))

/-- A name as JSON writes it. -/
def jsonName (name : Option String) : String := name.getD "null"

/-- JSON form of one agent's entries. -/
def jsonEntries (entries : Entries) : List (String × Json) :=
  Keyed.ofPairs (entries.map fun (key, value) => (jsonName key, value))

/-- Why the first value without a JSON form has none. -/
def obstacle? (agents : List (Option String × Entries)) : Option Json.Obstacle :=
  agents.findSome? fun (_, entries) => entries.findSome? fun (_, value) => value.obstacle?

/-- The snapshot of a store, when all its values have a JSON form. -/
def snapshot (store : Store) : Except Fault Snapshot :=
  match obstacle? store.agents with
  | some obstacle =>
    .error (.persistence ("context is not JSON serializable: " ++ obstacle.message))
  | none =>
    .ok (Keyed.ofPairs (store.agents.map fun (agent, entries) =>
      (jsonName agent, jsonEntries entries)))

namespace Snapshot

/-- A snapshot as one JSON value. -/
def toJson (snapshot : Snapshot) : Json :=
  .obj (snapshot.map fun (agent, fields) => (agent, .obj fields))

/-- Reads the mappings of a snapshot. -/
def ofFields? : List (String × Json) → Option Snapshot
  | [] => some []
  | (agent, .obj fields) :: rest => (ofFields? rest).map ((agent, fields) :: ·)
  | _ => none

/-- Reads a snapshot from a JSON value. -/
def ofJson (value : Json) : Except Fault Snapshot :=
  let fault := Fault.persistence "snapshot must map agent ids to objects"
  match value with
  | .obj fields =>
    match ofFields? fields with
    | some snapshot => .ok snapshot
    | none => .error fault
  | _ => .error fault

/-- Agents and entries of a snapshot. -/
def agents (snapshot : Snapshot) : List (Option String × Entries) :=
  snapshot.map fun (agent, fields) =>
    (some agent, fields.map fun (key, value) => (some key, value))

/-- The rows of a snapshot: one for every agent and key, in order. -/
def rows (snapshot : Snapshot) : List (String × String × Json) :=
  snapshot.flatMap fun (agent, fields) => fields.map fun (key, value) => (agent, key, value)

end Snapshot

end PromptDispatch.Store
