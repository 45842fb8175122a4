import PromptDispatch.Proofs.Json.Obstacle
import PromptDispatch.Proofs.Json.RoundTrip
import PromptDispatch.Proofs.Store.Named

/-!
# Snapshots of any store

A store has a snapshot exactly when JSON text can carry its values, and the
snapshot is what is read when the store's mapping is printed.  Two names become
equal as texts when a missing one meets the text `null`; reading then lets the
later mapping take the earlier one's place.
-/

namespace PromptDispatch

namespace Json

/-! ## Mappings of mappings on one line -/

theorem spells_ofPairs_lineText {fields : List (String × Json)} (plain : FieldsPlain fields)
    (rest : List Char) :
    Spells (.obj (Keyed.ofPairs fields)) (lineText (.obj fields) rest) rest := by
  cases fields with
  | nil => exact spells_obj_nil rest
  | cons field fields =>
      exact spells_ofPairs (Skips.refl _)
        (spellsFields_lineFields (field :: fields) plain (by simp) rest)

/-- Objects that are fields of one object, each read with its own fields
settled. -/
theorem spellsFields_objects {objects : List (String × List (String × Json))}
    (plain : ∀ entry ∈ objects, FieldsPlain entry.2) (nonempty : objects ≠ []) (rest : List Char) :
    SpellsFields (objects.map fun entry => (entry.1, .obj (Keyed.ofPairs entry.2)))
      (lineFields (objects.map fun entry => (entry.1, .obj entry.2)) ('\x7d' :: rest)) rest := by
  induction objects with
  | nil => exact absurd rfl nonempty
  | cons entry objects ih =>
      rcases List.forall_mem_cons.mp plain with ⟨entryPlain, othersPlain⟩
      have head := spells_ofPairs_lineText entryPlain
        (lineMoreFields (objects.map fun entry => (entry.1, .obj entry.2)) ('\x7d' :: rest))
      cases objects with
      | nil => exact spellsFields_last (skips_space _) head (Skips.refl _)
      | cons next objects =>
          exact spellsFields_cons (skips_space _) head (Skips.refl _) (skips_space _)
            (ih othersPlain (by simp))

/-- An object of objects that was printed on one line is read with all its fields
settled. -/
theorem read_line_objects {objects : List (String × List (String × Json))}
    (plain : ∀ entry ∈ objects, FieldsPlain entry.2) :
    read (Json.obj (objects.map fun entry => (entry.1, .obj entry.2))).line =
      .ok (.obj (Keyed.ofPairs
        (objects.map fun entry => (entry.1, .obj (Keyed.ofPairs entry.2))))) := by
  rw [read, line, String.toList_ofList]
  apply readChars_of_spells
  cases objects with
  | nil => exact spells_obj_nil []
  | cons entry objects =>
      exact spells_ofPairs (Skips.refl _) (spellsFields_objects plain (by simp) [])

end Json

namespace Store

/-- Every object inside a value of any agent names each of its fields once. -/
def ValuesNameOnce (agents : List (Option String × Entries)) : Prop :=
  ∀ entry ∈ agents, ∀ field ∈ entry.2, field.2.NamesOnce

/-- Nothing stands in the way of a snapshot exactly when the values are plain. -/
theorem obstacle?_eq_none_iff {agents : List (Option String × Entries)}
    (once : ValuesNameOnce agents) : obstacle? agents = none ↔ ValuesPlain agents := by
  rw [obstacle?, List.findSome?_eq_none_iff]
  refine forall₂_congr fun entry entryMem => ?_
  rw [List.findSome?_eq_none_iff]
  exact forall₂_congr fun field fieldMem =>
    Json.obstacle?_eq_none_iff (once entry entryMem field fieldMem)

/-- The mapping that a snapshot is taken of, its names as texts, each agent's
fields settled. -/
def settledSnapshot (agents : List (Option String × Entries)) : Snapshot :=
  Keyed.ofPairs ((namedSnapshot agents).map fun entry => (entry.1, Keyed.ofPairs entry.2))

/-- When nothing stands in the way, the snapshot is the settled one. -/
theorem snapshot_of_unhindered {store : Store} (unhindered : obstacle? store.agents = none) :
    store.snapshot = .ok (settledSnapshot store.agents) := by
  rw [snapshot, unhindered, settledSnapshot, namedSnapshot, List.map_map]
  rfl

/-- A store has a snapshot exactly when its values are plain. -/
theorem snapshot_eq_ok_iff {store : Store} (once : ValuesNameOnce store.agents)
    {snapshot : Snapshot} :
    store.snapshot = .ok snapshot ↔
      ValuesPlain store.agents ∧ settledSnapshot store.agents = snapshot := by
  rw [← obstacle?_eq_none_iff once]
  cases hindered : obstacle? store.agents with
  | none => simp [snapshot_of_unhindered hindered]
  | some obstacle => simp [Store.snapshot, hindered]

/-- A store without a snapshot is refused as one that cannot be kept. -/
theorem exists_persistence_of_snapshot {store : Store} {fault : Fault}
    (refused : store.snapshot = .error fault) : ∃ message, fault = .persistence message := by
  rw [Store.snapshot] at refused
  split at refused
  · exact ⟨_, (Except.error.inj refused).symm⟩
  · cases refused

theorem fieldsPlain_namedFields {entries : Entries} (plain : ∀ field ∈ entries, field.2.IsPlain) :
    Json.FieldsPlain (namedFields entries) := by
  rw [Json.fieldsPlain_iff]
  intro field member
  rcases List.mem_map.mp member with ⟨original, originalMem, rfl⟩
  exact plain original originalMem

theorem fieldsPlain_namedSnapshot {agents : List (Option String × Entries)}
    (plain : ValuesPlain agents) : ∀ entry ∈ namedSnapshot agents, Json.FieldsPlain entry.2 := by
  intro entry member
  rcases List.mem_map.mp member with ⟨original, originalMem, rfl⟩
  exact fieldsPlain_namedFields (plain original originalMem)

theorem toJson_settledSnapshot (agents : List (Option String × Entries)) :
    (settledSnapshot agents).toJson = .obj (Keyed.ofPairs
      ((namedSnapshot agents).map fun entry => (entry.1, .obj (Keyed.ofPairs entry.2)))) := by
  have mapped := Keyed.ofPairs_map_value Json.obj
    ((namedSnapshot agents).map fun entry => (entry.1, Keyed.ofPairs entry.2))
  rw [List.map_map] at mapped
  exact congrArg Json.obj mapped

/-- The snapshot is what is read of the printed mapping. -/
theorem read_line_namedSnapshot {agents : List (Option String × Entries)}
    (plain : ValuesPlain agents) :
    Json.read (namedSnapshot agents).toJson.line = .ok (settledSnapshot agents).toJson := by
  rw [toJson_settledSnapshot]
  exact Json.read_line_objects (fieldsPlain_namedSnapshot plain)

/-- A snapshot can be carried by JSON text. -/
theorem isPlain_settledSnapshot {agents : List (Option String × Entries)}
    (plain : ValuesPlain agents) : (settledSnapshot agents).toJson.IsPlain :=
  Json.isPlain_of_read (read_line_namedSnapshot plain)

end Store

end PromptDispatch
