import PromptDispatch.Proofs.Store.Loading

/-!
# Names that can be asked for

Writing refuses an agent without a name, and such an agent is never asked for a
value.  Loading looks at no name: it takes the empty one from a file and a missing
one from a row, and then the store lists an agent, and counts and shows entries of
it, that no value can be got of.  But for loads that bring such names, all that a
store has can be got from it, after every run.
-/

namespace PromptDispatch

namespace Store

/-- Every agent that is listed has a name. -/
def Identified (store : Store) : Prop := ∀ agent ∈ store.agentIds, isName agent = true

/-- All that a store has can be got from it. -/
structure Obtainable (store : Store) : Prop where
  identified : store.Identified
  /-- a value that is shown is got, whatever is to be got instead of it -/
  found : ∀ agent key value, (key, value) ∈ store.getAll agent →
    store.has agent key = true ∧ ∀ instead, (store.get? agent key).getD instead = value
  /-- nothing is got under a key that is not shown -/
  missing : ∀ agent key, key ∉ Keyed.keys (store.getAll agent) →
    store.has agent key = false ∧ ∀ instead, (store.get? agent key).getD instead = instead

/-- An operation that brings no agent without a name: if it loads, all agents that
are held have names. -/
def Operation.BringsNames : Operation → Prop
  | .load archive disk =>
      ∀ agents, archive.Holds disk agents → ∀ entry ∈ agents, isName entry.1 = true
  | _ => True

variable {store : Store}

theorem identified_iff :
    store.Identified ↔ ∀ entry ∈ store.agents, isName entry.1 = true := by
  rw [Identified, agentIds, Keyed.keys, List.forall_mem_map]

/-! ## What can be got -/

/-- Nothing is shown of an agent that is not listed. -/
theorem mem_agentIds_of_mem_getAll {agent key : Option String} {value : Json}
    (shown : (key, value) ∈ store.getAll agent) : agent ∈ store.agentIds := by
  rw [getAll] at shown
  cases found : Keyed.get? agent store.agents with
  | none =>
      rw [found] at shown
      cases shown
  | some entries => exact List.mem_map_of_mem (Keyed.mem_of_get? found)

/-- All can be got from a store when the agents that are listed have names. -/
theorem Identified.obtainable (identified : store.Identified) (wellFormed : store.WellFormed) :
    store.Obtainable where
  identified := identified
  found agent key value shown := by
    have isNamed := identified agent (mem_agentIds_of_mem_getAll shown)
    have found := Keyed.get?_of_mem (wellFormed.nodup_keys_getAll agent) shown
    constructor
    · rw [has, Keyed.has, found]
      rfl
    · intro instead
      rw [get?, if_pos isNamed, found]
      rfl
  missing agent key absent := by
    have notFound : Keyed.get? key (store.getAll agent) = none := by
      rw [← Option.not_isSome_iff_eq_none, Keyed.isSome_get?_iff]
      exact absent
    constructor
    · rw [has, Keyed.has, notFound]
      rfl
    · intro instead
      rw [get?, notFound, ite_self]
      rfl

/-! ## Runs -/

theorem identified_empty (limits : Limits) : (empty limits).Identified := by
  rw [identified_iff]
  simp [empty]

/-- A write for a named agent lists no agent without a name. -/
theorem identified_write (identified : store.Identified) {agent : Option String}
    (isNamed : isName agent = true) (key : Option String) (value : Json) :
    (store.write agent key value).Identified := by
  rw [identified_iff] at identified ⊢
  exact Keyed.forall_mem_put identified isNamed

theorem identified_delete (identified : store.Identified) (agent key : Option String) :
    (store.delete agent key).Identified := by
  rw [identified_iff] at identified ⊢
  rw [delete]
  split
  · next present =>
    rcases exists_mem_of_has present with ⟨entries, member⟩
    have isNamed : isName agent = true := identified _ member
    exact Keyed.forall_mem_put identified isNamed
  · exact identified

/-- An operation that brings no agent without a name leaves none. -/
theorem identified_attempt {after : Store} {operation : Operation}
    (identified : store.Identified) (bringsNames : operation.BringsNames)
    (done : store.attempt operation = .ok after) : after.Identified := by
  cases does_of_attempt done with
  | writes value isNamed => exact identified_write identified isNamed _ value
  | removesEntry agent key => exact identified_delete identified agent key
  | removesAgents sub =>
      rw [identified_iff] at identified ⊢
      exact fun entry entryMem => identified entry (sub.subset entryMem)
  | keepsEntries prompts => exact identified
  | @loads archive disk isLoad =>
      subst isLoad
      rcases Archive.load_cases archive disk store with same | ⟨agents, holds, replaced⟩
      · rw [same]
        exact identified
      · rw [replaced, Identified, agentIds_replace, Keyed.keys, List.forall_mem_map]
        exact bringsNames agents holds

theorem identified_perform (identified : store.Identified) {operation : Operation}
    (bringsNames : operation.BringsNames) : (store.perform operation).Identified :=
  perform_induction identified fun _ done => identified_attempt identified bringsNames done

theorem identified_performAll (identified : store.Identified) {operations : List Operation}
    (bringNames : ∀ operation ∈ operations, operation.BringsNames) :
    (store.performAll operations).Identified :=
  performAll_induction identified fun operation member _ stepIdentified =>
    identified_perform stepIdentified (bringNames operation member)

/-- A load that leaves no agent without a name brought none. -/
theorem bringsNames_of_identified {operation : Operation}
    (identified : (store.perform operation).Identified) : operation.BringsNames := by
  cases operation with
  | load archive disk =>
      intro agents holds
      by_cases persisted : archive.backend = .memory
      · obtain rfl : agents = [] := by
          simpa only [Archive.Holds, persisted] using holds
        simp
      · have loaded := (Archive.load_of_holds persisted holds store).2
        change (archive.load disk store).store.Identified at identified
        rw [loaded, Identified, agentIds_replace, Keyed.keys, List.forall_mem_map] at identified
        exact identified
  | _ => trivial

/-- In every state of a run all that the store has can be got from it exactly when
no load of the run brings an agent without a name.  All other operations may be
any, with any names. -/
theorem obtainable_iff_bringsNames (limits : Limits) (operations : List Operation) :
    (∀ ran, ran <+: operations → ((empty limits).performAll ran).Obtainable) ↔
      ∀ operation ∈ operations, operation.BringsNames := by
  constructor
  · intro obtainable operation operationMem
    rcases List.append_of_mem operationMem with ⟨before, after, rfl⟩
    have identified := (obtainable (before ++ [operation]) ⟨after, by simp⟩).identified
    rw [performAll_concat] at identified
    exact bringsNames_of_identified identified
  · intro bringNames ran isPrefix
    have identified : ((empty limits).performAll ran).Identified :=
      identified_performAll (identified_empty limits) fun operation ranMem =>
        bringNames operation (isPrefix.subset ranMem)
    exact identified.obtainable (performAll_preserves (wellFormed_empty limits) ran).2

/-- An entry that is kept under the empty name. -/
def namelessSnapshot : Snapshot := [("", [("k", .bool true)])]

/-- Its text. -/
def namelessText : String := "\x7b\x22\x22: \x7b\x22k\x22: true\x7d\x7d"

/-- A disk with a file of that text. -/
def namelessDisk : Disk := Disk.empty.put ["ctx.json"] (.text namelessText)

/-- The file. -/
def namelessFile : Archive := ⟨.file, .ofString "ctx.json", Archive.standardDatabase⟩

theorem holds_namelessFile : namelessFile.Holds namelessDisk namelessSnapshot.agents := by
  have plain : namelessSnapshot.toJson.IsPlain := by
    simp [Snapshot.toJson, namelessSnapshot, Json.IsPlain, Json.FieldsPlain, Json.FieldPlain,
      Keyed.keys]
  have isLine : Text.unified namelessText = namelessSnapshot.toJson.line := by decide
  have found : namelessDisk.find namelessFile.filePath = .ok (.text namelessText) := rfl
  apply Archive.HoldsFile.snapshot found (.text namelessText)
  rw [isLine]
  exact Json.read_line plain

/-- The empty name is listed and its entry is shown, but the value cannot be got. -/
theorem not_obtainable_namelessFile :
    (namelessFile.load namelessDisk (empty .standard)).done = true ∧
      let store := (empty .standard).performAll [.load namelessFile namelessDisk]
      store.agentIds = [some ""] ∧ store.getAll (some "") = [(some "k", .bool true)] ∧
        store.has (some "") (some "k") = true ∧ store.get? (some "") (some "k") = none ∧
        ¬ store.Obtainable := by
  obtain ⟨done, loaded⟩ :=
    Archive.load_of_holds (by decide) holds_namelessFile (empty .standard)
  refine ⟨done, ?_⟩
  intro store
  have store_eq : store = (empty .standard).replace namelessSnapshot.agents := loaded
  rw [store_eq]
  refine ⟨rfl, rfl, rfl, rfl, ?_⟩
  intro obtainable
  exact absurd (obtainable.identified (some "") List.mem_cons_self) (by decide)

end Store

end PromptDispatch
