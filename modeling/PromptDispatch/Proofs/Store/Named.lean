import PromptDispatch.Proofs.Store.Run

/-!
# Runs that name agents and keys

A run that names its keys and reads no database leaves every agent and every key
with a name.  The snapshot of such a store is the store's own mapping: distinct
names stay distinct as texts, so no mapping takes the place of another.
-/

namespace PromptDispatch

namespace Store

/-! ## Named agents and keys -/

/-- An operation whose key is a text, or which reads no database. -/
def Operation.Textual : Operation → Prop
  | .save _ key _ => key.isSome
  | .merge _ key _ _ _ => key.isSome
  | .load archive _ => archive.backend ≠ .database
  | _ => True

/-- Every key of an agent's entries is a text. -/
def KeysNamed (entries : Entries) : Prop := ∀ field ∈ entries, field.1.isSome

/-- Every agent has a name, and every key is a text. -/
def Named (agents : List (Option String × Entries)) : Prop :=
  ∀ entry ∈ agents, entry.1.isSome ∧ KeysNamed entry.2

theorem keysNamed_getAll {store : Store} (named : Named store.agents) (agent : Option String) :
    KeysNamed (store.getAll agent) :=
  WellFormed.getAll_induction (by simp [KeysNamed]) (fun entry member => (named entry member).2)
    agent

theorem isSome_of_isName {agent : Option String} (isNamed : isName agent = true) :
    agent.isSome := by
  cases agent with
  | none => cases isNamed
  | some name => rfl

theorem named_write {store : Store} (named : Named store.agents) {agent key : Option String}
    (isNamed : isName agent = true) (isText : key.isSome) (value : Json) :
    Named (store.write agent key value).agents := by
  apply Keyed.forall_mem_put named
  refine ⟨isSome_of_isName isNamed, ?_⟩
  intro field member
  have written : KeysNamed (store.written agent key value) :=
    Keyed.forall_mem_put (keysNamed_getAll named agent) isText
  exact written field ((bounded_sublist _ _).subset member)

theorem named_of_sublist {agents fewer : List (Option String × Entries)}
    (named : Named agents) (sub : fewer.Sublist agents) : Named fewer :=
  fun entry member => named entry (sub.subset member)

/-- An agent that has an entry is among the agents. -/
theorem exists_mem_of_has {store : Store} {agent key : Option String}
    (present : store.has agent key = true) : ∃ entries, (agent, entries) ∈ store.agents := by
  cases found : Keyed.get? agent store.agents with
  | none =>
      rw [has, getAll, found] at present
      cases present
  | some entries => exact ⟨entries, Keyed.mem_of_get? found⟩

theorem named_delete {store : Store} (named : Named store.agents) (agent key : Option String) :
    Named (store.delete agent key).agents := by
  rw [delete]
  split
  · next present =>
    rcases exists_mem_of_has present with ⟨entries, member⟩
    have agentNamed : agent.isSome := (named _ member).1
    have keysNamed := keysNamed_getAll named agent
    apply Keyed.forall_mem_put named
    exact ⟨agentNamed, fun field fieldMem =>
      keysNamed field ((Keyed.erase_sublist key _).subset fieldMem)⟩
  · exact named

/-- The agents and keys of a snapshot are texts. -/
theorem Snapshot.named_agents (snapshot : Snapshot) : Named snapshot.agents := by
  intro entry entryMem
  rcases List.mem_map.mp entryMem with ⟨⟨agent, fields⟩, -, rfl⟩
  refine ⟨rfl, ?_⟩
  intro field fieldMem
  rcases List.mem_map.mp fieldMem with ⟨⟨key, value⟩, -, rfl⟩
  rfl

theorem named_replace (store : Store) {agents : List (Option String × Entries)}
    (named : Named agents) : Named (store.replace agents).agents := by
  intro entry entryMem
  rcases List.mem_map.mp entryMem with ⟨replaced, mem, rfl⟩
  rcases named replaced mem with ⟨agentNamed, keysNamed⟩
  exact ⟨agentNamed, fun field fieldMem => keysNamed field ((newest_sublist _ _).subset fieldMem)⟩

theorem named_load {archive : Archive} (noDatabase : archive.backend ≠ .database) {store : Store}
    (named : Named store.agents) (disk : Disk) :
    Named (archive.load disk store).store.agents := by
  rw [Archive.load]
  split
  · exact named
  · split
    · exact named
    · next after agents fetched =>
      apply named_replace
      rw [Archive.fetch] at fetched
      split at fetched
      · obtain ⟨-, rfl⟩ := by simpa using fetched
        simp [Named]
      · cases isRead : Archive.readFile disk archive.filePath with
        | error fault => simp [isRead, Except.map] at fetched
        | ok snapshot =>
            obtain ⟨-, rfl⟩ := by simpa [isRead, Except.map] using fetched
            exact Snapshot.named_agents snapshot
      · next isDatabase => exact absurd isDatabase noDatabase

theorem isSome_of_textual {operation : Operation} (textual : operation.Textual)
    {key : Option String} (writtenKey : operation.writtenKey? = some key) : key.isSome := by
  cases operation with
  | save agent own value =>
      obtain rfl : own = key := Option.some.inj writtenKey
      exact textual
  | merge agent own value deep strategy =>
      obtain rfl : own = key := Option.some.inj writtenKey
      exact textual
  | _ => cases writtenKey

/-- An operation that names its key leaves all agents and keys named. -/
theorem attempt_named {store after : Store} {operation : Operation}
    (named : Named store.agents) (textual : operation.Textual)
    (done : store.attempt operation = .ok after) : Named after.agents := by
  cases does_of_attempt done with
  | writes value isNamed writtenKey =>
      exact named_write named isNamed (isSome_of_textual textual writtenKey) value
  | removesEntry agent key => exact named_delete named agent key
  | removesAgents sub => exact named_of_sublist named sub
  | keepsEntries prompts => exact named
  | loads isLoad =>
      subst isLoad
      exact named_load textual named _

theorem perform_named {store : Store} (named : Named store.agents) {operation : Operation}
    (textual : operation.Textual) : Named (store.perform operation).agents :=
  perform_induction (P := fun s => Named s.agents) named
    fun _ done => attempt_named named textual done

/-- A run that names its keys leaves all agents and keys named. -/
theorem performAll_named {store : Store} (named : Named store.agents)
    {operations : List Operation} (textual : ∀ operation ∈ operations, operation.Textual) :
    Named (store.performAll operations).agents :=
  performAll_induction (P := fun s => Named s.agents) named
    fun operation member _ sNamed => perform_named sNamed (textual operation member)

/-! ## The snapshot of a named store -/

/-- The names of a mapping, as texts. -/
def namedFields (entries : Entries) : List (String × Json) :=
  entries.map fun field => (jsonName field.1, field.2)

/-- A store's own mapping, its names as texts. -/
def namedSnapshot (agents : List (Option String × Entries)) : Snapshot :=
  agents.map fun entry => (jsonName entry.1, namedFields entry.2)

/-- Every value of every agent can be carried by JSON text. -/
def ValuesPlain (agents : List (Option String × Entries)) : Prop :=
  ∀ entry ∈ agents, ∀ field ∈ entry.2, field.2.IsPlain

/-- Distinct names stay distinct as texts. -/
theorem nodup_jsonNames {names : List (Option String)} (areNames : ∀ name ∈ names, name.isSome)
    (distinct : names.Nodup) : (names.map jsonName).Nodup := by
  apply distinct.map_on
  intro first firstMem second secondMem same
  rcases Option.isSome_iff_exists.mp (areNames first firstMem) with ⟨a, rfl⟩
  rcases Option.isSome_iff_exists.mp (areNames second secondMem) with ⟨b, rfl⟩
  exact congrArg some same

theorem keys_namedFields (entries : Entries) :
    Keyed.keys (namedFields entries) = (Keyed.keys entries).map jsonName := by
  simp [Keyed.keys, namedFields, Function.comp_def]

theorem keys_namedSnapshot (agents : List (Option String × Entries)) :
    Keyed.keys (namedSnapshot agents) = (Keyed.keys agents).map jsonName := by
  simp [Keyed.keys, namedSnapshot, Function.comp_def]

theorem nodup_keys_namedFields {entries : Entries} (named : KeysNamed entries)
    (distinct : (Keyed.keys entries).Nodup) : (Keyed.keys (namedFields entries)).Nodup := by
  rw [keys_namedFields]
  apply nodup_jsonNames _ distinct
  intro key member
  rcases List.mem_map.mp member with ⟨field, fieldMem, rfl⟩
  exact named field fieldMem

theorem nodup_keys_namedSnapshot {agents : List (Option String × Entries)}
    (named : Named agents) (distinct : (Keyed.keys agents).Nodup) :
    (Keyed.keys (namedSnapshot agents)).Nodup := by
  rw [keys_namedSnapshot]
  apply nodup_jsonNames _ distinct
  intro agent member
  rcases List.mem_map.mp member with ⟨entry, entryMem, rfl⟩
  exact (named entry entryMem).1

/-- Nothing stands in the way of a snapshot of plain values. -/
theorem obstacle?_of_valuesPlain {agents : List (Option String × Entries)}
    (plain : ValuesPlain agents) : obstacle? agents = none := by
  rw [obstacle?, List.findSome?_eq_none_iff]
  intro entry entryMem
  rw [List.findSome?_eq_none_iff]
  intro field fieldMem
  exact Json.obstacle?_of_isPlain _ (plain entry entryMem field fieldMem)

/-- The snapshot of a named store of plain values is the store's own mapping. -/
theorem snapshot_eq_ok {store : Store} (wellFormed : store.WellFormed)
    (named : Named store.agents) (plain : ValuesPlain store.agents) :
    store.snapshot = .ok (namedSnapshot store.agents) := by
  have entries_eq : store.agents.map (fun entry => (jsonName entry.1, jsonEntries entry.2)) =
      namedSnapshot store.agents := by
    apply List.map_congr_left
    intro entry entryMem
    have distinct := nodup_keys_namedFields (named entry entryMem).2
      (wellFormed.distinct.2 entry entryMem)
    rw [jsonEntries]
    exact congrArg _ (Keyed.ofPairs_of_nodup distinct)
  rw [snapshot, obstacle?_of_valuesPlain plain]
  dsimp only
  rw [entries_eq, Keyed.ofPairs_of_nodup (nodup_keys_namedSnapshot named wellFormed.distinct.1)]

theorem isPlain_namedFields {entries : Entries} (distinct : (Keyed.keys entries).Nodup)
    (named : KeysNamed entries) (plain : ∀ field ∈ entries, field.2.IsPlain) :
    (Json.obj (namedFields entries)).IsPlain := by
  rw [Json.isPlain_obj_iff]
  refine ⟨nodup_keys_namedFields named distinct, ?_⟩
  intro field member
  rcases List.mem_map.mp member with ⟨original, originalMem, rfl⟩
  exact plain original originalMem

theorem isPlain_namedSnapshot {agents : List (Option String × Entries)}
    (distinct : Distinct agents) (named : Named agents) (plain : ValuesPlain agents) :
    (namedSnapshot agents).toJson.IsPlain := by
  have keys_eq : Keyed.keys ((namedSnapshot agents).map fun entry => (entry.1, Json.obj entry.2)) =
      Keyed.keys (namedSnapshot agents) :=
    Keyed.keys_map_value Json.obj _
  rw [Snapshot.toJson, Json.isPlain_obj_iff]
  constructor
  · exact keys_eq ▸ nodup_keys_namedSnapshot named distinct.1
  · intro field member
    rcases List.mem_map.mp member with ⟨copied, copiedMem, rfl⟩
    rcases List.mem_map.mp copiedMem with ⟨entry, entryMem, rfl⟩
    exact isPlain_namedFields (distinct.2 entry entryMem) (named entry entryMem).2
      (plain entry entryMem)

theorem some_jsonName {name : Option String} (isName : name.isSome) :
    some (jsonName name) = name := by
  cases name with
  | none => cases isName
  | some text => rfl

theorem entries_namedFields {entries : Entries} (named : KeysNamed entries) :
    (namedFields entries).map (fun field => (some field.1, field.2)) = entries := by
  rw [namedFields, List.map_map]
  have each : ∀ field ∈ entries, (some (jsonName field.1), field.2) = id field :=
    fun field member => Prod.ext (some_jsonName (named field member)) rfl
  exact (List.map_congr_left each).trans (List.map_id entries)

/-- The agents of a named store's snapshot are the store's own. -/
theorem agents_namedSnapshot {agents : List (Option String × Entries)} (named : Named agents) :
    (namedSnapshot agents).agents = agents := by
  rw [Snapshot.agents, namedSnapshot, List.map_map]
  have each : ∀ entry ∈ agents, (some (jsonName entry.1),
      (namedFields entry.2).map fun field => (some field.1, field.2)) = id entry := by
    intro entry member
    exact Prod.ext (some_jsonName (named entry member).1)
      (entries_namedFields (named entry member).2)
  exact (List.map_congr_left each).trans (List.map_id agents)

/-- A snapshot is read from its JSON value. -/
theorem Snapshot.ofJson_toJson (snapshot : Snapshot) : ofJson snapshot.toJson = .ok snapshot := by
  have fields_eq : ofFields? (snapshot.map fun entry => (entry.1, Json.obj entry.2)) =
      some snapshot := by
    induction snapshot with
    | nil => rfl
    | cons entry rest ih => rw [List.map_cons, ofFields?, ih, Option.map_some]
  rw [toJson, ofJson]
  dsimp only
  rw [fields_eq]

end Store

end PromptDispatch
