import Mathlib.Data.List.Nodup
import PromptDispatch.Proofs.Json.Recognition
import PromptDispatch.Store.Archive

/-!
# Runs of store operations

Everything that can be asked of a store is an operation; a run performs
operations one after another, and one that is refused leaves the store as it
was.  In every state that a run can reach the agents are distinct, the keys of
every agent are distinct, and no agent has more entries than the bound allows.
The bound is never looked at by loading alone: what is read may have any size,
so replacing all entries has to restore it.
-/

namespace PromptDispatch

namespace Store

/-- Something that is asked of a store. -/
inductive Operation where
  | save (agent key : Option String) (value : Json)
  | merge (agent key : Option String) (value : Json) (deep : Bool) (strategy : Json)
  | delete (agent key : Option String)
  | clearAgent (agent : Option String)
  | clearAll
  | record (prompt : String)
  | clearPrompts
  | persist (archive : Archive) (disk : Disk)
  | load (archive : Archive) (disk : Disk)

/-- What an operation comes to: the store after it, or why it is refused. -/
def attempt (store : Store) : Operation → Except Fault Store
  | .save agent key value => store.save agent key value
  | .merge agent key value deep strategy =>
      store.merge agent key value (Strategy.choose deep strategy)
  | .delete agent key => .ok (store.delete agent key)
  | .clearAgent agent => .ok (store.clearAgent agent)
  | .clearAll => .ok store.clearAll
  | .record prompt => .ok (store.record prompt)
  | .clearPrompts => .ok store.clearPrompts
  | .persist archive disk => .ok (archive.persist disk store).store
  | .load archive disk => .ok (archive.load disk store).store

/-- The store after an operation. -/
def perform (store : Store) (operation : Operation) : Store :=
  match store.attempt operation with
  | .ok after => after
  | .error _ => store

/-- The store after a run. -/
def performAll (store : Store) (operations : List Operation) : Store :=
  operations.foldl perform store

/-- Neither an agent nor a key of an agent occurs twice. -/
def Distinct (agents : List (Option String × Entries)) : Prop :=
  (Keyed.keys agents).Nodup ∧ ∀ entry ∈ agents, (Keyed.keys entry.2).Nodup

/-- The state in which every operation leaves a store. -/
structure WellFormed (store : Store) : Prop where
  distinct : Distinct store.agents
  bounded : ∀ entry ∈ store.agents, entry.2.length ≤ store.limits.entries

theorem wellFormed_empty (limits : Limits) : WellFormed (empty limits) where
  distinct := ⟨List.nodup_nil, by simp [empty]⟩
  bounded := by simp [empty]

namespace WellFormed

variable {store : Store}

/-- What holds of no entries and of the entries of every agent holds of the
entries an agent is found with. -/
theorem getAll_induction {P : Entries → Prop} (none_holds : P [])
    (all : ∀ entry ∈ store.agents, P entry.2) (agent : Option String) :
    P (store.getAll agent) := by
  rw [getAll]
  cases found : Keyed.get? agent store.agents with
  | none => exact none_holds
  | some entries => exact all _ (Keyed.mem_of_get? found)

theorem nodup_keys_getAll (wellFormed : store.WellFormed) (agent : Option String) :
    (Keyed.keys (store.getAll agent)).Nodup :=
  getAll_induction (P := fun entries => (Keyed.keys entries).Nodup) List.nodup_nil
    wellFormed.distinct.2 agent

theorem length_getAll_le (wellFormed : store.WellFormed) (agent : Option String) :
    (store.getAll agent).length ≤ store.limits.entries :=
  getAll_induction (P := fun entries => entries.length ≤ store.limits.entries)
    (Nat.zero_le _) wellFormed.bounded agent

end WellFormed

/-! ## Writing, deleting and clearing -/

theorem wellFormed_put {store : Store} (wellFormed : store.WellFormed) (agent : Option String)
    {entries : Entries} (distinct : (Keyed.keys entries).Nodup)
    (bounded : entries.length ≤ store.limits.entries) :
    WellFormed { store with agents := Keyed.put agent entries store.agents } where
  distinct := ⟨Keyed.nodup_keys_put agent entries wellFormed.distinct.1,
    Keyed.forall_mem_put wellFormed.distinct.2 distinct⟩
  bounded := Keyed.forall_mem_put wellFormed.bounded bounded

/-- Dropping one entry restores the bound, since a write adds one at most. -/
theorem length_bounded_put_le {limits : Limits} {entries : Entries}
    (within : entries.length ≤ limits.entries) (key : Option String) (value : Json) :
    (bounded limits (Keyed.put key value entries)).length ≤ limits.entries := by
  have grown := Keyed.length_put_le key value entries
  rw [bounded]
  split
  · rw [List.length_drop]
    omega
  · omega

theorem bounded_sublist (limits : Limits) (entries : Entries) :
    (bounded limits entries).Sublist entries := by
  rw [bounded]
  split
  · exact List.drop_sublist 1 entries
  · exact List.Sublist.refl entries

theorem wellFormed_write {store : Store} (wellFormed : store.WellFormed)
    (agent key : Option String) (value : Json) : (store.write agent key value).WellFormed := by
  apply wellFormed_put wellFormed agent
  · apply Keyed.nodup_keys_of_sublist (bounded_sublist _ _)
    exact Keyed.nodup_keys_put key value (wellFormed.nodup_keys_getAll agent)
  · exact length_bounded_put_le (wellFormed.length_getAll_le agent) key value

theorem wellFormed_delete {store : Store} (wellFormed : store.WellFormed)
    (agent key : Option String) : (store.delete agent key).WellFormed := by
  rw [delete]
  split
  · have sub := Keyed.erase_sublist key (store.getAll agent)
    exact wellFormed_put wellFormed agent
      (Keyed.nodup_keys_of_sublist sub (wellFormed.nodup_keys_getAll agent))
      (Nat.le_trans sub.length_le (wellFormed.length_getAll_le agent))
  · exact wellFormed

theorem wellFormed_of_sublist {store : Store} (wellFormed : store.WellFormed)
    {agents : List (Option String × Entries)} (sub : agents.Sublist store.agents) :
    WellFormed { store with agents := agents } where
  distinct := ⟨Keyed.nodup_keys_of_sublist sub wellFormed.distinct.1,
    fun entry entryMem => wellFormed.distinct.2 entry (sub.subset entryMem)⟩
  bounded := fun entry entryMem => wellFormed.bounded entry (sub.subset entryMem)

/-! ## Loading -/

theorem newest_sublist {α : Type} (n : Nat) (xs : List α) : (newest n xs).Sublist xs :=
  List.drop_sublist _ xs

theorem length_newest_le {α : Type} (n : Nat) (xs : List α) : (newest n xs).length ≤ n := by
  rw [newest, List.length_drop]
  omega

theorem agents_replace (store : Store) (agents : List (Option String × Entries)) :
    (store.replace agents).agents =
      agents.map fun entry => (entry.1, newest store.limits.entries entry.2) :=
  rfl

theorem agentIds_replace (store : Store) (agents : List (Option String × Entries)) :
    (store.replace agents).agentIds = Keyed.keys agents := by
  rw [agentIds, agents_replace, Keyed.keys_map_value]

/-- Replacing all entries restores the bound, whatever they are replaced by. -/
theorem wellFormed_replace (store : Store) {agents : List (Option String × Entries)}
    (distinct : Distinct agents) : (store.replace agents).WellFormed where
  distinct := by
    constructor
    · rw [agents_replace, Keyed.keys_map_value]
      exact distinct.1
    · intro entry entryMem
      rcases List.mem_map.mp entryMem with ⟨replaced, mem, rfl⟩
      exact Keyed.nodup_keys_of_sublist (newest_sublist _ _) (distinct.2 _ mem)
  bounded := by
    intro entry entryMem
    rcases List.mem_map.mp entryMem with ⟨replaced, -, rfl⟩
    exact length_newest_le _ _

/-- The fields a snapshot is read from are the snapshot's own. -/
theorem Snapshot.eq_of_ofFields? {fields : List (String × Json)} {snapshot : Snapshot}
    (isRead : ofFields? fields = some snapshot) :
    fields = snapshot.map fun (agent, fields) => (agent, Json.obj fields) := by
  induction fields generalizing snapshot with
  | nil =>
      obtain rfl : [] = snapshot := by simpa [ofFields?] using isRead
      rfl
  | cons field rest ih =>
      rcases field with ⟨agent, v⟩
      cases v with
      | obj inner =>
          rcases Option.map_eq_some_iff.mp isRead with ⟨more, restRead, rfl⟩
          rw [ih restRead, List.map_cons]
      | _ => simp [ofFields?] at isRead

/-- A snapshot is read from its own JSON value only. -/
theorem Snapshot.eq_toJson_of_ofJson {value : Json} {snapshot : Snapshot}
    (isRead : ofJson value = .ok snapshot) : value = snapshot.toJson := by
  cases value with
  | obj fields =>
      simp only [ofJson] at isRead
      split at isRead
      · next found =>
        obtain rfl := by simpa using isRead
        rw [toJson, eq_of_ofFields? found]
      · simp at isRead
  | _ => simp [ofJson] at isRead

/-- The agents of a plain snapshot and their keys are distinct. -/
theorem Snapshot.distinct_agents {snapshot : Snapshot} (plain : snapshot.toJson.IsPlain) :
    Distinct snapshot.agents := by
  rw [toJson, Json.isPlain_obj_iff, Keyed.keys, List.map_map] at plain
  rcases plain with ⟨namesDistinct, fieldsPlain⟩
  have namesInjective : Function.Injective (some : String → Option String) :=
    fun _ _ => Option.some.inj
  constructor
  · simpa [agents, Keyed.keys, Function.comp_def] using namesDistinct.map namesInjective
  · intro entry entryMem
    rcases List.mem_map.mp entryMem with ⟨⟨agent, fields⟩, mem, rfl⟩
    have objPlain := fieldsPlain _ (List.mem_map_of_mem mem)
    rw [Json.isPlain_obj_iff] at objPlain
    simpa [Keyed.keys, Function.comp_def] using objPlain.1.map namesInjective

end Store

namespace Archive

open Store (Distinct Entries Snapshot)

theorem plain_of_readFile {disk : Disk} {path : Disk.Path} {snapshot : Snapshot}
    (isRead : readFile disk path = .ok snapshot) : snapshot.toJson.IsPlain := by
  rw [readFile] at isRead
  split at isRead
  · split at isRead
    · simp at isRead
    · split at isRead
      · simp at isRead
      · next value valueRead =>
        rw [← Snapshot.eq_toJson_of_ofJson isRead]
        exact Json.isPlain_of_read valueRead
  · obtain rfl := by simpa using isRead
    exact ⟨by simp, trivial⟩

theorem distinct_of_gather {agents after : List (Option String × Entries)}
    {rows : List Disk.Row} (distinct : Distinct agents)
    (gathered : gather agents rows = .ok after) : Distinct after := by
  induction rows generalizing agents with
  | nil =>
      obtain rfl := by simpa [gather] using gathered
      exact distinct
  | cons row rows ih =>
      rcases bind_eq_ok_iff.mp gathered with ⟨value, -, gathered⟩
      refine ih ⟨Keyed.nodup_keys_put _ _ distinct.1, ?_⟩ gathered
      apply Keyed.forall_mem_put distinct.2
      apply Keyed.nodup_keys_put
      cases found : Keyed.get? row.agent agents with
      | none => exact List.nodup_nil
      | some entries => exact distinct.2 _ (Keyed.mem_of_get? found)

/-- Whatever an archive holds, the entries fetched from it are distinct. -/
theorem distinct_of_fetch {archive : Archive} {disk after : Disk}
    {agents : List (Option String × Entries)}
    (fetched : archive.fetch disk = (after, .ok agents)) : Distinct agents := by
  rw [fetch] at fetched
  split at fetched
  · obtain ⟨-, rfl⟩ := by simpa using fetched
    exact ⟨by simp, by simp⟩
  · simp only [Prod.mk.injEq] at fetched
    cases isRead : readFile disk archive.filePath with
    | error fault => simp [isRead, Except.map] at fetched
    | ok snapshot =>
        obtain rfl : snapshot.agents = agents := by
          simpa [isRead, Except.map] using fetched.2
        exact Snapshot.distinct_agents (plain_of_readFile isRead)
  · rw [readDatabase] at fetched
    split at fetched
    · simp at fetched
    · split at fetched
      · simp at fetched
      · split at fetched
        · simp at fetched
        · next gathered =>
          obtain ⟨-, rfl⟩ := by simpa using fetched
          exact distinct_of_gather ⟨by simp, by simp⟩ gathered

theorem wellFormed_load {store : Store} (wellFormed : store.WellFormed) (archive : Archive)
    (disk : Disk) : (archive.load disk store).store.WellFormed := by
  rw [load]
  split
  · exact wellFormed
  · split
    · exact wellFormed
    · next fetched => exact Store.wellFormed_replace store (distinct_of_fetch fetched)

/-- Saving to an archive leaves the store as it is. -/
@[simp]
theorem store_persist (archive : Archive) (disk : Disk) (store : Store) :
    (archive.persist disk store).store = store := by
  rw [persist]
  split
  · rfl
  · split
    · rfl
    · split <;> rfl

@[simp]
theorem limits_load (archive : Archive) (disk : Disk) (store : Store) :
    (archive.load disk store).store.limits = store.limits := by
  rw [load]
  split
  · rfl
  · split <;> rfl

end Archive

namespace Store

/-! ## Whole runs -/

theorem save_eq_ok_iff {store after : Store} {agent key : Option String} {value : Json} :
    store.save agent key value = .ok after ↔
      isName agent = true ∧ store.write agent key value = after := by
  by_cases named : isName agent = true
  · simp [save, named]
  · simp [save, named]

/-- A merge that is not refused is a write of the merged fields. -/
theorem merge_eq_ok_iff {store after : Store} {agent key : Option String} {value : Json}
    {strategy : Except Fault Strategy} :
    store.merge agent key value strategy = .ok after ↔
      isName agent = true ∧ ∃ fields chosen, value = .obj fields ∧ strategy = .ok chosen ∧
        store.mergeFields agent key fields chosen = after := by
  by_cases named : isName agent = true
  · cases value <;> cases strategy <;> simp [merge, named]
  · simp [merge, named]

/-- The key that an operation may write. -/
def Operation.writtenKey? : Operation → Option (Option String)
  | .save _ key _ => some key
  | .merge _ key _ _ _ => some key
  | _ => none

/-- What an operation that is not refused does: it writes an entry of a named
agent, removes an entry, removes agents, leaves all entries as they are, or
loads. -/
inductive Does (store : Store) (operation : Operation) : Store → Prop
  | writes {agent key : Option String} (value : Json) (isNamed : isName agent = true)
      (writtenKey : operation.writtenKey? = some key) :
      Does store operation (store.write agent key value)
  | removesEntry (agent key : Option String) : Does store operation (store.delete agent key)
  | removesAgents {agents : List (Option String × Entries)}
      (sub : agents.Sublist store.agents) :
      Does store operation { store with agents := agents }
  | keepsEntries (prompts : List String) : Does store operation { store with prompts := prompts }
  | loads {archive : Archive} {disk : Disk} (isLoad : operation = .load archive disk) :
      Does store operation (archive.load disk store).store

/-- An operation that is not refused does nothing else. -/
theorem does_of_attempt {store after : Store} {operation : Operation}
    (done : store.attempt operation = .ok after) : Does store operation after := by
  cases operation with
  | save agent key value =>
      rcases save_eq_ok_iff.mp done with ⟨isNamed, rfl⟩
      exact .writes value isNamed rfl
  | merge agent key value deep strategy =>
      rcases merge_eq_ok_iff.mp done with ⟨isNamed, fields, chosen, -, -, rfl⟩
      exact .writes _ isNamed rfl
  | delete agent key =>
      obtain rfl := Except.ok.inj done
      exact .removesEntry agent key
  | clearAgent agent =>
      obtain rfl := Except.ok.inj done
      exact .removesAgents (Keyed.erase_sublist agent _)
  | clearAll =>
      obtain rfl := Except.ok.inj done
      exact .removesAgents (List.nil_sublist _)
  | record prompt =>
      obtain rfl := Except.ok.inj done
      exact .keepsEntries _
  | clearPrompts =>
      obtain rfl := Except.ok.inj done
      exact .keepsEntries []
  | persist archive disk =>
      obtain rfl := Except.ok.inj done
      rw [Archive.store_persist]
      exact .keepsEntries store.prompts
  | load archive disk =>
      obtain rfl := Except.ok.inj done
      exact .loads rfl

/-- No operation changes the bounds, and every operation leaves a well-formed
store well-formed. -/
theorem attempt_preserves {store after : Store} {operation : Operation}
    (wellFormed : store.WellFormed) (done : store.attempt operation = .ok after) :
    after.limits = store.limits ∧ after.WellFormed := by
  cases does_of_attempt done with
  | writes value => exact ⟨rfl, wellFormed_write wellFormed _ _ value⟩
  | removesEntry agent key =>
      constructor
      · rw [delete]
        split <;> rfl
      · exact wellFormed_delete wellFormed agent key
  | removesAgents sub => exact ⟨rfl, wellFormed_of_sublist wellFormed sub⟩
  | keepsEntries prompts => exact ⟨rfl, wellFormed.distinct, wellFormed.bounded⟩
  | loads isLoad =>
      exact ⟨Archive.limits_load _ _ store, Archive.wellFormed_load wellFormed _ _⟩

/-- What holds of a store, and after an operation that is not refused, holds of the
store after the operation. -/
theorem perform_induction {P : Store → Prop} {store : Store} {operation : Operation}
    (unchanged : P store) (done : ∀ after, store.attempt operation = .ok after → P after) :
    P (store.perform operation) := by
  rw [perform]
  split
  · next isDone => exact done _ isDone
  · exact unchanged

theorem performAll_concat (store : Store) (operations : List Operation) (last : Operation) :
    store.performAll (operations ++ [last]) = (store.performAll operations).perform last := by
  rw [performAll, performAll, List.foldl_append]
  rfl

/-- What every operation of a run preserves, the run preserves. -/
theorem performAll_induction {P : Store → Prop} {store : Store} {operations : List Operation}
    (start : P store) (step : ∀ operation ∈ operations, ∀ s, P s → P (s.perform operation)) :
    P (store.performAll operations) := by
  induction operations generalizing store with
  | nil => exact start
  | cons operation rest ih =>
      rcases List.forall_mem_cons.mp step with ⟨first, others⟩
      exact ih (first store start) others

theorem perform_preserves {store : Store} (wellFormed : store.WellFormed)
    (operation : Operation) :
    (store.perform operation).limits = store.limits ∧
      (store.perform operation).WellFormed :=
  perform_induction (P := fun s => s.limits = store.limits ∧ s.WellFormed) ⟨rfl, wellFormed⟩
    fun _ done => attempt_preserves wellFormed done

/-- Every run keeps the bounds and leaves a well-formed store well-formed. -/
theorem performAll_preserves {store : Store} (wellFormed : store.WellFormed)
    (operations : List Operation) :
    (store.performAll operations).limits = store.limits ∧
      (store.performAll operations).WellFormed := by
  apply performAll_induction (P := fun s => s.limits = store.limits ∧ s.WellFormed)
  · exact ⟨rfl, wellFormed⟩
  · rintro operation - s ⟨limitsEq, sWellFormed⟩
    rcases perform_preserves sWellFormed operation with ⟨stepLimits, stepWellFormed⟩
    exact ⟨stepLimits.trans limitsEq, stepWellFormed⟩

end Store

end PromptDispatch
