import PromptDispatch.Proofs.Disk.Opening
import PromptDispatch.Proofs.Store.FileArchive
import PromptDispatch.Proofs.Store.Gathering

/-!
# Saving to a database and loading it again

A mapping of mappings is saved as rows and put together again from them.  An
agent without entries has no row, so it is not among the agents that are loaded;
asked for anything, the loaded store answers as if it were.  The rows that the
database held before do not matter.
-/

namespace PromptDispatch

namespace Store

/-- A store of which every agent keeps its newest entries only. -/
def keepNewest (store : Store) (n : Nat) : Store :=
  { store with agents := store.agents.map fun entry => (entry.1, newest n entry.2) }

/-- Keeping the newest entries of every agent keeps the newest of the one that is
asked for. -/
theorem getAll_keepNewest (store : Store) (n : Nat) (agent : Option String) :
    (store.keepNewest n).getAll agent = newest n (store.getAll agent) := by
  rw [getAll, getAll, keepNewest]
  induction store.agents with
  | nil => simp [newest]
  | cons entry agents ih =>
      by_cases same : agent = entry.1
      · simp [Keyed.get?, same]
      · simpa [Keyed.get?, same] using ih

/-- An agent without entries is as good as none. -/
theorem get?_withEntries {agents : List (Option String × Entries)}
    (distinct : (Keyed.keys agents).Nodup) (agent : Option String) :
    (Keyed.get? agent (withEntries agents)).getD [] = (Keyed.get? agent agents).getD [] := by
  induction agents with
  | nil => rfl
  | cons entry agents ih =>
      rcases List.nodup_cons.mp distinct with ⟨newName, othersDistinct⟩
      have others := ih othersDistinct
      rcases entry with ⟨name, entries⟩
      by_cases same : agent = name
      · subst same
        cases entries with
        | nil =>
            have gone : Keyed.get? agent agents = none := by
              rw [← Option.not_isSome_iff_eq_none, Keyed.isSome_get?_iff]
              exact newName
            rw [gone] at others
            simpa [withEntries, Keyed.get?] using others
        | cons field fields => simp [withEntries, Keyed.get?]
      · cases entries with
        | nil => simpa [withEntries, Keyed.get?, same] using others
        | cons field fields => simpa [withEntries, Keyed.get?, same] using others

end Store

namespace Archive

open Store (Operation Snapshot ValuesPlain namedSnapshot newest withEntries)

variable {disk made : Disk} {path : Disk.Path} {place : List String}

/-- An open context table takes the rows of any snapshot. -/
theorem writeDatabase_of_opens {kept : List Disk.Row}
    (opens : Disk.Opens disk path made place (.context kept)) (snapshot : Snapshot) :
    writeDatabase disk path snapshot =
      (made.withDatabase place (.context (keptRows snapshot)), .none) := by
  rw [writeDatabase, map_rows, opens.openDatabase]
  dsimp only
  rw [← Disk.replacing, Disk.transact_replacing (.context kept)]
  rfl

/-- The values of a snapshot's rows are texts. -/
theorem garbled?_of_mem_keptRows {snapshot : Snapshot} {row : Disk.Row}
    (among : row ∈ keptRows snapshot) : row.garbled? = .none := by
  rcases List.mem_flatMap.mp among with ⟨entry, -, isField⟩
  rcases List.mem_map.mp isField with ⟨field, -, rfl⟩
  rfl

/-- The rows of a plain snapshot are read as its agents that have entries. -/
theorem readDatabase_of_opens {snapshot : Snapshot} (plain : snapshot.toJson.IsPlain)
    {table : Disk.Table} (opens : Disk.Opens disk path made place table)
    (holds : table.rows? = some (keptRows snapshot)) :
    readDatabase disk path =
      (made.withDatabase place table, .ok (withEntries snapshot.agents)) := by
  have gathered : gather [] (keptRows snapshot) = .ok (withEntries snapshot.agents) :=
    gather_keptRows plain (by simp)
  have rowsRead : table.readRows = .ok (keptRows snapshot) :=
    Disk.Table.readRows_eq_ok_iff.mpr ⟨holds, fun row among => garbled?_of_mem_keptRows among⟩
  rw [readDatabase, opens.openDatabase]
  dsimp only
  rw [rowsRead]
  dsimp only
  rw [gathered]

/-- What is saved to a database is loaded from it.  The store may be any that a
run reaches which names its keys, reads no database and leaves plain values, and
the database may hold any rows before; the store that is loaded into may be any
with any bounds.  It then answers as the saved store would with the newest of
each agent's entries. -/
theorem answers_load_persist (limits : Store.Limits) {operations : List Operation}
    (textual : ∀ operation ∈ operations, operation.Textual)
    (plain : ValuesPlain ((Store.empty limits).performAll operations).agents)
    {saver : Archive} (savesDatabase : saver.backend = .database) {disk : Disk}
    (takesRows : disk.TakesRows saver.databasePath) :
    let store := (Store.empty limits).performAll operations
    let saved := saver.persist disk store
    saved.done = true ∧
    ∀ (loader : Archive) (other : Store), loader.backend = .database →
      loader.databasePath = saver.databasePath →
        let loaded := loader.load saved.disk other
        let kept := store.keepNewest other.limits.entries
        loaded.done = true ∧
        ∀ agent, loaded.store.getAll agent = kept.getAll agent ∧
          loaded.store.size agent = kept.size agent ∧
          ∀ key, loaded.store.get? agent key = kept.get? agent key ∧
            loaded.store.has agent key = kept.has agent key := by
  intro store saved
  have wellFormed : store.WellFormed :=
    (Store.performAll_preserves (Store.wellFormed_empty limits) operations).2
  have named : Store.Named store.agents :=
    Store.performAll_named (by simp [Store.Named, Store.empty]) textual
  have snapshot_ok : store.snapshot = .ok (namedSnapshot store.agents) :=
    Store.snapshot_eq_ok wellFormed named plain
  have snapshotPlain : (namedSnapshot store.agents).toJson.IsPlain :=
    Store.isPlain_namedSnapshot wellFormed.distinct named plain
  rcases takesRows with ⟨made, place, kept, opens⟩
  have saved_eq : saved.done = true ∧
      saved.disk = made.withDatabase place (.context (keptRows (namedSnapshot store.agents))) := by
    have deposited := writeDatabase_of_opens opens (namedSnapshot store.agents)
    simp only [saved, persist, deposit, savesDatabase, snapshot_ok, deposited]
    exact ⟨rfl, rfl⟩
  refine ⟨saved_eq.1, ?_⟩
  intro loader other loadsDatabase samePath loaded keptStore
  have loaded_eq : loaded.done = true ∧
      loaded.store = other.replace (withEntries store.agents) := by
    have fetched := readDatabase_of_opens snapshotPlain
      (opens.again (.context (keptRows (namedSnapshot store.agents)))) rfl
    rw [Store.agents_namedSnapshot named] at fetched
    simp only [loaded, load, fetch, loadsDatabase, samePath, saved_eq.2, fetched]
    exact ⟨rfl, rfl⟩
  refine ⟨loaded_eq.1, ?_⟩
  intro agent
  have getAll_eq : loaded.store.getAll agent = keptStore.getAll agent := by
    have replaced_eq : other.replace (withEntries store.agents) =
        Store.keepNewest { other with agents := withEntries store.agents } other.limits.entries :=
      rfl
    rw [loaded_eq.2, replaced_eq, Store.getAll_keepNewest, Store.getAll_keepNewest]
    exact congrArg _ (Store.get?_withEntries wellFormed.distinct.1 agent)
  refine ⟨getAll_eq, by rw [Store.size, getAll_eq, Store.size], ?_⟩
  intro key
  exact ⟨by rw [Store.get?, getAll_eq, Store.get?], by rw [Store.has, getAll_eq, Store.has]⟩

/-- Writes for two agents, one of which is left without entries. -/
def noteRun : List Operation :=
  [.save (some "coder") (some "plan") (.arr [.null, .bool true]),
    .save (some "coder") (some "limits") (.obj [("upper", .str "é"), ("lower", .null)]),
    .save (some "writer") (some "draft") .null,
    .delete (some "writer") (some "draft")]

/-- The store that the writes lead to. -/
abbrev noteStore : Store :=
  (Store.empty .standard).performAll noteRun

/-- A database in the working folder. -/
def notesDatabase : Archive := ⟨.database, standardFile, .ofString "notes.sqlite"⟩

/-- A disk whose database holds rows and nothing else. -/
def diskOfRows (rows : List Disk.Row) : Disk :=
  Disk.empty.put ["notes.sqlite"] (.database (some (.context rows)))

/-- A disk whose database holds a row of an agent that is gone. -/
def staleDisk : Disk :=
  Disk.empty.put ["notes.sqlite"]
    (.database (some (.context [⟨some "gone", .none, some "not JSON"⟩])))

theorem agents_noteStore : noteStore.agents =
    [(some "coder",
        [(some "plan", .arr [.null, .bool true]),
          (some "limits", .obj [("upper", .str "é"), ("lower", .null)])]),
      (some "writer", [])] := by
  rfl

theorem plain_noteStore : ValuesPlain noteStore.agents := by
  rw [agents_noteStore]
  intro entry entryMem field fieldMem
  simp only [List.mem_cons, List.not_mem_nil, or_false] at entryMem
  rcases entryMem with rfl | rfl
  · simp only [List.mem_cons, List.not_mem_nil, or_false] at fieldMem
    rcases fieldMem with rfl | rfl
    · simp [Json.IsPlain, Json.ArePlain]
    · simp [Keyed.keys, Json.IsPlain, Json.FieldsPlain, Json.FieldPlain]
  · cases fieldMem

/-- Two entries of the first agent and none of the second are saved over the stale
row; a store with a bound of one loads the newer of the two. -/
theorem answers_load_persist_noteStore :
    (notesDatabase.persist staleDisk noteStore).done = true ∧
      let loaded := (notesDatabase.load (notesDatabase.persist staleDisk noteStore).disk
        (Store.empty (roomFor 1 (Nat.le_refl 1)))).store
      loaded.getAll (some "coder") =
          [(some "limits", .obj [("upper", .str "é"), ("lower", .null)])] ∧
        loaded.getAll (some "writer") = [] ∧ loaded.getAll (some "gone") = [] := by
  have textual : ∀ operation ∈ noteRun, operation.Textual := by
    simp [noteRun, Operation.Textual]
  have takesRows : staleDisk.TakesRows notesDatabase.databasePath :=
    ⟨staleDisk, ["notes.sqlite"], _, ⟨rfl, rfl, rfl, rfl, .inl rfl⟩⟩
  obtain ⟨done, loads⟩ :=
    answers_load_persist .standard textual plain_noteStore rfl takesRows
  refine ⟨done, ?_⟩
  obtain ⟨-, answers⟩ :=
    loads notesDatabase (Store.empty (roomFor 1 (Nat.le_refl 1))) rfl rfl
  refine ⟨?_, ?_, ?_⟩
  · rw [(answers (some "coder")).1]
    rfl
  · rw [(answers (some "writer")).1]
    rfl
  · rw [(answers (some "gone")).1]
    rfl

/-- A database that begins anew whenever it is opened. -/
def fleetingDatabase : Archive := ⟨.database, standardFile, .ofString ":memory:"⟩

/-- The entries are saved to a database that is gone when it is closed.  Saving and loading
are done, and nothing is there. -/
theorem answers_lost_fleetingDatabase :
    let saved := fleetingDatabase.persist Disk.empty noteStore
    let loaded := fleetingDatabase.load saved.disk (.empty .standard)
    saved.done = true ∧ loaded.done = true ∧
      noteStore.has (some "coder") (some "plan") = true ∧
      loaded.store.has (some "coder") (some "plan") = false ∧
      noteStore.size (some "coder") = 2 ∧ loaded.store.size (some "coder") = 0 := by
  decide +kernel

end Archive

end PromptDispatch
