import PromptDispatch.Proofs.Store.Saving

/-!
# Files and databases compared

A snapshot is kept in a file as one text and in a database as one row for every
agent and key.  Either gives back what it was given, but an agent without entries
has no row.  Stores that are loaded from the two answer alike, whatever they are
asked for of any agent, and list the same agents in the same order, but that the
one loaded from the database does not list those without entries.
-/

namespace PromptDispatch

namespace Store

variable {agents : List (Option String × Entries)}

/-! ## Agents without entries -/

/-- The newest of some items are some. -/
theorem isEmpty_newest {α : Type} {n : Nat} (positive : 1 ≤ n) (xs : List α) :
    (newest n xs).isEmpty = xs.isEmpty := by
  rw [Bool.eq_iff_iff, List.isEmpty_iff_length_eq_zero, List.isEmpty_iff_length_eq_zero, newest,
    List.length_drop]
  omega

/-- Replacing all entries by those of agents with entries leaves the agents with
entries. -/
theorem withEntries_replace (store : Store) (agents : List (Option String × Entries)) :
    (store.replace (withEntries agents)).agents = withEntries (store.replace agents).agents := by
  rw [agents_replace, agents_replace, withEntries, withEntries, List.filter_map]
  congr 1
  apply List.filter_congr
  intro entry _
  rw [Function.comp_apply, isEmpty_newest store.limits.entries_pos]

theorem withEntries_of_forall (all : ∀ entry ∈ agents, entry.2 ≠ []) :
    withEntries agents = agents := by
  rw [withEntries, List.filter_eq_self]
  simpa using all

/-- The agents with entries are those whose entries have a length. -/
theorem keys_withEntries (distinct : (Keyed.keys agents).Nodup) :
    Keyed.keys (withEntries agents) = (Keyed.keys agents).filter fun agent =>
      ((Keyed.get? agent agents).getD []).length ≠ 0 := by
  rw [withEntries, Keyed.keys, Keyed.keys, List.filter_map]
  congr 1
  apply List.filter_congr
  rintro ⟨agent, entries⟩ entryMem
  have found := Keyed.get?_of_mem distinct entryMem
  cases entries with
  | nil => simp [found]
  | cons field fields => simp [found]

/-- When no agent is without entries, none is so once its names are settled as
texts. -/
theorem ne_nil_of_mem_settledSnapshot (all : ∀ entry ∈ agents, entry.2 ≠ []) :
    ∀ entry ∈ (settledSnapshot agents).agents, entry.2 ≠ [] := by
  have settled : ∀ entry ∈ settledSnapshot agents, entry.2 ≠ [] := by
    apply Keyed.forall_mem_ofPairs
    simp only [namedSnapshot, List.map_map, List.forall_mem_map]
    intro entry entryMem
    apply Keyed.ofPairs_ne_nil
    simpa [namedFields] using all entry entryMem
  intro entry entryMem
  rcases List.mem_map.mp entryMem with ⟨original, originalMem, rfl⟩
  simpa using settled original originalMem

/-! ## Answers -/

/-- Two stores answer alike, whatever they are asked for of any agent. -/
structure AnswerAlike (first second : Store) : Prop where
  getAll_eq : ∀ agent, first.getAll agent = second.getAll agent
  size_eq : ∀ agent, first.size agent = second.size agent
  get_eq : ∀ agent key, first.get? agent key = second.get? agent key
  has_eq : ∀ agent key, first.has agent key = second.has agent key

theorem answerAlike_of_getAll {first second : Store}
    (same : ∀ agent, first.getAll agent = second.getAll agent) : AnswerAlike first second where
  getAll_eq := same
  size_eq agent := by rw [size, size, same]
  get_eq agent key := by rw [get?, get?, same]
  has_eq agent key := by rw [has, has, same]

end Store

namespace Archive

open Store (Entries Operation Snapshot ValuesPlain settledSnapshot withEntries)

variable {archive : Archive} {disk : Disk} {store : Store}

/-- The agents that an archive gives back of a snapshot. -/
def restored (archive : Archive) (snapshot : Snapshot) : List (Option String × Entries) :=
  match archive.backend with
  | .database => withEntries snapshot.agents
  | _ => snapshot.agents

/-- A plain snapshot that a destination takes is fetched again. -/
theorem fetch_deposit (persisted : archive.backend ≠ .memory) {snapshot : Snapshot}
    (accepts : archive.Accepts disk snapshot) (plain : snapshot.toJson.IsPlain) :
    ∃ after left, archive.deposit disk snapshot = (after, .none) ∧
      archive.fetch after = (left, .ok (archive.restored snapshot)) := by
  rcases archive with ⟨backend, filePath, databasePath⟩
  cases backend with
  | memory => exact absurd rfl persisted
  | file =>
      rcases accepts with ⟨begins, room⟩
      rcases writeFile_cases disk filePath snapshot with
        ⟨made, place, -, ⟨-, written⟩ | ⟨lacks, -⟩⟩ | ⟨never, -⟩
      · have isRead := readFile_of_writeFile plain written
        refine ⟨_, made.put place (.text snapshot.toJson.page), written, ?_⟩
        simp only [fetch, isRead]
        rfl
      · cases room.symm.trans lacks
      · exact absurd begins never
  | database =>
      rcases writeDatabase_cases disk databasePath snapshot with
        ⟨made, place, table, opens, takes, written⟩ | ⟨made, fleeting, -⟩ | ⟨-, refuses, -⟩
      · have holds : (table.withRows (keptRows snapshot)).rows? = some (keptRows snapshot) := by
          cases takes <;> rfl
        exact ⟨_, _, written, readDatabase_of_opens plain (opens.again _) holds⟩
      · rcases accepts with ⟨made', place, table, opens, -⟩
        cases opens.lasting.symm.trans fleeting.transient
      · exact absurd accepts refuses

/-- What was saved where it is taken is loaded again. -/
theorem load_persist_of_accepts (persisted : archive.backend ≠ .memory)
    (plain : ValuesPlain store.agents)
    (accepts : archive.Accepts disk (settledSnapshot store.agents)) (other : Store) :
    let saved := archive.persist disk store
    let loaded := archive.load saved.disk other
    saved.done = true ∧ loaded.done = true ∧
      loaded.store = other.replace (archive.restored (settledSnapshot store.agents)) := by
  intro saved loaded
  have taken := Store.snapshot_of_unhindered (Store.obstacle?_of_valuesPlain plain)
  rcases fetch_deposit persisted accepts (Store.isPlain_settledSnapshot plain) with
    ⟨after, left, put, fetched⟩
  rcases persist_of_snapshot persisted disk taken with ⟨disk_eq, done_eq⟩
  rw [put] at disk_eq done_eq
  have loaded_eq : loaded = archive.load after other := congrArg (archive.load · other) disk_eq
  rw [loaded_eq]
  simp only [load, if_neg persisted, fetched, and_true]
  exact done_eq

/-- What was saved where it is forgotten at once is not loaded again. -/
theorem load_persist_of_vanishes (plain : ValuesPlain store.agents)
    (vanishes : archive.Vanishes disk) (other : Store) :
    let saved := archive.persist disk store
    let loaded := archive.load saved.disk other
    saved.done = true ∧ loaded.done = true ∧ loaded.store = other.replace [] := by
  intro saved loaded
  rcases vanishes with ⟨keepsRows, made, fleeting⟩
  have persisted : archive.backend ≠ .memory := by simp [keepsRows]
  have fleetingAgain : Disk.Fleeting made archive.databasePath made :=
    ⟨Disk.makeParent_again fleeting.makes, fleeting.transient⟩
  have taken := Store.snapshot_of_unhindered (Store.obstacle?_of_valuesPlain plain)
  have put : archive.deposit disk (settledSnapshot store.agents) = (made, .none) := by
    rw [deposit, keepsRows]
    dsimp only
    rw [writeDatabase, fleeting.openDatabase]
    rfl
  have fetched : archive.fetch made = (made, .ok []) := by
    rw [fetch, keepsRows]
    dsimp only
    rw [readDatabase, fleetingAgain.openDatabase]
    rfl
  rcases persist_of_snapshot persisted disk taken with ⟨disk_eq, done_eq⟩
  rw [put] at disk_eq done_eq
  have loaded_eq : loaded = archive.load made other := congrArg (archive.load · other) disk_eq
  rw [loaded_eq]
  simp only [load, if_neg persisted, fetched, and_true]
  exact done_eq

/-- A file that every text can be written to takes every snapshot. -/
theorem accepts_of_writable (keepsFile : archive.backend = .file)
    (writable : disk.Writable archive.filePath) (snapshot : Snapshot) :
    archive.Accepts disk snapshot := by
  rcases writable with ⟨made, makes, writes⟩
  rcases writes snapshot.toJson.page with ⟨written, wrote⟩
  rcases Disk.writeText_eq_iff.mp wrote with ⟨place, leads, isOpen, noFolder, room, -⟩
  rw [Accepts, keepsFile]
  refine ⟨⟨made, place, makes, leads, isOpen, noFolder⟩, ?_⟩
  rwa [Disk.lacksRoom, ← Disk.room_makeParent makes]

/-- A database that takes rows takes every snapshot. -/
theorem accepts_of_takesRows (keepsRows : archive.backend = .database)
    (takesRows : disk.TakesRows archive.databasePath) (snapshot : Snapshot) :
    archive.Accepts disk snapshot := by
  rcases takesRows with ⟨made, place, kept, opens⟩
  rw [Accepts, keepsRows]
  exact ⟨made, place, _, opens, .context kept⟩

/-- Files and databases can stand in for each other.  A store that a run reaches and
whose values are JSON values is saved to a file and to a database, and stores with
the same bound are loaded from the two.  They answer alike whatever they are asked
for of any agent.  The agents listed by the one are those of the other that have
entries, in the same order; so the lists are equal when the saved store has no agent
without entries. -/
theorem backends_answerAlike (limits : Store.Limits) (operations : List Operation)
    (plain : ValuesPlain ((Store.empty limits).performAll operations).agents)
    {file database : Archive} (keepsFile : file.backend = .file)
    (keepsRows : database.backend = .database) {disk disk' : Disk}
    (writable : disk.Writable file.filePath) (takesRows : disk'.TakesRows database.databasePath)
    {first second : Store} (sameBound : first.limits.entries = second.limits.entries) :
    let store := (Store.empty limits).performAll operations
    let inFile := file.persist disk store
    let inRows := database.persist disk' store
    let fromFile := file.load inFile.disk first
    let fromRows := database.load inRows.disk second
    (inFile.done = true ∧ inRows.done = true ∧ fromFile.done = true ∧ fromRows.done = true) ∧
    Store.AnswerAlike fromFile.store fromRows.store ∧
    fromRows.store.agentIds =
      fromFile.store.agentIds.filter (fun agent => fromFile.store.size agent ≠ 0) ∧
    ((∀ agent ∈ store.agentIds, store.size agent ≠ 0) →
      fromRows.store.agentIds = fromFile.store.agentIds) := by
  intro store inFile inRows fromFile fromRows
  have wellFormed : store.WellFormed :=
    (Store.performAll_preserves (Store.wellFormed_empty limits) operations).2
  have snapshotPlain := Store.isPlain_settledSnapshot plain
  obtain ⟨fileSaved, fileLoaded, file_eq⟩ := load_persist_of_accepts (by simp [keepsFile]) plain
    (accepts_of_writable keepsFile writable _) first
  obtain ⟨rowsSaved, rowsLoaded, rows_eq⟩ := load_persist_of_accepts (by simp [keepsRows]) plain
    (accepts_of_takesRows keepsRows takesRows _) second
  rw [restored, keepsFile] at file_eq
  rw [restored, keepsRows] at rows_eq
  have agents_eq : fromRows.store.agents = withEntries fromFile.store.agents := by
    rw [rows_eq, file_eq, Store.withEntries_replace, Store.agents_replace, Store.agents_replace,
      sameBound]
  have distinct : (Keyed.keys fromFile.store.agents).Nodup := by
    rw [file_eq]
    exact (Store.wellFormed_replace first (Snapshot.distinct_agents snapshotPlain)).distinct.1
  refine ⟨⟨fileSaved, rowsSaved, fileLoaded, rowsLoaded⟩, ?_, ?_, ?_⟩
  · apply Store.answerAlike_of_getAll
    intro agent
    rw [Store.getAll, Store.getAll, agents_eq]
    exact (Store.get?_withEntries distinct agent).symm
  · rw [Store.agentIds, agents_eq]
    exact Store.keys_withEntries distinct
  · intro all
    have none_empty : ∀ entry ∈ store.agents, entry.2 ≠ [] := by
      intro entry entryMem isEmpty
      have found : Keyed.get? entry.1 store.agents = some entry.2 :=
        Keyed.get?_of_mem wellFormed.distinct.1 entryMem
      apply all entry.1 (List.mem_map_of_mem entryMem)
      rw [Store.size, Store.getAll, found, isEmpty]
      rfl
    rw [rows_eq, file_eq, Store.agentIds_replace, Store.agentIds_replace,
      Store.withEntries_of_forall (Store.ne_nil_of_mem_settledSnapshot none_empty)]

theorem takesRows_staleDisk : staleDisk.TakesRows notesDatabase.databasePath :=
  ⟨staleDisk, ["notes.sqlite"], _, ⟨rfl, rfl, rfl, rfl, .inl rfl⟩⟩

/-- One of two agents is without entries; whichever backend it was loaded from, a
store with room for one entry shows none of that agent and the newer of the other's. -/
theorem backends_answerAlike_noteStore :
    let fromFile := notesFile.load (notesFile.persist Disk.empty noteStore).disk
      (.empty (roomFor 1 (Nat.le_refl 1)))
    let fromRows := notesDatabase.load (notesDatabase.persist staleDisk noteStore).disk
      (.empty (roomFor 1 (Nat.le_refl 1)))
    (fromFile.done = true ∧ fromRows.done = true) ∧
      Store.AnswerAlike fromFile.store fromRows.store ∧
      fromRows.store.agentIds =
        fromFile.store.agentIds.filter (fun agent => fromFile.store.size agent ≠ 0) := by
  have keepsFile : notesFile.backend = .file := rfl
  have keepsRows : notesDatabase.backend = .database := rfl
  have sameBound : (Store.empty (roomFor 1 (Nat.le_refl 1))).limits.entries =
      (Store.empty (roomFor 1 (Nat.le_refl 1))).limits.entries := rfl
  have agree := backends_answerAlike .standard noteRun plain_noteStore keepsFile keepsRows
    writable_notesFile takesRows_staleDisk sameBound
  exact ⟨⟨agree.1.2.2.1, agree.1.2.2.2⟩, agree.2.1, agree.2.2.1⟩

/-- An entry that is saved and deleted again. -/
def emptiedRun : List Operation :=
  [.save (some "a") (some "k") (.int 1), .delete (some "a") (some "k")]

/-- The agent is listed by the store that is loaded from the file and not by the one
that is loaded from the database. -/
theorem agentIds_differ_emptiedRun :
    let store := (Store.empty .standard).performAll emptiedRun
    let fromFile := notesFile.load (notesFile.persist Disk.empty store).disk (.empty .standard)
    let fromRows :=
      notesDatabase.load (notesDatabase.persist staleDisk store).disk (.empty .standard)
    ValuesPlain store.agents ∧ fromFile.done = true ∧ fromRows.done = true ∧
      fromFile.store.agentIds = [some "a"] ∧ fromRows.store.agentIds = [] := by
  intro store fromFile fromRows
  have agents_eq : store.agents = [(some "a", [])] := rfl
  have plain : ValuesPlain store.agents := by
    rw [agents_eq]
    simp [ValuesPlain]
  have filePersisted : notesFile.backend ≠ .memory := by decide
  have rowsPersisted : notesDatabase.backend ≠ .memory := by decide
  obtain ⟨-, fileLoaded, file_eq⟩ :=
    load_persist_of_accepts filePersisted plain (accepts_of_writable rfl writable_notesFile _)
      (.empty .standard)
  obtain ⟨-, rowsLoaded, rows_eq⟩ :=
    load_persist_of_accepts rowsPersisted plain (accepts_of_takesRows rfl takesRows_staleDisk _)
      (.empty .standard)
  refine ⟨plain, fileLoaded, rowsLoaded, ?_, ?_⟩
  · rw [file_eq]
    rfl
  · rw [rows_eq]
    rfl

end Archive

end PromptDispatch
