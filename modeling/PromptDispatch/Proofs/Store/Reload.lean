import PromptDispatch.Proofs.Store.Backends
import PromptDispatch.Proofs.Store.Eviction
import PromptDispatch.Proofs.Store.Loading

/-!
# Loading rows and saving them back

What is loaded from rows has plain values and no agent without entries, so saving it
back and loading it again loses no agent for want of rows.  But the snapshot that is
saved has texts for names: a missing name comes back as the text `null`, and where
there is a name of that text already, the later entries take the place of the
earlier ones.  The second load therefore gives what the first one gave exactly when
no name that was loaded is missing.
-/

namespace PromptDispatch

namespace Store

variable {agents : List (Option String × Entries)}

theorem valuesPlain_replace (store : Store) (plain : ValuesPlain agents) :
    ValuesPlain (store.replace agents).agents := by
  intro entry entryMem field fieldMem
  rcases List.mem_map.mp entryMem with ⟨replaced, mem, rfl⟩
  exact plain replaced mem field ((newest_sublist _ _).subset fieldMem)

theorem ne_nil_replace (store : Store) (all : ∀ entry ∈ agents, entry.2 ≠ []) :
    ∀ entry ∈ (store.replace agents).agents, entry.2 ≠ [] := by
  intro entry entryMem isEmpty
  rcases List.mem_map.mp entryMem with ⟨replaced, mem, rfl⟩
  apply all replaced mem
  rw [← List.isEmpty_iff, ← isEmpty_newest store.limits.entries_pos, List.isEmpty_iff]
  exact isEmpty

/-- Replacing all entries by what is within the bound takes it as it is. -/
theorem agents_replace_of_length_le (store : Store)
    (within : ∀ entry ∈ agents, entry.2.length ≤ store.limits.entries) :
    (store.replace agents).agents = agents := by
  rw [agents_replace]
  have each : ∀ entry ∈ agents, (entry.1, newest store.limits.entries entry.2) = id entry :=
    fun entry entryMem => Prod.ext rfl (newest_of_length_le (within entry entryMem))
  exact (List.map_congr_left each).trans (List.map_id agents)

/-- Settling names as texts adds no entry. -/
theorem length_le_of_mem_settledSnapshot {n : Nat}
    (within : ∀ entry ∈ agents, entry.2.length ≤ n) :
    ∀ entry ∈ (settledSnapshot agents).agents, entry.2.length ≤ n := by
  have settled : ∀ entry ∈ settledSnapshot agents, entry.2.length ≤ n := by
    apply Keyed.forall_mem_ofPairs
    simp only [namedSnapshot, List.map_map, List.forall_mem_map]
    intro entry entryMem
    have length_eq : (namedFields entry.2).length = entry.2.length := List.length_map _
    exact (Keyed.length_ofPairs_le _).trans (length_eq ▸ within entry entryMem)
  intro entry entryMem
  rcases List.mem_map.mp entryMem with ⟨original, originalMem, rfl⟩
  rw [List.length_map]
  exact settled original originalMem

/-- Settling its names as texts leaves a store as it is exactly when none is
missing. -/
theorem agents_settledSnapshot_eq_iff {store : Store} (wellFormed : store.WellFormed)
    (plain : ValuesPlain store.agents) :
    (settledSnapshot store.agents).agents = store.agents ↔ Named store.agents := by
  constructor
  · intro same
    rw [← same]
    exact Snapshot.named_agents _
  · intro named
    have settled := snapshot_of_unhindered (obstacle?_of_valuesPlain plain)
    have own := snapshot_eq_ok wellFormed named plain
    rw [Except.ok.inj (settled.symm.trans own)]
    exact agents_namedSnapshot named

end Store

namespace Archive

open Disk (Opens)
open Store (Entries Named ValuesPlain settledSnapshot)

variable {archive : Archive} {disk later : Disk} {store fresh : Store}

/-- A save that is done found a destination that takes the snapshot, or one that
forgets it. -/
theorem accepts_or_vanishes_of_persist (persisted : archive.backend ≠ .memory)
    (plain : ValuesPlain store.agents) (isSaved : (archive.persist later store).done = true) :
    archive.Accepts later (settledSnapshot store.agents) ∨ archive.Vanishes later := by
  have taken := Store.snapshot_of_unhindered (Store.obstacle?_of_valuesPlain plain)
  have deposited := deposited_deposit persisted later (Store.isPlain_settledSnapshot plain)
  rw [(persist_of_snapshot persisted later taken).2] at isSaved
  generalize archive.deposit later (settledSnapshot store.agents) = result at deposited isSaved
  cases deposited with
  | kept accepts => exact .inl accepts
  | gone vanishes => exact .inr vanishes
  | cut => cases isSaved
  | refused => cases isSaved

/-- What is loaded from rows: plain values of agents that have entries, within the
bound. -/
structure LoadedFromRows (store : Store) : Prop where
  wellFormed : store.WellFormed
  plain : ValuesPlain store.agents
  ne_nil : ∀ entry ∈ store.agents, entry.2 ≠ []

theorem loadedFromRows_replace {rows : List Disk.Row} {agents : List (Option String × Entries)}
    (gathered : Gathered rows agents) (store : Store) : LoadedFromRows (store.replace agents) where
  wellFormed := Store.wellFormed_replace store gathered.distinct
  plain := Store.valuesPlain_replace store gathered.valuesPlain
  ne_nil := Store.ne_nil_replace store gathered.ne_nil

/-- What was loaded from rows and saved back is loaded again with its names settled
as texts.  Where a snapshot would be forgotten, nothing may have been loaded. -/
theorem LoadedFromRows.agents_reload (loaded : LoadedFromRows store)
    (persisted : archive.backend ≠ .memory)
    (isSaved : (archive.persist later store).done = true)
    (lasts : archive.Vanishes later → store.agents = [])
    (sameBound : fresh.limits.entries = store.limits.entries) :
    let reloaded := archive.load (archive.persist later store).disk fresh
    reloaded.done = true ∧ reloaded.store.agents = (settledSnapshot store.agents).agents := by
  intro reloaded
  rcases accepts_or_vanishes_of_persist persisted loaded.plain isSaved with accepts | vanishes
  · obtain ⟨-, isDone, store_eq⟩ :=
      load_persist_of_accepts persisted loaded.plain accepts fresh
    have restored_eq : archive.restored (settledSnapshot store.agents) =
        (settledSnapshot store.agents).agents := by
      rw [restored]
      split
      · exact Store.withEntries_of_forall (Store.ne_nil_of_mem_settledSnapshot loaded.ne_nil)
      · rfl
    refine ⟨isDone, ?_⟩
    rw [store_eq, restored_eq]
    apply Store.agents_replace_of_length_le
    rw [sameBound]
    exact Store.length_le_of_mem_settledSnapshot loaded.wellFormed.bounded
  · obtain ⟨-, isDone, store_eq⟩ := load_persist_of_vanishes loaded.plain vanishes fresh
    refine ⟨isDone, ?_⟩
    rw [store_eq, lasts vanishes]
    rfl

/-- Rows that can be loaded, whatever names and duplicates are among them, are saved
back and loaded again into a store with the same bound.  Then the agents, their
keys and values, and the order of both are those of the first load exactly when no
agent and no key that was loaded lacks a name; in particular when no row does.
In every case the names come back as texts. -/
theorem reload_eq_iff_named (keepsRows : archive.backend = .database)
    (isLoaded : (archive.load disk store).done = true)
    (isSaved : (archive.persist later (archive.load disk store).store).done = true)
    (sameBound : fresh.limits.entries = store.limits.entries) :
    let loaded := (archive.load disk store).store
    let reloaded := archive.load (archive.persist later loaded).disk fresh
    reloaded.done = true ∧
    (reloaded.store.agents = loaded.agents ↔ Named loaded.agents) ∧
    (∀ made place rows, Opens disk archive.databasePath made place (.context rows) →
      (∀ row ∈ rows, row.agent.isSome ∧ row.key.isSome) →
        reloaded.store.agents = loaded.agents) ∧
    reloaded.store.agents = (settledSnapshot loaded.agents).agents := by
  intro loaded reloaded
  have persisted : archive.backend ≠ .memory := by simp [keepsRows]
  rcases exists_holds_of_done persisted isLoaded with ⟨agents, holds⟩
  have loaded_eq : loaded = store.replace agents := (load_of_holds persisted holds store).2
  have holdsRows : HoldsDatabase disk archive.databasePath agents := by
    simpa only [Holds, keepsRows] using holds
  rcases holdsRows.exists_rows with ⟨rows, opens, -, gathered⟩
  have lasts : archive.Vanishes later → loaded.agents = [] := by
    rintro ⟨-, made, fleeting⟩
    rcases opens with ⟨-, rfl⟩ | ⟨made', place, table, opens, -⟩
    · obtain rfl := gathered.unique gathered_nil
      rw [loaded_eq]
      rfl
    · cases opens.lasting.symm.trans fleeting.transient
  have fromRows : LoadedFromRows loaded := by
    rw [loaded_eq]
    exact loadedFromRows_replace gathered store
  have sameBoundThen : fresh.limits.entries = loaded.limits.entries := by
    rw [loaded_eq]
    exact sameBound
  obtain ⟨isDone, agents_eq⟩ := fromRows.agents_reload persisted isSaved lasts sameBoundThen
  have same_iff : reloaded.store.agents = loaded.agents ↔ Named loaded.agents := by
    rw [agents_eq]
    exact Store.agents_settledSnapshot_eq_iff fromRows.wellFormed fromRows.plain
  refine ⟨isDone, same_iff, ?_, agents_eq⟩
  intro made' place' rows' opensToo complete
  obtain rfl := opens.eq (.inr ⟨_, _, _, opensToo, rfl⟩)
  rw [same_iff, loaded_eq]
  exact Store.named_replace store (gathered.named complete)

/-! ## Rows in the working folder -/

theorem opens_diskOfRows (rows : List Disk.Row) :
    Opens (diskOfRows rows) notesDatabase.databasePath (diskOfRows rows) ["notes.sqlite"]
      (.context rows) :=
  ⟨rfl, rfl, rfl, rfl, .inl rfl⟩

/-- What the rows come to is loaded, the disk stays as it is, and saving back is
done. -/
theorem load_diskOfRows {rows : List Disk.Row} {agents : List (Option String × Entries)}
    (gathered : gather [] rows = .ok agents) (store : Store) :
    let loaded := notesDatabase.load (diskOfRows rows) store
    loaded.done = true ∧ loaded.store = store.replace agents ∧
      loaded.disk = diskOfRows rows ∧
      (notesDatabase.persist loaded.disk loaded.store).done = true := by
  intro loaded
  have opens := opens_diskOfRows rows
  have same : (diskOfRows rows).withDatabase ["notes.sqlite"] (.context rows) = diskOfRows rows :=
    Disk.put_of_at? rfl opens.ne_folder
  have fetched : notesDatabase.fetch (diskOfRows rows) = (diskOfRows rows, .ok agents) := by
    change readDatabase (diskOfRows rows) notesDatabase.databasePath = _
    have areJson := exists_gather_iff_hasJson.mp ⟨agents, gathered⟩
    have rowsRead : (Disk.Table.context rows).readRows = .ok rows :=
      Disk.Table.readRows_eq_ok_iff.mpr ⟨rfl, fun row among => (areJson row among).garbled?⟩
    rw [readDatabase, opens.openDatabase]
    dsimp only
    rw [rowsRead]
    dsimp only
    rw [gathered, same]
  have loaded_eq : loaded.done = true ∧ loaded.store = store.replace agents ∧
      loaded.disk = diskOfRows rows := by
    simp only [loaded, load, fetched]
    exact ⟨rfl, rfl, rfl⟩
  obtain ⟨isDone, store_eq, disk_eq⟩ := loaded_eq
  have fromRows : LoadedFromRows loaded.store := by
    rw [store_eq]
    exact loadedFromRows_replace (gathered_of_gather gathered) store
  have takesRows : (diskOfRows rows).TakesRows notesDatabase.databasePath := ⟨_, _, rows, opens⟩
  refine ⟨isDone, store_eq, disk_eq, ?_⟩
  rw [disk_eq]
  exact (load_persist_of_accepts (by decide) fromRows.plain
    (accepts_of_takesRows rfl takesRows _) store).1

/-- Rows of two agents, two of them for one key. -/
def namedRows : List Disk.Row :=
  [⟨some "coder", some "plan", some "[true]"⟩, ⟨some "writer", some "draft", some "null"⟩,
    ⟨some "coder", some "plan", some "7"⟩]

/-- The two agents and the later value of the key come back. -/
theorem reload_eq_iff_named_namedRows :
    let loaded := notesDatabase.load (diskOfRows namedRows) (.empty .standard)
    let saved := notesDatabase.persist loaded.disk loaded.store
    let reloaded := notesDatabase.load saved.disk (.empty .standard)
    loaded.store.agents =
        [(some "coder", [(some "plan", .int 7)]), (some "writer", [(some "draft", .null)])] ∧
      reloaded.done = true ∧ reloaded.store.agents = loaded.store.agents := by
  have gathered : gather [] namedRows = .ok
      [(some "coder", [(some "plan", .int 7)]), (some "writer", [(some "draft", .null)])] := rfl
  obtain ⟨isLoaded, store_eq, -, isSaved⟩ := load_diskOfRows gathered (.empty .standard)
  have keepsRows : notesDatabase.backend = .database := rfl
  have sameBound : (Store.empty .standard).limits.entries =
      (Store.empty .standard).limits.entries := rfl
  have reload := reload_eq_iff_named keepsRows isLoaded isSaved sameBound
  have complete : ∀ row ∈ namedRows, row.agent.isSome ∧ row.key.isSome := by
    simp [namedRows]
  refine ⟨?_, reload.1, reload.2.2.1 _ _ _ (opens_diskOfRows namedRows) complete⟩
  rw [store_eq]
  rfl

/-- A row of no agent, and one of an agent of the name that a missing one gets. -/
def collidingRows : List Disk.Row :=
  [⟨.none, some "a", some "1"⟩, ⟨some "null", some "b", some "2"⟩]

/-- The first row is lost when the rows are loaded, saved back and loaded again. -/
theorem reload_ne_collidingRows :
    let loaded := notesDatabase.load (diskOfRows collidingRows) (.empty .standard)
    let saved := notesDatabase.persist loaded.disk loaded.store
    let reloaded := notesDatabase.load saved.disk (.empty .standard)
    loaded.done = true ∧ saved.done = true ∧ reloaded.done = true ∧
      loaded.store.agents =
        [(.none, [(some "a", .int 1)]), (some "null", [(some "b", .int 2)])] ∧
      reloaded.store.agents = [(some "null", [(some "b", .int 2)])] := by
  intro loaded saved reloaded
  have gathered : gather [] collidingRows =
      .ok [(.none, [(some "a", .int 1)]), (some "null", [(some "b", .int 2)])] := rfl
  obtain ⟨isLoaded, store_eq, -, isSaved⟩ := load_diskOfRows gathered (.empty .standard)
  have fromRows : LoadedFromRows loaded.store := by
    rw [store_eq]
    exact loadedFromRows_replace (gathered_of_gather gathered) _
  have sameBound : (Store.empty .standard).limits.entries = loaded.store.limits.entries := by
    rw [store_eq]
    rfl
  have persisted : notesDatabase.backend ≠ .memory := by decide
  have lasts : ¬ notesDatabase.Vanishes loaded.disk := by
    rintro ⟨-, made, fleeting⟩
    cases fleeting.transient
  obtain ⟨isReloaded, agents_eq⟩ :=
    fromRows.agents_reload persisted isSaved (fun vanishes => absurd vanishes lasts) sameBound
  refine ⟨isLoaded, isSaved, isReloaded, ?_, ?_⟩
  · rw [store_eq]
    rfl
  · rw [agents_eq, store_eq]
    rfl

end Archive

end PromptDispatch
