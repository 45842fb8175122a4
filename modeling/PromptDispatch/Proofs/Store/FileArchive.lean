import PromptDispatch.Proofs.Disk.Folders
import PromptDispatch.Proofs.Json.RoundTrip
import PromptDispatch.Proofs.Store.Named

/-!
# Saving to a file and loading it again

The snapshot of a named store is plain when the store's values are, and so both
of its texts are read back: the one line it is copied through and the page that
is written to the file.  Loading then gives the same agents, each with the newest
of its entries.
-/

namespace PromptDispatch

namespace Archive

open Store (Operation Snapshot ValuesPlain namedSnapshot newest)

/-! ## The file -/

/-- A snapshot can be written wherever a text can. -/
theorem exists_writeFile {disk : Disk} {path : Disk.Path} (writable : disk.Writable path)
    (snapshot : Snapshot) : ∃ after, writeFile disk path snapshot = (after, .none) := by
  rcases writable with ⟨made, madeParent, writes⟩
  rcases writes snapshot.toJson.page with ⟨after, wrotePage⟩
  refine ⟨after, ?_⟩
  rw [writeFile, Disk.makeParent_eq_ok_iff.mp madeParent]
  dsimp only
  rw [wrotePage]

/-- A plain snapshot that was written is read back. -/
theorem readFile_of_writeFile {disk after : Disk} {path : Disk.Path} {snapshot : Snapshot}
    (plain : snapshot.toJson.IsPlain) (written : writeFile disk path snapshot = (after, .none)) :
    readFile after path = .ok snapshot := by
  rw [writeFile] at written
  split at written
  · cases written
  · split at written
    · cases written
    · next wroteText =>
      obtain ⟨rfl, -⟩ := Prod.mk.inj written
      rw [readFile, if_pos (Disk.contains_of_writeText wroteText),
        Disk.readText_of_writeText wroteText (Json.noReturn_page plain)]
      dsimp only
      rw [Json.read_page plain]
      exact Snapshot.ofJson_toJson snapshot

/-- What is saved to a file is loaded from it.  The store may be any that a run
reaches which names its keys, loads from files only and leaves plain values; the
store that is loaded into may be any with any bounds.  The copy that is saved is
made by way of one line of text, which changes nothing either. -/
theorem load_persist (limits : Store.Limits) {operations : List Operation}
    (textual : ∀ operation ∈ operations, operation.Textual)
    (plain : ValuesPlain ((Store.empty limits).performAll operations).agents)
    {saver : Archive} (savesFile : saver.backend = .file) {disk : Disk}
    (writable : disk.Writable saver.filePath) :
    let store := (Store.empty limits).performAll operations
    let saved := saver.persist disk store
    (∃ snapshot, store.snapshot = .ok snapshot ∧
      Json.read snapshot.toJson.line = .ok snapshot.toJson) ∧
    saved.done = true ∧
    ∀ (loader : Archive) (other : Store), loader.backend = .file →
      loader.filePath = saver.filePath →
        (loader.load saved.disk other).done = true ∧
        (loader.load saved.disk other).store.agents =
          store.agents.map fun entry => (entry.1, newest other.limits.entries entry.2) := by
  intro store saved
  have wellFormed : store.WellFormed :=
    (Store.performAll_preserves (Store.wellFormed_empty limits) operations).2
  have named : Store.Named store.agents :=
    Store.performAll_named (by simp [Store.Named, Store.empty]) textual
  have snapshot_ok : store.snapshot = .ok (namedSnapshot store.agents) :=
    Store.snapshot_eq_ok wellFormed named plain
  have snapshotPlain : (namedSnapshot store.agents).toJson.IsPlain :=
    Store.isPlain_namedSnapshot wellFormed.distinct named plain
  rcases exists_writeFile writable (namedSnapshot store.agents) with ⟨after, written⟩
  have saved_eq : saved.done = true ∧ saved.disk = after := by
    have deposited : saver.deposit disk (namedSnapshot store.agents) = (after, .none) := by
      rw [deposit, savesFile, written]
    simp only [saved, persist, savesFile, snapshot_ok, deposited]
    exact ⟨rfl, rfl⟩
  refine ⟨⟨_, snapshot_ok, Json.read_line snapshotPlain⟩, saved_eq.1, ?_⟩
  intro loader other loadsFile samePath
  have fetched : loader.fetch saved.disk = (after, .ok store.agents) := by
    rw [fetch, loadsFile, saved_eq.2, samePath, readFile_of_writeFile snapshotPlain written]
    dsimp only [Except.map]
    rw [Store.agents_namedSnapshot named]
  simp only [load, loadsFile, fetched]
  exact ⟨rfl, rfl⟩

/-- Writes of values of every kind, one of which is deleted again. -/
def mixedRun : List Operation :=
  [.save (some "coder") (some "plan") (.arr [.null, .bool true, .int (-7), .arr [], .obj []]),
    .save (some "writer") (some "draft") (.float .nan),
    .save (some "coder") (some "said \x22no\x22") (.str "tab\t, é, 🎉 and \x5c\n"),
    .delete (some "writer") (some "draft"),
    .merge (some "coder") (some "limits")
      (.obj [("upper", .float (.ofDecimal false 1 (-1))), ("lower", .int 1)]) true .null]

/-- Room for a number of entries and for one prompt. -/
def roomFor (entries : Nat) (positive : 1 ≤ entries) : Store.Limits :=
  ⟨entries, 1, positive, Nat.le_refl 1⟩

/-- The store that the writes lead to, with room for two entries. -/
abbrev mixedStore : Store :=
  (Store.empty (roomFor 2 (Nat.le_add_left 1 1))).performAll mixedRun

/-- A file in a folder that is not there yet. -/
def notesFile : Archive := ⟨.file, .ofString "notes/memory.json", standardDatabase⟩

theorem writable_notesFile : Disk.empty.Writable notesFile.filePath :=
  ⟨_, rfl, fun _ => ⟨_, rfl⟩⟩

theorem agents_mixedStore : mixedStore.agents =
    [(some "coder",
        [(some "said \x22no\x22", .str "tab\t, é, 🎉 and \x5c\n"),
          (some "limits",
            .obj [("upper", .float (.ofDecimal false 1 (-1))), ("lower", .int 1)])]),
      (some "writer", [])] := by
  rfl

/-- Two entries of the first agent and none of the second are saved; a store with
a bound of one loads the newer of the two. -/
theorem load_persist_mixedStore :
    (notesFile.persist Disk.empty mixedStore).done = true ∧
      (notesFile.load (notesFile.persist Disk.empty mixedStore).disk
        (Store.empty (roomFor 1 (Nat.le_refl 1)))).store.agents =
          [(some "coder", [(some "limits",
              .obj [("upper", .float (.ofDecimal false 1 (-1))), ("lower", .int 1)])]),
            (some "writer", [])] := by
  have textual : ∀ operation ∈ mixedRun, operation.Textual := by
    simp [mixedRun, Operation.Textual]
  have plain : ValuesPlain mixedStore.agents := by
    have withinDigits : 1 < 10 ^ Json.digitLimit := Nat.one_lt_pow (by decide) (by decide)
    have objPlain : (Json.obj [("upper", .float (.ofDecimal false 1 (-1))),
        ("lower", .int 1)]).IsPlain := by
      rw [Json.isPlain_obj_iff]
      simp [Keyed.keys, Json.IsPlain, withinDigits]
    rw [agents_mixedStore]
    intro entry entryMem field fieldMem
    simp only [List.mem_cons, List.not_mem_nil, or_false] at entryMem
    rcases entryMem with rfl | rfl
    · simp only [List.mem_cons, List.not_mem_nil, or_false] at fieldMem
      rcases fieldMem with rfl | rfl
      · trivial
      · exact objPlain
    · cases fieldMem
  obtain ⟨-, done, loads⟩ :=
    load_persist (roomFor 2 (Nat.le_add_left 1 1)) textual plain rfl writable_notesFile
  refine ⟨done, ?_⟩
  rcases loads notesFile (Store.empty (roomFor 1 (Nat.le_refl 1))) rfl rfl with ⟨-, loaded⟩
  rw [loaded, agents_mixedStore]
  rfl

end Archive

end PromptDispatch
