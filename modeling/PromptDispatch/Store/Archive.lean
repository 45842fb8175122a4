import PromptDispatch.Disk.Database
import PromptDispatch.Json.Reader
import PromptDispatch.Store.Notes
import PromptDispatch.Store.Snapshot

/-!
# Keeping the store on disk

An archive says where a store is kept: nowhere, in a JSON file, or in the rows
of a database.  Loading replaces all entries or none, saving replaces all that
is kept or nothing.  What goes wrong is reported and changes neither the
entries nor the prompts.
-/

namespace PromptDispatch

/-- Where a store is kept. -/
inductive Archive.Backend where
  | memory
  | file
  | database
deriving DecidableEq, Repr

/-- Name of a backend. -/
def Archive.Backend.text : Archive.Backend → String
  | .memory => "memory"
  | .file => "file"
  | .database => "database"

/-- The backend of a name. -/
def Archive.Backend.ofString? : String → Option Archive.Backend
  | "memory" => some .memory
  | "file" => some .file
  | "database" => some .database
  | _ => none

/-- A backend and the paths of the file and the database. -/
structure Archive where
  backend : Archive.Backend
  filePath : Disk.Path
  databasePath : Disk.Path

namespace Archive

open Store (Entries Snapshot)
open Journal (Line)

/-- The file that is used when none is named. -/
def standardFile : Disk.Path := .inWorkingFolder "context-memory.json"

/-- The database that is used when none is named. -/
def standardDatabase : Disk.Path := .inWorkingFolder "context-memory.sqlite"

/-- The archive of a store that is kept nowhere. -/
def none : Archive := ⟨.memory, standardFile, standardDatabase⟩

/-- The path that an archive is kept at. -/
def path (archive : Archive) : Disk.Path :=
  match archive.backend with
  | .database => archive.databasePath
  | _ => archive.filePath

/-- A failed reading of a path. -/
def cannotRead (path : Disk.Path) (reason : String) : Fault :=
  .persistence ("cannot read " ++ path.text ++ ": " ++ reason)

/-- A failed writing of a path. -/
def cannotWrite (path : Disk.Path) (reason : String) : Fault :=
  .persistence ("cannot write " ++ path.text ++ ": " ++ reason)

/-- Reads the snapshot in a file; a file that is not there holds none. -/
def readFile (disk : Disk) (path : Disk.Path) : Except Fault Snapshot :=
  if disk.contains path then
    match disk.readText path with
    | .error fault => .error (cannotRead path fault.message)
    | .ok text =>
      match Json.read text with
      | .error error => .error (cannotRead path (error.message text.toList))
      | .ok value => Snapshot.ofJson value
  else .ok []

/-- Tries to write a snapshot into a file: the disk that is left, and what went
wrong. -/
def writeFile (disk : Disk) (path : Disk.Path) (snapshot : Snapshot) : Disk × Option Fault :=
  match disk.approach path with
  | (disk, some refusal) => (disk, some (cannotWrite path refusal.message))
  | (disk, .none) =>
    match disk.writeText path snapshot.toJson.page with
    | (disk, some refusal) => (disk, some (cannotWrite path refusal.message))
    | (disk, .none) => (disk, .none)

/-- What is said of a kind of values that no JSON can be read from. -/
def notReadable (kind : String) : String :=
  "the JSON object must be str, bytes or bytearray, not " ++ kind

/-- The text that a value of a row is or encodes. -/
def textOf : Disk.Datum → Except String String
  | .text s | .encoded s => .ok s
  | .unencoded reason => .error reason
  | .number kind => .error (notReadable kind)
  | .garbled shown => .error (Disk.DatabaseFault.undecodable shown).message

/-- The value of a row, or why it cannot be read, as a message. -/
def rowValue : Option Disk.Datum → Except String Json
  | .none => .error (notReadable "NoneType")
  | some datum =>
    match textOf datum with
    | .error reason => .error reason
    | .ok text =>
      match Json.read text with
      | .ok value => .ok value
      | .error error => .error (error.message text.toList)

/-- Adds rows one after another to agents and their entries. -/
def gather : List (Option String × Entries) → List Disk.Row →
    Except String (List (Option String × Entries))
  | agents, [] => .ok agents
  | agents, row :: rows => do
    let value ← rowValue row.value
    let entries := (Keyed.get? row.agent agents).getD []
    gather (Keyed.put row.agent (Keyed.put row.key value entries) agents) rows

/-- Tries to read the entries in a database: the disk that is left, and the entries
or what went wrong. -/
def readDatabase (disk : Disk) (path : Disk.Path) :
    Disk × Except Fault (List (Option String × Entries)) :=
  match disk.openDatabase path with
  | (disk, .error fault) => (disk, .error (cannotRead path fault.message))
  | (disk, .ok db) =>
    match db.table.readRows with
    | .error fault => (disk, .error (cannotRead path fault.message))
    | .ok rows =>
      match gather [] rows with
      | .error reason => (disk, .error (cannotRead path reason))
      | .ok agents => (disk, .ok agents)

/-- A row of a snapshot as it is kept. -/
def keptRow (agent key : String) (value : Json) : Disk.Row :=
  ⟨some agent, some key, some value.line⟩

/-- Tries to write a snapshot into a database: the disk that is left, and what went
wrong.  All rows are replaced in one transaction. -/
def writeDatabase (disk : Disk) (path : Disk.Path) (snapshot : Snapshot) :
    Disk × Option Fault :=
  let rows := (Snapshot.rows snapshot).map fun (agent, key, value) => keptRow agent key value
  match disk.openDatabase path with
  | (disk, .error fault) => (disk, some (cannotWrite path fault.message))
  | (disk, .ok db) =>
    match disk.transact db [.deleteAll, .insertAll rows] with
    | (disk, some fault) => (disk, some (cannotWrite path fault.message))
    | (disk, .none) => (disk, .none)

/-- What loading or saving leads to. -/
structure Effect where
  store : Store
  disk : Disk
  done : Bool
  notes : List Line

/-- Report of a failure. -/
def failureNote (archive : Archive) (verb : String) (fault : Fault) : Line :=
  ⟨.error, .store, s!"Failed to {verb} {archive.backend.text} persistence: {fault.message}"⟩

/-- The entries that are kept, and the disk after they have been read. -/
def fetch (archive : Archive) (disk : Disk) :
    Disk × Except Fault (List (Option String × Entries)) :=
  match archive.backend with
  | .memory => (disk, .ok [])
  | .file => (disk, (readFile disk archive.filePath).map Snapshot.agents)
  | .database => readDatabase disk archive.databasePath

/-- Loads the kept entries into a store. -/
def load (archive : Archive) (disk : Disk) (store : Store) : Effect :=
  if archive.backend = .memory then ⟨store, disk, true, []⟩
  else
    match archive.fetch disk with
    | (disk, .error fault) => ⟨store, disk, false, [archive.failureNote "load" fault]⟩
    | (disk, .ok agents) =>
      ⟨store.replace agents, disk, true,
        [⟨.info, .store,
          s!"Loaded context for {agents.length} agents from {archive.backend.text}"⟩]⟩

/-- Tries to write a snapshot to where it is kept: the disk that is left, and what
went wrong. -/
def deposit (archive : Archive) (disk : Disk) (snapshot : Snapshot) : Disk × Option Fault :=
  match archive.backend with
  | .memory => (disk, .none)
  | .file => writeFile disk archive.filePath snapshot
  | .database => writeDatabase disk archive.databasePath snapshot

/-- Saves the entries of a store.  A store without a snapshot is not brought to
the disk at all. -/
def persist (archive : Archive) (disk : Disk) (store : Store) : Effect :=
  if archive.backend = .memory then ⟨store, disk, true, []⟩
  else
    match store.snapshot with
    | .error fault => ⟨store, disk, false, [archive.failureNote "save" fault]⟩
    | .ok snapshot =>
      match archive.deposit disk snapshot with
      | (disk, some fault) => ⟨store, disk, false, [archive.failureNote "save" fault]⟩
      | (disk, .none) =>
        ⟨store, disk, true,
          [⟨.info, .store,
            s!"Saved context for {snapshot.length} agents to {archive.backend.text}"⟩]⟩

end Archive

end PromptDispatch
