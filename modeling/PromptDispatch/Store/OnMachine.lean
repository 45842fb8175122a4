import PromptDispatch.Machine
import PromptDispatch.Store.Archive

/-!
# Keeping and copying entries on a machine

Loading and saving report what goes wrong with files, databases and texts.  What they
are not ready for breaks them off: a value, a text or a chain of missing folders that is
deeper than the machine goes, and a file that it cannot be told of whether it is there.
Nothing has been taken over by then, and nothing but an opened database is new on
the disk.

All entries of an agent are handed out as a copy, which a machine may be unable to make.
-/

namespace PromptDispatch

namespace Store

/-- The entries of a store as one JSON value, their names as texts. -/
def mapping (store : Store) : Json :=
  .obj (store.agents.map fun (agent, entries) =>
    (jsonName agent, .obj (entries.map fun (key, value) => (jsonName key, value))))

/-- Why a machine cannot copy the entries of an agent. -/
def copyFault? (machine : Machine) (store : Store) (agent : Option String) : Option Fault :=
  machine.copyFault? (.obj ((store.getAll agent).map fun (key, value) => (jsonName key, value)))

/-- A copy of all entries of an agent. -/
def copied (machine : Machine) (store : Store) (agent : Option String) : Except Fault Entries :=
  match store.copyFault? machine agent with
  | some fault => .error fault
  | none => .ok (store.getAll agent)

end Store

namespace Archive

/-- How loading or saving is broken off: by a fault, which leaves a disk. -/
structure Crash where
  fault : Fault
  disk : Disk

/-- Why a machine does not get to the end of a row's value. -/
def rowFault? (machine : Machine) (row : Disk.Row) : Option Fault :=
  (row.value.bind fun datum => (textOf datum).toOption).bind machine.readFault?

/-- Why a machine does not get to the end of the rows.  They are read in order, up to
the first one whose value cannot be read. -/
def rowsFault? (machine : Machine) : List Disk.Row → Option Fault
  | [] => .none
  | row :: rows =>
    match rowFault? machine row with
    | some fault => some fault
    | .none =>
      match rowValue row.value with
      | .error _ => .none
      | .ok _ => rowsFault? machine rows

/-- How the reading of a file is broken off. -/
def fileCrash? (machine : Machine) (disk : Disk) (path : Disk.Path) : Option Crash :=
  match disk.look path with
  | .error trouble => some ⟨.foreign trouble.kindName (Disk.Refusal.message ⟨trouble, path⟩), disk⟩
  | .ok false => .none
  | .ok true =>
    match disk.readText path with
    | .error _ => .none
    | .ok text => (machine.readFault? text).map (⟨·, disk⟩)

/-- How the reading of a database is broken off. -/
def databaseCrash? (machine : Machine) (disk : Disk) (path : Disk.Path) : Option Crash :=
  if machine.climbing < disk.rungs path then some ⟨Machine.calling, disk⟩
  else
    match disk.openDatabase path with
    | (_, .error _) => .none
    | (opened, .ok db) =>
      match db.table.readRows with
      | .error _ => .none
      | .ok rows => (rowsFault? machine rows).map (⟨·, opened⟩)

/-- How loading is broken off. -/
def loadCrash? (machine : Machine) (archive : Archive) (disk : Disk) : Option Crash :=
  match archive.backend with
  | .memory => .none
  | .file => fileCrash? machine disk archive.filePath
  | .database => databaseCrash? machine disk archive.databasePath

/-- Loads the kept entries into a store on a machine. -/
def loadOn (machine : Machine) (archive : Archive) (disk : Disk) (store : Store) :
    Except Crash Effect :=
  match archive.loadCrash? machine disk with
  | some crash => .error crash
  | .none => .ok (archive.load disk store)

/-- Why a machine does not get to the end of a store's snapshot, which is printed and
read again. -/
def snapshotFault? (machine : Machine) (store : Store) : Option Fault :=
  match machine.writeFault? store.mapping with
  | some fault => some fault
  | .none =>
    match store.snapshot with
    | .error _ => .none
    | .ok _ => machine.readFault? store.mapping.line

/-- Why a machine does not get to bring a snapshot to the disk. -/
def depositFault? (machine : Machine) (archive : Archive) (disk : Disk) (snapshot : Store.Snapshot) :
    Option Fault :=
  let pageFault? := if archive.backend = .file then machine.pageFault? snapshot.toJson else .none
  match pageFault? with
  | some fault => some fault
  | .none =>
    if machine.climbing < disk.rungs archive.path then some Machine.calling else .none

/-- How saving is broken off. -/
def persistFault? (machine : Machine) (archive : Archive) (disk : Disk) (store : Store) :
    Option Fault :=
  if archive.backend = .memory then .none
  else
    match snapshotFault? machine store with
    | some fault => some fault
    | .none =>
      match store.snapshot with
      | .error _ => .none
      | .ok snapshot => archive.depositFault? machine disk snapshot

/-- Saves the entries of a store on a machine. -/
def persistOn (machine : Machine) (archive : Archive) (disk : Disk) (store : Store) :
    Except Crash Effect :=
  match archive.persistFault? machine disk store with
  | some fault => .error ⟨fault, disk⟩
  | .none => .ok (archive.persist disk store)

end Archive

end PromptDispatch
