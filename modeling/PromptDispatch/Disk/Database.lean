import PromptDispatch.Disk.Basic

/-!
# Databases on the disk

A database file holds at most one table of context rows.  An empty file is a
database without a table; any other file that is not a database is refused.
Opening a database makes its folder, the file and the table where they are
missing.  A table with a rule may refuse what is written to it.

The path `:memory:` is no file: every opening of it begins a database that is gone
when it is closed.
-/

namespace PromptDispatch.Disk

/-- Why a database refuses an operation. -/
inductive DatabaseFault where
  /-- the folder cannot be made -/
  | disk (refusal : Refusal)
  | notOpened
  | notDatabase
  /-- the table lacks a column that is read -/
  | noColumn
  /-- the table lacks a column that is written -/
  | noSuchField
  /-- a value is a text whose bytes are wrong -/
  | undecodable (shown : String)
  /-- the table has a rule against it -/
  | refused (message : String)
deriving DecidableEq, Repr

/-- Message of a database's fault. -/
def DatabaseFault.message : DatabaseFault → String
  | .disk refusal => refusal.message
  | .notOpened => "unable to open database file"
  | .notDatabase => "file is not a database"
  | .noColumn => "no such column: agentId"
  | .noSuchField => "table context has no column named agentId"
  | .undecodable shown => "Could not decode to UTF-8 column 'value' with text '" ++ shown ++ "'"
  | .refused message => message

/-- The table a file holds as a database, when it is one. -/
def Entry.table? : Entry → Option (Option Table)
  | .database table => some table
  | .text "" => some none
  | .bytes [] => some none
  | _ => none

/-- A database that has just begun. -/
def newDatabase : Entry := .database (some (.context []))

/-- A path whose database lasts only as long as it is open. -/
def Path.isTransient (path : Path) : Bool := path.text == ":memory:"

/-- An open database: its place, unless it is gone when it is closed, and its table. -/
structure OpenDatabase where
  place : Option (List String)
  table : Table

/-- Tries to open the database at a place: the disk that is left, and the database
or what went wrong. -/
def openAt (disk : Disk) (place : List String) : Disk × Except DatabaseFault OpenDatabase :=
  if disk.isClosed place then (disk, .error .notOpened)
  else
    match disk.at? place with
    | some .folder => (disk, .error .notOpened)
    | none => (disk.put place newDatabase, .ok ⟨some place, .context []⟩)
    | some entry =>
      match entry.table? with
      | none => (disk, .error .notDatabase)
      | some (some table) => (disk, .ok ⟨some place, table⟩)
      | some none => (disk.put place newDatabase, .ok ⟨some place, .context []⟩)

/-- Tries to open the database at a path: the disk that is left, and the database
or what went wrong. -/
def openDatabase (disk : Disk) (path : Path) : Disk × Except DatabaseFault OpenDatabase :=
  match disk.approach path with
  | (disk, some refusal) => (disk, .error (.disk refusal))
  | (disk, none) =>
    if path.isTransient then (disk, .ok ⟨none, .context []⟩)
    else
      match disk.place path with
      | .error _ => (disk, .error .notOpened)
      | .ok place => disk.openAt place

/-- The rows of a table that has the context columns. -/
def Table.rows? : Table → Option (List Row)
  | .context rows => some rows
  | .ruled rows _ => some rows
  | .other => none

/-- How a value is shown whose bytes are wrong. -/
def Row.garbled? (row : Row) : Option String :=
  match row.value with
  | some (.garbled shown) => some shown
  | _ => none

/-- Reads all rows in order. -/
def Table.readRows (table : Table) : Except DatabaseFault (List Row) :=
  match table.rows? with
  | none => .error .noColumn
  | some rows =>
    match rows.findSome? Row.garbled? with
    | some shown => .error (.undecodable shown)
    | none => .ok rows

/-- A statement that writes to the table. -/
inductive Statement where
  | deleteAll
  | insertAll (rows : List Row)

/-- The rows of a table with a rule after a row was inserted. -/
def Rule.add (rule : Rule) (kept : List Row) (row : Row) : Except DatabaseFault (List Row) :=
  match rule.adding kept row with
  | none => .ok (kept ++ [row])
  | some message => .error (.refused message)

/-- The table after a statement.  Deleting asks for no column; inserting asks for
the context columns before it looks at the rows. -/
def Statement.run : Statement → Table → Except DatabaseFault Table
  | .deleteAll, .context _ => .ok (.context [])
  | .deleteAll, .ruled kept rule =>
    match rule.clearing kept with
    | none => .ok (.ruled [] rule)
    | some message => .error (.refused message)
  | .deleteAll, .other => .ok .other
  | .insertAll rows, .context kept => .ok (.context (kept ++ rows))
  | .insertAll rows, .ruled kept rule => (rows.foldlM rule.add kept).map (.ruled · rule)
  | .insertAll _, .other => .error .noSuchField

/-- The disk once the table of an open database is another one. -/
def keep (disk : Disk) (db : OpenDatabase) (table : Table) : Disk :=
  match db.place with
  | none => disk
  | some place => disk.put place (.database (some table))

/-- Runs statements in one transaction: the disk that is left, and what went wrong.
A statement that fails undoes those before it. -/
def transact (disk : Disk) (db : OpenDatabase) (statements : List Statement) :
    Disk × Option DatabaseFault :=
  match statements.foldlM (fun table statement => statement.run table) db.table with
  | .ok table => (disk.keep db table, none)
  | .error fault => (disk, some fault)

/-- The context rows at a path, when there is a database with such a table. -/
def rowsAt? (disk : Disk) (path : Path) : Option (List Row) :=
  match disk.find path with
  | .ok (.database (some table)) => table.rows?
  | _ => none

/-- Adds rows to the context table at a path, which is made when missing. -/
def addRows (disk : Disk) (path : Path) (rows : List Row) : Disk :=
  match disk.openDatabase path with
  | (opened, .ok db) =>
    match opened.transact db [.insertAll rows] with
    | (after, none) => after
    | (_, some _) => disk
  | (_, .error _) => disk

/-- Makes a table with other columns at a path. -/
def addOtherTable (disk : Disk) (path : Path) : Disk :=
  disk.provide path (.database (some .other))

end PromptDispatch.Disk
