import PromptDispatch.Disk.Path
import PromptDispatch.Keyed
import PromptDispatch.Text.Quoted
import PromptDispatch.Text.Utf8

/-!
# The disk

Files and folders by their place.  A file holds text, raw bytes, or a database,
which is at most one table of context rows; a table of that name with other
columns is all that is known of any other schema.  A table with the context columns
may have a rule by which it refuses what is written to it; none that changes rows on
their way in.

A place is a list of names from the working folder or from the root.  The working
folder, the folders above it and the root always exist.  Places may be closed: nobody
passes through a closed folder, and a closed file can be neither read nor written.
A disk may be short of room; a text that it has no room for is written as far as it
goes.
-/

namespace PromptDispatch.Disk

/-- What a column of values holds, other than nothing. -/
inductive Datum where
  | text (s : String)
  /-- raw bytes that encode a text -/
  | encoded (s : String)
  /-- raw bytes that encode no text, and why -/
  | unencoded (reason : String)
  /-- a number, by the name of its kind -/
  | number (kind : String)
  /-- a text whose bytes are wrong, as it is shown -/
  | garbled (shown : String)
deriving DecidableEq, Repr

instance : Coe String Datum := ⟨.text⟩

/-- A row of the context table; every column may hold nothing.  Agents and keys are
texts where they are there. -/
structure Row where
  agent : Option String
  key : Option String
  value : Option Datum
deriving DecidableEq, Repr

/-- Why a table refuses to let its rows be deleted, and to let a row be inserted after
those it has; nothing where it does not refuse. -/
structure Rule where
  clearing : List Row → Option String
  adding : List Row → Row → Option String

/-- The table a database holds. -/
inductive Table where
  /-- a table with the three context columns, its rows in order -/
  | context (rows : List Row)
  /-- such a table that has a rule for what is written to it -/
  | ruled (rows : List Row) (rule : Rule)
  /-- a table of the same name with other columns -/
  | other

/-- What stands at a place. -/
inductive Entry where
  | folder
  | text (s : String)
  | bytes (bs : List UInt8)
  | database (table : Option Table)

end Disk

/-- Entries by place, and the places that are closed. -/
structure Disk where
  entries : List (List String × Disk.Entry)
  closed : List (List String) := []
  /-- most bytes that a text may be written with, when the disk is short of room -/
  room : Option Nat := none

namespace Disk

/-- A disk with nothing but the folders that always exist. -/
def empty : Disk := { entries := [] }

instance : Inhabited Disk := ⟨empty⟩

/-- Why the disk refuses an operation. -/
inductive Trouble where
  | missing
  | denied
  | exists
  | notFolder
  | isFolder
  | full
  | tooLong
deriving DecidableEq, Repr

/-- Number and wording of a trouble. -/
def Trouble.wording : Trouble → String
  | .missing => "[Errno 2] No such file or directory"
  | .denied => "[Errno 13] Permission denied"
  | .exists => "[Errno 17] File exists"
  | .notFolder => "[Errno 20] Not a directory"
  | .isFolder => "[Errno 21] Is a directory"
  | .full => "[Errno 28] No space left on device"
  | .tooLong => "[Errno 36] File name too long"

/-- Name of a trouble's kind. -/
def Trouble.kindName : Trouble → String
  | .missing => "FileNotFoundError"
  | .denied => "PermissionError"
  | .exists => "FileExistsError"
  | .notFolder => "NotADirectoryError"
  | .isFolder => "IsADirectoryError"
  | .full | .tooLong => "OSError"

/-- A trouble and the path it arose at. -/
structure Refusal where
  trouble : Trouble
  path : Path
deriving DecidableEq, Repr

/-- Message of a refusal.  A path is told where it was the path that was refused. -/
def Refusal.message (r : Refusal) : String :=
  match r.trouble with
  | .full => r.trouble.wording
  | _ => r.trouble.wording ++ ": " ++ Text.quoted r.path.text

/-- The place of the root. -/
def root : List String := ["/"]

/-- The step to the folder above. -/
def upward : String := ".."

/-- Whether a place is the working folder or lies on the way up from it. -/
def isAbove (place : List String) : Bool := place.all (· == upward)

/-- Whether a folder always exists at a place. -/
def isGiven (place : List String) : Bool := isAbove place || place == root

/-- Entry at a place. -/
def at? (disk : Disk) (place : List String) : Option Entry :=
  if isGiven place then some .folder else Keyed.get? place disk.entries

/-- Whether a place is closed. -/
def isClosed (disk : Disk) (place : List String) : Bool := disk.closed.contains place

/-- Puts an entry at a place. -/
def put (disk : Disk) (place : List String) (entry : Entry) : Disk :=
  { disk with entries := Keyed.put place entry disk.entries }

/-- Most bytes of a name. -/
def nameLimit : Nat := 255

/-- Most bytes of a path. -/
def pathLimit : Nat := 4095

/-- The place one step away.  The root is the folder above itself. -/
def stepFrom (place : List String) (step : String) : List String :=
  if step = upward then
    if isAbove place then place ++ [upward]
    else if place = root then place
    else place.dropLast
  else place ++ [step]

/-- Why a folder cannot be left by a step. -/
def barred? (disk : Disk) (place : List String) (step : String) : Option Trouble :=
  match disk.at? place with
  | none => some .missing
  | some .folder =>
    if disk.isClosed place then some .denied
    else if nameLimit < step.utf8ByteSize then some .tooLong
    else none
  | some _ => some .notFolder

/-- Walks steps from a place; every step has to leave a folder. -/
def walk (disk : Disk) : List String → List String → Except Trouble (List String)
  | place, [] => .ok place
  | place, step :: steps =>
    match disk.barred? place step with
    | some trouble => .error trouble
    | none => walk disk (stepFrom place step) steps

/-- The place where a path begins, and the steps from there. -/
def Path.start (path : Path) : List String × List String :=
  match path.root, path.steps with
  | 0, step :: steps => ([], if step = workingFolder then steps else step :: steps)
  | 0, [] => ([], [])
  | _, steps => (Disk.root, steps)

/-- The place a path leads to, whether or not something stands there. -/
def place (disk : Disk) (path : Path) : Except Trouble (List String) :=
  if pathLimit < path.text.utf8ByteSize then .error .tooLong
  else disk.walk path.start.1 path.start.2

/-- What stands where a path leads, when it can be looked into. -/
def find (disk : Disk) (path : Path) : Except Trouble Entry := do
  let place ← disk.place path
  if disk.isClosed place then throw .denied
  match disk.at? place with
  | some entry => return entry
  | none => throw .missing

/-- Whether something stands where a path leads, when that can be told. -/
def look (disk : Disk) (path : Path) : Except Trouble Bool :=
  match disk.place path with
  | .error .missing | .error .notFolder => .ok false
  | .error trouble => .error trouble
  | .ok place => .ok (disk.at? place).isSome

/-- Whether something is known to stand where a path leads. -/
def contains (disk : Disk) (path : Path) : Bool :=
  match disk.look path with
  | .ok stands => stands
  | .error _ => false

/-- Why a text file could not be read. -/
inductive ReadFault where
  | disk (refusal : Refusal)
  | encoding (fault : Text.Utf8Fault)
deriving DecidableEq, Repr

/-- Name of a failed reading's kind. -/
def ReadFault.kindName : ReadFault → String
  | .disk refusal => refusal.trouble.kindName
  | .encoding _ => "UnicodeDecodeError"

/-- Message of a failed reading. -/
def ReadFault.message : ReadFault → String
  | .disk refusal => refusal.message
  | .encoding fault => fault.message

/-- Text of a file, with unified line ends. -/
def readText (disk : Disk) (path : Path) : Except ReadFault String :=
  match disk.find path with
  | .error trouble => .error (.disk ⟨trouble, path⟩)
  | .ok .folder => .error (.disk ⟨.isFolder, path⟩)
  | .ok (.text s) => .ok (String.ofList (Text.unifyLineEnds s.toList))
  | .ok (.bytes bs) =>
    match Text.decodeUtf8 bs with
    | .ok s => .ok (String.ofList (Text.unifyLineEnds s.toList))
    | .error fault => .error (.encoding fault)
  | .ok (.database _) => .ok "SQLite format 3"

/-- Makes one folder, content with one that is there already. -/
def makeFolder (disk : Disk) (path : Path) : Except Refusal Disk :=
  match disk.place path with
  | .error trouble => .error ⟨trouble, path⟩
  | .ok place =>
    match disk.at? place with
    | none => .ok (disk.put place .folder)
    | some .folder => .ok disk
    | some _ => .error ⟨.exists, path⟩

/-- Tries to make one folder: the disk that is left, and what was refused. -/
def tryFolder (disk : Disk) (path : Path) : Disk × Option Refusal :=
  match disk.makeFolder path with
  | .ok disk => (disk, none)
  | .error refusal => (disk, some refusal)

/-- Tries to make a folder and the folders above it.  Folders that were made
before a refusal stay.  The count bounds the folders above. -/
def tryFolders (disk : Disk) : Nat → Path → Disk × Option Refusal
  | 0, path => disk.tryFolder path
  | above + 1, path =>
    match disk.tryFolder path with
    | (disk, some ⟨.missing, _⟩) =>
      match disk.tryFolders above path.parent with
      | (disk, none) => disk.tryFolder path
      | refused => refused
    | attempt => attempt

/-- Number of the folders that are missing one above the other, from a folder on. -/
def missingFolders (disk : Disk) : Nat → Path → Nat
  | 0, _ => 0
  | above + 1, path =>
    match disk.tryFolder path with
    | (_, some ⟨.missing, _⟩) => disk.missingFolders above path.parent + 1
    | _ => 0

/-- Number of the folders that are missing above the folder a path lies in. -/
def rungs (disk : Disk) (path : Path) : Nat :=
  disk.missingFolders path.steps.length path.parent

/-- Tries to make the folder a path lies in. -/
def approach (disk : Disk) (path : Path) : Disk × Option Refusal :=
  disk.tryFolders path.steps.length path.parent

/-- Makes the folder a path lies in. -/
def makeParent (disk : Disk) (path : Path) : Except Refusal Disk :=
  match disk.approach path with
  | (disk, none) => .ok disk
  | (_, some refusal) => .error refusal

/-- The characters of a text that a number of bytes has room for. -/
def beginning : Nat → List Char → List Char
  | _, [] => []
  | room, c :: cs =>
    if c.utf8Size ≤ room then c :: beginning (room - c.utf8Size) cs else []

/-- Whether a disk has no room for a text. -/
def lacksRoom (disk : Disk) (s : String) : Bool := disk.room.any (· < s.utf8ByteSize)

/-- What a disk has room for of a text. -/
def cut (disk : Disk) (s : String) : String :=
  match disk.room with
  | none => s
  | some room => String.ofList (beginning room s.toList)

/-- Tries to write a text file: the disk that is left, and what was refused.  What
stood there is gone once writing has begun. -/
def writeText (disk : Disk) (path : Path) (s : String) : Disk × Option Refusal :=
  match disk.place path with
  | .error trouble => (disk, some ⟨trouble, path⟩)
  | .ok place =>
    if disk.isClosed place then (disk, some ⟨.denied, path⟩)
    else
      match disk.at? place with
      | some .folder => (disk, some ⟨.isFolder, path⟩)
      | _ =>
        if disk.lacksRoom s then (disk.put place (.text (disk.cut s)), some ⟨.full, path⟩)
        else (disk.put place (.text s), none)

/-- Puts an entry where a path leads and makes the folders above it; where that
is refused, the disk stays. -/
def provide (disk : Disk) (path : Path) (entry : Entry) : Disk :=
  match disk.makeParent path with
  | .error _ => disk
  | .ok disk =>
    match disk.place path with
    | .error _ => disk
    | .ok place => if isGiven place then disk else disk.put place entry

end Disk

end PromptDispatch
