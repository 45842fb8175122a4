import PromptDispatch.CommandLine.Run

/-!
# The program

The outer layer of the command line.  It fetches the environment and the files
that a configuration can name, runs the command, writes back the text files
that changed, and prints.

It has no network and no database engine of its own: a broker is reported as
unreachable, serving is refused, and a store that should be kept in a database
is reported as not kept.
-/

namespace PromptDispatch.CommandLine

/-- The variables a configuration is read from. -/
def variableNames : List String :=
  ["CONTEXT_PERSISTENCE", "CONTEXT_FILE_PATH", "CONTEXT_DB_PATH", "CODEORBIT_MAX_ENTRIES",
   "CODEORBIT_HISTORY_SIZE", "CODEORBIT_RATE_LIMIT_MS", "CODEORBIT_DEFAULT_AGENT",
   "CODEORBIT_ROUTES_PATH"]

/-- The words of an environment file that may be names of variables. -/
def words (text : String) : List String :=
  ((text.splitToList fun c => !(c.isAlphanum || c = '_')).filter (· ≠ "")).eraseDups

/-- The values of variables that are set. -/
def fetchVariables : List String → IO (List (String × String))
  | [] => return []
  | name :: names => do
    let rest ← fetchVariables names
    match ← IO.getEnv name with
    | some value => return (name, value) :: rest
    | none => return rest

/-- The bytes of a file that can be read. -/
def fetchFile (name : String) : IO (Option ByteArray) := do
  try
    return some (← IO.FS.readBinFile name)
  catch _ => return none

/-- A disk with the files that can be read. -/
def fetchDisk : List String → IO Disk
  | [] => return Disk.empty
  | name :: names => do
    let disk ← fetchDisk names
    match ← fetchFile name with
    | some bytes => return disk.provide (Disk.Path.ofString name) (.bytes bytes.toList)
    | none => return disk

/-- Names of the files that a configuration may speak of: every value may be
one. -/
def fileNames (environment : List (String × String)) (file : Disk) : List String :=
  let bindings :=
    match Configuration.readEnvironmentFile file environment with
    | .ok bindings => bindings.filterMap (·.2)
    | .error _ => []
  ([".env", "context-memory.json", "context-memory.sqlite"] ++
    environment.map (·.2) ++ bindings).eraseDups

/-- The text that was written to a file, if it was. -/
def written? (disk : Disk) (name : String) : Option String :=
  match disk.find (Disk.Path.ofString name) with
  | .ok (.text s) => some s
  | _ => none

/-- Writes back the files that were written. -/
def keepFiles (disk : Disk) : List String → IO Unit
  | [] => return ()
  | name :: names => do
    if let some text := written? disk name then
      IO.FS.createDirAll (Disk.Path.ofString name).parent.text
      IO.FS.writeFile name text
    keepFiles disk names

/-- Whether a database was made on a disk. -/
def hasDatabase (disk : Disk) : Bool :=
  disk.entries.any fun (_, entry) =>
    match entry with
    | .database _ => true
    | _ => false

/-- The time in seconds. -/
def now : IO Binary64 :=
  return Binary64.ofRatio false (← IO.monoNanosNow) (Nat.pow 10 9)

/-- Dispatches a prompt with the files and variables that are there. -/
def dispatchHere (text : String) (save : Bool) : IO Ending := do
  let file ← fetchDisk [".env"]
  let known := match file.readText Configuration.environmentFile with
    | .ok text => words text
    | .error _ => []
  let environment ← fetchVariables (variableNames ++ known).eraseDups
  let names := fileNames environment file
  let disk ← fetchDisk names
  let (disk, ending) := runPrompt text save disk environment (← now)
  keepFiles disk names
  if save && hasDatabase disk then
    return ⟨1, ending.output ++ errorLine "Failed to persist context memory", ending.fault⟩
  return ending

/-- Runs a command. -/
def run : Command → IO Ending
  | .agents => return .done agentsPage
  | .prompt text save => dispatchHere text save
  | .send _ url _ => return conclude url (.error "there is no network")
  | .serve host port _ =>
    return ⟨1, servePage host port ++ errorLine "there is no network", none⟩

/-- Prints an ending and tells its exit code. -/
def finish (ending : Ending) : IO UInt32 := do
  if ending.code = 0 then IO.print ending.output else IO.eprint ending.output
  if let some fault := ending.fault then
    IO.eprintln (fault.kindName ++ ": " ++ fault.message)
  return UInt32.ofNat ending.code

/-- Reads a call and runs it. -/
def perform (arguments : List String) : IO UInt32 :=
  let reading := read arguments
  match reading.ending?, reading with
  | some ending, _ => finish ending
  | none, .command command => do finish (← run command)
  | none, _ => return 1

end PromptDispatch.CommandLine

/-- The program. -/
def main (arguments : List String) : IO UInt32 :=
  PromptDispatch.CommandLine.perform arguments
