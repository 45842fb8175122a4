import PromptDispatch.Session.Basic

/-!
# Setting up a store

A store is set up from the bounds, the name of a backend, and the paths of the
file and the database; an empty path stands for the standard one.  The bounds
are checked first, then the backend.
-/

namespace PromptDispatch

/-- What a store is set up from. -/
structure Setup where
  entries : Int := 100
  prompts : Int := 5
  backend : Json := .str "memory"
  filePath : String := ""
  databasePath : String := ""

namespace Setup

/-- The path of a text, or the standard path for the empty text. -/
def pathOr (standard : Disk.Path) (text : String) : Disk.Path :=
  if text = "" then standard else Disk.Path.ofString text

/-- The backend of a value. -/
def backendOf (value : Json) : Except Fault Archive.Backend :=
  let found := match value with
    | .str name => Archive.Backend.ofString? name
    | _ => none
  match found with
  | some backend => .ok backend
  | none => .error (.badValue (value.literal ++ " is not a valid PersistenceMode"))

/-- Refuses a number of prompts that is beyond all bounds. -/
def checkPrompts (limits : Store.Limits) : Except Fault Unit :=
  if Store.Limits.mostPrompts < limits.prompts then
    .error (.foreign "OverflowError" "Python int too large to convert to C ssize_t")
  else .ok ()

/-- A new store and its archive. -/
def make (setup : Setup) : Except Fault (Store × Archive) := do
  let limits ← Store.Limits.make setup.entries setup.prompts
  let backend ← backendOf setup.backend
  checkPrompts limits
  return (Store.empty limits,
    { backend
      filePath := pathOr Archive.standardFile setup.filePath
      databasePath := pathOr Archive.standardDatabase setup.databasePath })

end Setup

namespace Session

/-- A session at its beginning. -/
def fresh (store : Store) (archive : Archive) (disk : Disk) (window clock : Binary64) :
    Session where
  clock := clock
  throttle := .fresh window
  store := store
  archive := archive
  disk := disk
  roster := .empty
  runs := []
  events := []
  journal := []

/-- Registers agents in order, up to the first fault. -/
def registerAll : List Agent → Session → Except Fault Session
  | [], s => .ok s
  | agent :: agents, s =>
    match s.register agent with
    | .ok s => registerAll agents s
    | .error fault => .error fault

end Session

end PromptDispatch
