import PromptDispatch.Configuration.EnvFile
import PromptDispatch.Field.Form
import PromptDispatch.Route.Builtin
import PromptDispatch.Route.File
import PromptDispatch.Store.Archive
import PromptDispatch.Unicode.Case

/-!
# Configuration

What a dispatcher is wired from.  Every field has a name of its own and the
name of an environment variable, and is taken from the first of these that has
it: the given values, the environment, the environment file, the standard
value.  Letter case does not matter in the environment, and empty values count
as missing there.

A routes file replaces the built-in routes; it is read once all fields are
known to be good.

Finding the value of a field is left to pydantic-settings, which is not part of the
program.  What is assumed of it is what it documents: the order of the places it looks in,
that letter case does not matter in the environment and that empty values can count as
missing.
-/

namespace PromptDispatch

/-- What a dispatcher is wired from. -/
structure Configuration where
  backend : Archive.Backend
  filePath : Disk.Path
  databasePath : Disk.Path
  entries : Int
  prompts : Int
  throttleMillis : Int
  defaultAgent : String
  routesPath : Option Disk.Path
  routes : List Route

namespace Configuration

/-- Where values come from. -/
structure Sources where
  given : List (String × Json)
  environment : List (String × String)
  file : List EnvFile.Binding

/-- Bindings without those to the empty text, under names in lower case.  Of two
that share a name the later one counts, also when it has no value. -/
def usable (bindings : List EnvFile.Binding) : List (String × Option String) :=
  Keyed.ofPairs (bindings.filterMap fun (name, value) =>
    if value = some "" then none else some (Unicode.lowerText name, value))

/-- Value of a field among bindings. -/
def boundValue? (envName name : String) (bindings : List EnvFile.Binding) : Option String :=
  let values := usable bindings
  (Keyed.get? (Unicode.lowerText envName) values).join.or (Keyed.get? name values).join

/-- Value of a field, and the name it is reported under. -/
def Sources.value? (sources : Sources) (envName name : String) : Option (String × Json) :=
  match Keyed.get? envName sources.given, Keyed.get? name sources.given with
  | some v, _ => some (envName, v)
  | none, some v => some (name, v)
  | none, none =>
    let environment := sources.environment.map fun (n, v) => (n, some v)
    ((boundValue? envName name environment).or
      (boundValue? envName name sources.file)).map fun v => (envName, .str v)

/-- Reads a field. -/
def field {α : Type} (sources : Sources) (envName name : String) (standard : α)
    (check : Json → Except Field.Cause α) : Except (List Field.Issue) α :=
  match sources.value? envName name with
  | none => .ok standard
  | some (place, v) =>
    match check v with
    | .ok a => .ok a
    | .error cause => .error [⟨[place], cause, v⟩]

/-- Drops blanks at both ends and capital letters. -/
def normalName (s : String) : String :=
  Unicode.lowerText (String.ofList (Text.trimBlanks s.toList))

/-- The backend a value names. -/
def backendValue (v : Json) : Except Field.Cause Archive.Backend :=
  let found := match v with
    | .str s => Archive.Backend.ofString? (normalName s)
    | _ => none
  match found with
  | some backend => .ok backend
  | none => .error (.notAmong "'memory', 'file' or 'database'")

/-- A path. -/
def pathValue : Json → Except Field.Cause Disk.Path
  | .str s => .ok (Disk.Path.ofString s)
  | _ => .error .notPath

/-- A path or nothing. -/
def optionalPath : Json → Except Field.Cause (Option Disk.Path)
  | .null => .ok none
  | v => (pathValue v).map some

/-- A whole number above a bound. -/
def wholeAbove (bound : Int) (v : Json) : Except Field.Cause Int := do
  let n ← Field.whole v
  if bound < n then return n else throw (.notAbove bound)

/-- A whole number from a bound on. -/
def wholeFrom (bound : Int) (v : Json) : Except Field.Cause Int := do
  let n ← Field.whole v
  if bound ≤ n then return n else throw (.below bound)

/-- The fields of a configuration, with the built-in routes. -/
def fields (sources : Sources) : Except (List Field.Issue) Configuration :=
  let reading :=
    Field.both (field sources "CONTEXT_PERSISTENCE" "persistence" .memory backendValue) <|
    Field.both (field sources "CONTEXT_FILE_PATH" "file_path" Archive.standardFile pathValue) <|
    Field.both (field sources "CONTEXT_DB_PATH" "db_path" Archive.standardDatabase pathValue) <|
    Field.both (field sources "CODEORBIT_MAX_ENTRIES" "max_entries_per_agent" 100
      (wholeAbove 0)) <|
    Field.both (field sources "CODEORBIT_HISTORY_SIZE" "history_size" 5 (wholeAbove 0)) <|
    Field.both (field sources "CODEORBIT_RATE_LIMIT_MS" "rate_limit_ms" 1000 (wholeFrom 0)) <|
    Field.both (field sources "CODEORBIT_DEFAULT_AGENT" "default_agent" Route.defaultAgent
      (Field.textFrom 1)) <|
    field sources "CODEORBIT_ROUTES_PATH" "routes_path" none optionalPath
  reading.map fun (backend, filePath, databasePath, entries, prompts, throttleMillis,
      defaultAgent, routesPath) =>
    { backend, filePath, databasePath, entries, prompts, throttleMillis, defaultAgent
      routesPath, routes := Route.builtin }

/-- Why there is no configuration. -/
inductive Trouble where
  /-- the environment file is no text -/
  | encoding (fault : Text.Utf8Fault)
  /-- fields have issues -/
  | fields (report : Field.Report)
  /-- a pattern in the routes file has a count beyond all bounds -/
  | count (fault : Route.Fault)

/-- A trouble as a fault. -/
def Trouble.toFault : Trouble → Fault
  | .encoding fault => .foreign "UnicodeDecodeError" fault.message
  | .fields report => .invalid report
  | .count fault => .foreign "OverflowError" fault.message

/-- A trouble with the configuration as a whole. -/
def whole (reason : String) : Trouble :=
  .fields ⟨"Settings", [⟨[], .rejected reason, .obj []⟩]⟩

/-- What a fault of the routes file means. -/
def routesTrouble (path : Disk.Path) (fault : Route.FileFault) : Trouble :=
  match fault with
  | .read (.disk refusal) =>
    whole ("cannot read routes file " ++ path.text ++ ": " ++ refusal.message)
  | .route _ (.pattern text patternFault) =>
    match patternFault.kind with
    | .count => .count (.pattern text patternFault)
    | _ => whole fault.message
  | _ => whole fault.message

/-- Name of the environment file. -/
def environmentFile : Disk.Path := .ofString ".env"

/-- The bindings of the environment file; a file that is missing has none. -/
def readEnvironmentFile (disk : Disk) (environment : List (String × String)) :
    Except Text.Utf8Fault (List EnvFile.Binding) :=
  match disk.readText environmentFile with
  | .ok text => .ok (EnvFile.read environment text)
  | .error (.encoding fault) => .error fault
  | .error (.disk _) => .ok []

/-- Reads a configuration. -/
def read (disk : Disk) (environment : List (String × String))
    (given : List (String × Json)) : Except Trouble Configuration :=
  match readEnvironmentFile disk environment with
  | .error fault => .error (.encoding fault)
  | .ok file =>
    match fields ⟨given, environment, file⟩ with
    | .error issues => .error (.fields ⟨"Settings", issues⟩)
    | .ok configuration =>
      match configuration.routesPath with
      | none => .ok configuration
      | some path =>
        match Route.load disk path with
        | .ok routes => .ok { configuration with routes }
        | .error fault => .error (routesTrouble path fault)

/-- The throttle window in seconds. -/
def window (configuration : Configuration) : Except Fault Binary64 :=
  match Binary64.ofRatio false configuration.throttleMillis.toNat 1000 with
  | .infinite _ =>
    .error (.foreign "OverflowError" "integer division result too large for a float")
  | window => .ok window

end Configuration

end PromptDispatch
