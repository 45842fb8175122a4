import PromptDispatch.CommandLine.Page

/-!
# The command line

A call names a command and gives it options and arguments.  Four commands are
known: to list the built-in agents, to dispatch a prompt on the spot, to send a
prompt to a running broker, and to serve as a broker.  Reading a call ends with
a command, with a page to show, or with a refusal.
-/

namespace PromptDispatch.CommandLine

/-- What a call asks for. -/
inductive Command where
  /-- lists the built-in agents -/
  | agents
  /-- dispatches a prompt, and keeps the store afterwards when asked to -/
  | prompt (text : String) (save : Bool)
  /-- sends a prompt to a broker -/
  | send (text url : String) (timeout : Binary64)
  /-- serves as a broker -/
  | serve (host : String) (port : Int) (reload : Bool)
deriving DecidableEq, Repr

/-- Where a broker is looked for when no address is given. -/
def standardBroker : String := String.intercalate "/" ["http:", "", "127.0.0.1:8000"]

/-- The option that every form has. -/
def helpChoice : Choice := ⟨"--help", .flag, "Show this message and exit."⟩

/-- The option that asks for the version. -/
def versionChoice : Choice := ⟨"--version", .flag, "Show the version and exit."⟩

/-- The form of the call as a whole. -/
def overview : Form where
  call := "codeorbit"
  about :=
    ["CodeOrbit - route prompts to specialized agents.", "",
     "Prompts are sanitized, matched against a keyword routing table and dispatched",
     "to the registered agents in parallel."]
  options := [versionChoice, helpChoice]
  arguments := ["COMMAND", "[ARGS]..."]
  mixed := false

/-- The form for listing agents. -/
def agentsForm : Form where
  call := "codeorbit agents"
  about := ["List the built-in agents and their capabilities."]
  options := [helpChoice]
  arguments := []

/-- The form for dispatching a prompt. -/
def promptForm : Form where
  call := "codeorbit prompt"
  about :=
    ["Dispatch a prompt in-process and print the aggregated output.", "", "Example:",
     "    codeorbit prompt \"build a login page and its api\""]
  options := [⟨"--save", .flag, "Persist context memory after the run"⟩, helpChoice]
  arguments := ["TEXT"]

/-- The form for sending a prompt. -/
def sendForm : Form where
  call := "codeorbit send"
  about :=
    ["Send a prompt to a running broker.", "", "Example:",
     "    codeorbit send \"write the readme\" --url " ++
       String.intercalate "/" ["http:", "", "localhost:8000"]]
  options :=
    [⟨"--url", .text, "Broker base URL"⟩,
     ⟨"--timeout", .real, "Request timeout in seconds"⟩, helpChoice]
  arguments := ["TEXT"]

/-- The form for serving. -/
def serveForm : Form where
  call := "codeorbit serve"
  about := ["Start the CodeOrbit HTTP broker server."]
  options :=
    [⟨"--port", .whole, "Port to run the broker on"⟩, ⟨"--host", .text, "Host to bind to"⟩,
     ⟨"--reload", .flag, "Enable auto-reload for development"⟩, helpChoice]
  arguments := []

/-- A command's name, its form, and what its answers ask for. -/
structure Entry where
  name : String
  form : Form
  build : Answers → Command

/-- The commands in alphabetical order. -/
def commands : List Entry :=
  [⟨"agents", agentsForm, fun _ => .agents⟩,
   ⟨"prompt", promptForm, fun a => .prompt (a.argument 0) (a.isOn "--save")⟩,
   ⟨"send", sendForm, fun a =>
     .send (a.argument 0) (a.textOr "--url" standardBroker)
       (a.realOr "--timeout" (Binary64.ofInt 30))⟩,
   ⟨"serve", serveForm, fun a =>
     .serve (a.textOr "--host" "127.0.0.1") (a.wholeOr "--port" 8000) (a.isOn "--reload")⟩]

/-- The page of the call as a whole: its form and the commands. -/
def overviewPage : String :=
  unlines (overview.lines ++ ["", "Commands:"] ++
    columns (commands.map fun entry => (entry.name, entry.form.summary)))

/-- The version, as it is told. -/
def versionPage : String := "codeorbit, version 0.1.0\n"

/-- What reading a call ends with. -/
inductive Reading where
  /-- a page was asked for -/
  | page (text : String)
  /-- nothing was asked for -/
  | nothing
  /-- the call is refused by a form -/
  | refused (form : Form) (refusal : Refusal)
  /-- a command was asked for -/
  | command (command : Command)

/-- The page that options ask for; of two the one named first. -/
def pageFor? (page : String) (found : Found) : Option Reading :=
  (found.firstOf? [helpChoice.name, versionChoice.name]).map fun name =>
    .page (if name = versionChoice.name then versionPage else page)

/-- Reads the call of a command. -/
def Entry.read (entry : Entry) (arguments : List String) : Reading :=
  match entry.form.find arguments with
  | .error refusal => .refused entry.form refusal
  | .ok found =>
    match pageFor? entry.form.page found with
    | some page => page
    | none =>
      match entry.form.answers found with
      | .error refusal => .refused entry.form refusal
      | .ok answers => .command (entry.build answers)

/-- Reads options of the call as a whole, and the rest by the given reading. -/
def readOverview (arguments : List String) (others : List String → Reading) : Reading :=
  match overview.find arguments with
  | .error refusal => .refused overview refusal
  | .ok found =>
    match pageFor? overviewPage found with
    | some page => page
    | none => others found.others

/-- The reading of a name that no command has.  After two dashes it may be an
option of the call as a whole. -/
def readUnknown (name : String) (rest : List String) : Reading :=
  readOverview (name :: rest) fun _ =>
    .refused overview (.unknownCommand name (Text.closest name (commands.map (·.name))))

/-- Reads the name of a command and its call. -/
def readCommand : List String → Reading
  | [] => .refused overview .missingCommand
  | name :: rest =>
    match commands.find? fun entry => entry.name = name with
    | some entry => entry.read rest
    | none => readUnknown name rest

/-- Reads a call. -/
def read (arguments : List String) : Reading :=
  if arguments.isEmpty then .nothing else readOverview arguments readCommand

end PromptDispatch.CommandLine
