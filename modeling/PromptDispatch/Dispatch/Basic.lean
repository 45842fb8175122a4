import PromptDispatch.Dispatch.Chain
import PromptDispatch.Prompt.Sanitize
import PromptDispatch.Route.Builtin

/-!
# Dispatching prompts

A prompt passes the throttle, is sanitized and recorded, and is broken into one
subtask for every agent it is routed to.  The subtasks run as a batch, each
with a chain of its own.  The answer has one line for every agent that said
something, in the order of the subtasks; the agent's last task and its last
result are saved in the store.
-/

namespace PromptDispatch

/-- The routes in use, and the agent for prompts without a route. -/
structure Dispatcher where
  routes : List Route
  defaultAgent : String

namespace Dispatcher

/-- A dispatcher with the built-in routes. -/
def standard : Dispatcher := ⟨Route.builtin, Route.defaultAgent⟩

/-- Items in order, each once. -/
def distinct (names : List String) : List String :=
  names.foldl (fun kept name => if kept.contains name then kept else kept ++ [name]) []

/-- The subtasks for agents. -/
def subtasksFor (prompt : String) : List String → Except Fault (List Subtask)
  | [] => .ok []
  | name :: names =>
    match Subtask.ofFields [("agent_id", .str name), ("input", .str prompt)] with
    | .error report => .error (.invalid report)
    | .ok task => (subtasksFor prompt names).map (task :: ·)

/-- Breaks a prompt into subtasks; there is always at least one. -/
def breakUp (d : Dispatcher) (prompt : String) (s : Session) :
    Session × Except Fault (List Subtask) :=
  match distinct (Route.agentsFor d.routes prompt) with
  | [] =>
    (s.note .info .dispatcher ("No route matched, falling back to " ++ d.defaultAgent),
      subtasksFor prompt [d.defaultAgent])
  | names => (s, subtasksFor prompt names)

/-- Lets a prompt in or turns it away, and breaks it into subtasks. -/
def accept (d : Dispatcher) (prompt : String) (s : Session) :
    Session × Except Fault (List Subtask) :=
  match s.throttle.acquire s.clock with
  | .error wait =>
    let fault := Fault.rateLimited wait
    (s.note .warning .dispatcher ("Prompt rejected: " ++ fault.message), .error fault)
  | .ok throttle =>
    let clean := Prompt.sanitize prompt
    let s := { s with throttle }.note .info .dispatcher ("Received prompt: " ++ clean)
    d.breakUp clean { s with store := s.store.record clean }

/-- Key of the last task an agent reported on. -/
def lastTaskKey : String := "last_task"

/-- Key of the last result an agent reported. -/
def lastResultKey : String := "last_result"

/-- Saves what an agent reported. -/
def remember (name task result : String) (s : Session) : Session :=
  (s.write (some name) (some lastTaskKey) (.str task)).write
    (some name) (some lastResultKey) (.str result)

/-- Runs a prompt's subtask and saves its task and result when it said
something. -/
def runSubtask (task : Subtask) : Process Session (Option String) :=
  (Session.dispatch task.input [] task.agent (.str task.input)).bind fun (_, text) =>
    match text with
    | none => .done none
    | some text =>
      if text = "" then .done (some "")
      else .change (remember task.agent task.input text) (.done (some text))

/-- The lines of an answer. -/
def lines : List Subtask → List (Option String) → List String
  | task :: tasks, text :: texts =>
    match text with
    | some text =>
      if text = "" then lines tasks texts
      else (task.agent ++ ": " ++ text) :: lines tasks texts
    | none => lines tasks texts
  | _, _ => []

/-- The answer to a prompt. -/
def answer (tasks : List Subtask) (texts : List (Option String)) : String :=
  String.intercalate "\n" (lines tasks texts)

/-- How the batch of one prompt is run. -/
abbrev Runner :=
  List (Process Session (Option String)) → Session → Session × Option (List (Option String))

/-- Handles a prompt with a way of running its batch. -/
def handleWith (runner : Runner) (d : Dispatcher) (prompt : String) (s : Session) :
    Session × Finish String :=
  match d.accept prompt s with
  | (s, .error fault) => (s, .failed fault)
  | (s, .ok tasks) =>
    let (s, texts) := runner (tasks.map runSubtask) s
    (s, .ofResults (texts.map (answer tasks)))

/-- Handles a prompt; a prompt that is turned away is a fault. -/
def handle (d : Dispatcher) (prompt : String) (s : Session) : Session × Finish String :=
  handleWith Batch.run d prompt s

/-- The answer to a prompt that is turned away. -/
def turnedAway : String := "Rate limit exceeded"

/-- Tells a prompt that is turned away by its answer. -/
def told : Finish String → Finish String
  | .failed (.rateLimited _) => .done turnedAway
  | finish => finish

/-- Receives a prompt; a prompt that is turned away is told so. -/
def receive (d : Dispatcher) (prompt : String) (s : Session) : Session × Finish String :=
  let (s, finish) := d.handle prompt s
  (s, told finish)

/-- Receives a prompt and cancels it after a number of turns. -/
def receiveCancelled (count : Nat) (d : Dispatcher) (prompt : String) (s : Session) :
    Session × Finish String :=
  let (s, finish) := handleWith (Batch.runCancelled count) d prompt s
  (s, told finish)

/-- What became of prompts that arrived together: a fault, or the subtasks. -/
abbrev Arrival := Except Fault (List Subtask)

/-- Accepts prompts in order. -/
def acceptAll (d : Dispatcher) : List String → Session → Session × List Arrival
  | [], s => (s, [])
  | prompt :: prompts, s =>
    let (s, arrival) := d.accept prompt s
    let (s, arrivals) := acceptAll d prompts s
    (s, arrival :: arrivals)

/-- The subtasks of all accepted prompts. -/
def arrivedTasks (arrivals : List Arrival) : List Subtask :=
  arrivals.flatMap fun
    | .ok tasks => tasks
    | .error _ => []

/-- The answers to prompts that arrived together, from the texts of all their
subtasks. -/
def answers : List Arrival → List (Option String) → Except Fault (List String)
  | [], _ => .ok []
  | .ok tasks :: arrivals, texts =>
    (answers arrivals (texts.drop tasks.length)).map
      (answer tasks (texts.take tasks.length) :: ·)
  | .error (.rateLimited _) :: arrivals, texts =>
    (answers arrivals texts).map (turnedAway :: ·)
  | .error fault :: _, _ => .error fault

/-- Receives prompts that arrive together: they are accepted in order, and then
all their subtasks take turns. -/
def receiveTogether (d : Dispatcher) (prompts : List String) (s : Session) :
    Session × Finish (List String) :=
  let (s, arrivals) := d.acceptAll prompts s
  let (s, texts) := Batch.run ((arrivedTasks arrivals).map runSubtask) s
  match texts with
  | none => (s, .cancelled)
  | some texts =>
    match answers arrivals texts with
    | .ok answers => (s, .done answers)
    | .error fault => (s, .failed fault)

/-- Calls along one chain, each after the one before; every call ends with what
was said and the agents visited by then. -/
def callAlong (prompt : String) : List (String × Errand) → List String →
    Process Session (List (Option String × List String))
  | [], _ => .done []
  | (name, task) :: calls, visited =>
    (Session.dispatch prompt visited name task).bind fun (visited, text) =>
      (callAlong prompt calls visited).map ((text, visited) :: ·)

end Dispatcher

end PromptDispatch
