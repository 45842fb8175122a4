import PromptDispatch.Process.Batch
import PromptDispatch.Session.Basic

/-!
# Execution of agents

A behaviour becomes a process over the session.  Delegation is left open: a
caller says what happens when an agent lets another one work on a task.

Executing an agent never fails for what the agent does: a missing agent, a
fault of its logic and a reply of a wrong kind all give a failed outcome.
-/

namespace PromptDispatch.Session

/-- What a delegation does, given the agents visited so far: it ends with the
agents visited then, and a text or a fault. -/
abbrev Delegation :=
  List String → String → Errand → Process Session (List String × Except Fault String)

/-- The end of a behaviour: the agents visited, and its reply. -/
abbrev Conclusion := List String × Except Fault Reply

/-- The process of an agent's behaviour. -/
def perform (own : String) (delegation : Delegation) :
    Behaviour → List String → Process Session Conclusion
  | .done reply, visited => .done (visited, .ok reply)
  | .fail fault, visited => .done (visited, .error fault)
  | .halt, _ => .halted
  | .pause lastWords next, visited =>
    .pause (fun s => (lastWords.map s.emit).getD s) fun u =>
      perform own delegation (next u) visited
  | .emit event next, visited =>
    .change (fun s => s.emit event) (perform own delegation next visited)
  | .note text next, visited =>
    .change (fun s => s.note .debug .agents text) (perform own delegation next visited)
  | .count next, visited =>
    .change (fun s => s.countRun own) (perform own delegation next visited)
  | .save key value next, visited =>
    if Store.isName (some own) then
      .change (fun s => s.write (some own) (some key) value)
        (perform own delegation next visited)
    else .done (visited, .error .namelessAgent)
  | .unregister agent next, visited =>
    .change (fun s => (s.unregister agent).1) (perform own delegation next visited)
  | .delegate agent task next, visited =>
    (delegation visited agent task).bind fun
      | (visited, .ok text) => perform own delegation (next text visited) visited
      | (visited, .error fault) => .done (visited, .error fault)

/-- Characters of an input that are shown in the journal. -/
def previewLength : Nat := 100

/-- The beginning of an input. -/
def preview (input : String) : String :=
  if previewLength < input.length then
    String.ofList (input.toList.take previewLength) ++ "..."
  else input

/-- Turns what an agent's logic came to into an outcome and reports it. -/
def conclude (agent : String) (visited : List String) (reply : Except Fault Reply) :
    Process Session (List String × Outcome) :=
  match reply.bind Reply.outcome? with
  | .ok o =>
    let ending := if o.success then "succeeded" else "failed"
    .change (fun s => s.note .info .roster s!"Agent {agent} execution {ending}")
      (.done (visited, o))
  | .error fault =>
    let told := (Fault.agentExecution agent fault).message
    .change (fun s => s.note .error .roster s!"Error executing agent {agent}: {told}")
      (.done (visited, .failWith told ("Error executing agent: " ++ told)))

/-- Runs an agent on an input. -/
def runAgent (delegation : Delegation) (agent : Agent) (input : String)
    (context : Context) (visited : List String) : Process Session (List String × Outcome) :=
  .change (fun s => s.note .info .roster
    s!"Executing with agent {agent.name}: {preview input}")
    ((perform agent.name delegation (agent.run input context) visited).bind
      fun (visited, reply) => conclude agent.name visited reply)

/-- What becomes of a task for an agent that is missing. -/
def missingAgent (name : String) (visited : List String) :
    Process Session (List String × Outcome) :=
  let told := (Fault.agentNotFound name).message
  .change (fun s => s.note .error .roster told) (.done (visited, .fail told))

/-- Executes the agent of a name on an input. -/
def execute (delegation : Delegation) (name input : String) (context : Context)
    (visited : List String) : Process Session (List String × Outcome) :=
  .look fun s =>
    match s.roster.find? name with
    | none => missingAgent name visited
    | some agent => runAgent delegation agent input context visited

/-- Executes the agent of a name on a task.  A task that is no text has no length
that could be announced, which is a fault where there is an agent for it. -/
def executeTask (delegation : Delegation) (name : String) (task : Errand)
    (context : Context) (visited : List String) :
    Process Session (Except Fault (List String × Outcome)) :=
  match task with
  | .str input => (execute delegation name input context visited).map .ok
  | .unmeasured kind => .look fun s =>
    if s.roster.has name then
      .done (.error (.badKind s!"object of type '{kind}' has no len()"))
    else (missingAgent name visited).map .ok

/-- Why there is no chain to go along in a context that was handed over. -/
def chainMissing : Json → Fault
  | .obj fields =>
    match Keyed.get? "chain" fields with
    | none => .foreign "KeyError" "'chain'"
    | some other =>
      .foreign "AttributeError" s!"'{other.kindName}' object has no attribute 'dispatch'"
  | .str _ => .badKind "string indices must be integers, not 'str'"
  | .arr _ => .badKind "list indices must be integers or slices, not str"
  | other => .badKind s!"'{other.kindName}' object is not subscriptable"

/-- Delegation outside a chain. -/
def noDelegation (context : Json) : Delegation := fun visited _ _ =>
  .done (visited, .error (chainMissing context))

end PromptDispatch.Session
