import PromptDispatch.Binary64.Shortest
import PromptDispatch.Field.Report

/-!
# Faults

What can go wrong while prompts are dispatched.  Faults of the library's own
carry what they speak of; a fault from elsewhere is known by the name of its
kind and its message.

A fault stands for an `Exception`, the class that is caught wherever the failure of
an agent is isolated.  Beyond that class there are the cancellations, which are no
faults but ends of a process of their own, and the requests to leave the program,
`SystemExit` and `KeyboardInterrupt`: these end the program from wherever they
arise and are left out.
-/

namespace PromptDispatch

/-- A fault. -/
inductive Fault where
  /-- a fault of the library without a kind of its own -/
  | general (message : String)
  /-- an agent's name is empty or no text -/
  | invalidIdentifier (message : String)
  /-- an agent of this name is registered already -/
  | duplicateAgent (agent : String)
  /-- no agent of this name is registered -/
  | agentNotFound (agent : String)
  /-- an agent's own logic failed -/
  | agentExecution (agent : String) (cause : Fault)
  /-- a prompt came inside the throttle window -/
  | rateLimited (retryAfter : Binary64)
  /-- the store could not be loaded or saved -/
  | persistence (message : String)
  /-- a form has issues -/
  | invalid (report : Field.Report)
  /-- a fault from elsewhere -/
  | foreign (kind message : String)

namespace Fault

/-- Name of a fault's kind. -/
def kindName : Fault → String
  | .general _ => "CodeOrbitError"
  | .invalidIdentifier _ => "InvalidIdentifierError"
  | .duplicateAgent _ => "DuplicateAgentError"
  | .agentNotFound _ => "AgentNotFoundError"
  | .agentExecution _ _ => "AgentExecutionError"
  | .rateLimited _ => "RateLimitedError"
  | .persistence _ => "PersistenceError"
  | .invalid _ => "ValidationError"
  | .foreign kind _ => kind

/-- Message of a fault.  A fault of an agent's logic is told by its cause's
message, or by the name of the cause's kind when that message is empty. -/
def message : Fault → String
  | .general message => message
  | .invalidIdentifier message => message
  | .duplicateAgent agent => "Agent with ID '" ++ agent ++ "' is already registered"
  | .agentNotFound agent => "Agent not found: " ++ agent
  | .agentExecution _ cause =>
    let told := cause.message
    if told = "" then cause.kindName else told
  | .rateLimited retryAfter =>
    "Rate limit exceeded, retry in " ++ retryAfter.fixed 3 ++ "s"
  | .persistence message => message
  | .invalid report => report.message
  | .foreign _ message => message

/-- A value that an operation does not accept. -/
def badValue (message : String) : Fault := .foreign "ValueError" message

/-- A value of a kind that an operation does not accept. -/
def badKind (message : String) : Fault := .foreign "TypeError" message

/-- The agent's name is empty or no text. -/
def namelessAgent : Fault := .invalidIdentifier "agent_id must be a non-empty string"

end Fault

end PromptDispatch
