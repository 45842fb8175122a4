import PromptDispatch.Agent.Outcome
import PromptDispatch.Fault

/-!
# Agents

An agent has a name, a set of capabilities, and behaviours: one for a run on an
input, one that follows a subtask it has run, and one each for the start and
the end of service.

A behaviour says what an agent does step by step.  Everything an agent can do
to others goes through these steps; what it knows of others is what it is given
as its context or gets back from a delegation.  It ends with a reply, with a fault,
or by a cancellation; an agent that asks to leave the program is left out, as are
such requests altogether.
-/

namespace PromptDispatch

/-- What an agent's logic returns.  An outcome is told by the parts that the agent
builds it from; an agent that assigns to the fields of an outcome once it
is built, past all checks, is left out. -/
inductive Reply where
  | built (success : Bool) (output : String) (error : Option String)
  | text (s : String)
  /-- a value of a kind that is no reply, by the name of the kind -/
  | other (kind : String)

/-- The outcome of a reply. -/
def Reply.outcome? : Reply → Except Fault Outcome
  | .built success output error => .ok (.make success output error)
  | .text s => .ok (.ok s)
  | .other kind => .error (.badKind ("Agent returned unsupported type: " ++ kind))

/-- A JSON value as a reply. -/
def Reply.ofJson : Json → Reply
  | .str s => .text s
  | v => .other v.kindName

/-- What an agent is asked to work on: a text, or a value that has no length and so
cannot be announced, by the name of its kind.  Values with a length that are no
texts, lists and objects, are left out. -/
inductive Errand where
  | str (s : String)
  | unmeasured (kind : String)
deriving DecidableEq, Repr

/-- What an agent does. -/
inductive Behaviour where
  | done (reply : Reply)
  | fail (fault : Fault)
  /-- ends by a cancellation of its own -/
  | halt
  /-- gives up control; an event may be emitted when it is cancelled here -/
  | pause (lastWords : Option String) (next : Unit → Behaviour)
  | emit (event : String) (next : Behaviour)
  /-- reports something -/
  | note (text : String) (next : Behaviour)
  /-- counts a run -/
  | count (next : Behaviour)
  /-- saves an entry under the agent's own name -/
  | save (key : String) (value : Json) (next : Behaviour)
  | unregister (agent : String) (next : Behaviour)
  /-- lets another agent work on a task and goes on with its text and the
  agents visited so far -/
  | delegate (agent : String) (task : Errand)
      (next : String → List String → Behaviour)

/-- Gives up control a number of times. -/
def Behaviour.pauses (lastWords : Option String) : Nat → (Unit → Behaviour) → Behaviour
  | 0, next => next ()
  | times + 1, next => .pause lastWords fun _ => pauses lastWords times next

/-- What an agent knows of the circumstances of a run. -/
inductive Context where
  /-- handed over by a caller as it is -/
  | given (value : Json)
  /-- a run within a chain of delegations: the prompt, the agent's entries, and
  the agents visited so far -/
  | chained (prompt : String) (entries : List (Option String × Json))
      (visited : List String)

/-- Texts in order, each once. -/
def sortedTexts (texts : List String) : List String :=
  (texts.foldl (fun kept s => if kept.contains s then kept else kept ++ [s]) []).mergeSort
    fun a b => decide (a ≤ b)

/-- An agent. -/
structure Agent where
  name : String
  capabilities : List String
  /-- name of the agent's kind, when it is of a known kind -/
  kind : Option String
  run : String → Context → Behaviour
  /-- follows a subtask, given its outcome and context -/
  afterSubtask : Option (Outcome → Json → Behaviour)
  /-- the start of service -/
  start : Option Behaviour
  /-- the end of service -/
  stop : Option Behaviour

/-- Text of an agent of a known kind. -/
def Agent.shown? (agent : Agent) : Option String :=
  agent.kind.map fun kind => kind ++ "(agent_id=" ++ Text.quoted agent.name ++ ")"

end PromptDispatch
