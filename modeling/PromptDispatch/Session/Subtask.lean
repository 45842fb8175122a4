import PromptDispatch.Session.Execution

/-!
# Subtasks

A subtask is a unit of work for one agent.  A list of subtasks runs as a batch,
highest priority first; the outcomes are in that order too.  After its run an
agent that is still registered follows the subtask up; a fault in that is only
reported.
-/

namespace PromptDispatch

/-- A unit of work for one agent. -/
structure Subtask where
  agent : String
  input : String
  priority : Int := 0
  context : List (String × Json) := []

namespace Subtask

/-- Reads a subtask from fields. -/
def ofFields (fields : List (String × Json)) : Except Field.Report Subtask :=
  Field.form "Subtask"
    (Field.both (Field.required "agent_id" (Field.textFrom 1) fields)
      (Field.both (Field.required "input" Field.text fields)
        (Field.both (Field.optional "priority" 0 Field.whole fields)
          (Field.optional "context" [] Field.mapping fields))))
    fun (agent, input, priority, context) => ⟨agent, input, priority, context⟩

/-- A subtask as JSON. -/
def toJson (t : Subtask) : Json :=
  .obj [("agent_id", .str t.agent), ("input", .str t.input),
    ("priority", .int t.priority), ("context", .obj t.context)]

/-- Subtasks by priority, highest first; those of one priority keep their
order. -/
def byPriority (tasks : List Subtask) : List Subtask :=
  tasks.mergeSort fun a b => decide (b.priority ≤ a.priority)

end Subtask

/-- How an operation that runs agents ends. -/
inductive Finish (α : Type) where
  | done (a : α)
  | failed (fault : Fault)
  | cancelled

/-- The finish of a batch from its results. -/
def Finish.ofResults {α : Type} : Option α → Finish α
  | some a => .done a
  | none => .cancelled

namespace Session

/-- Lets an agent that is still registered follow up a subtask. -/
def followUp (t : Subtask) (o : Outcome) : Process Session Outcome :=
  .look fun s =>
    match (s.roster.find? t.agent).bind (·.afterSubtask) with
    | none => .done o
    | some follow =>
      (perform t.agent (noDelegation (.obj t.context)) (follow o (.obj t.context)) []).bind
        fun
        | (_, .ok _) => .done o
        | (_, .error fault) =>
          .change (fun s => s.note .error .roster
            s!"Subtask result hook failed for {t.agent}: {fault.message}") (.done o)

/-- Executes one subtask and follows it up. -/
def runSubtask (t : Subtask) : Process Session Outcome :=
  (execute (noDelegation (.obj t.context)) t.agent t.input (.given (.obj t.context)) []).bind
    fun (_, o) => followUp t o

/-- The report that a batch begins. -/
def announce (s : Session) (count : Nat) : Session :=
  s.note .info .roster s!"Executing {count} subtasks in parallel"

/-- Runs subtasks as a batch with the given way of running it. -/
def runBatch
    (runner : List (Process Session Outcome) → Session → Session × Option (List Outcome))
    (tasks : List Subtask) (s : Session) : Session × Finish (List Outcome) :=
  if tasks.isEmpty then (s, .done [])
  else
    let ordered := Subtask.byPriority tasks
    let (s, results) := runner (ordered.map runSubtask) (s.announce ordered.length)
    (s, .ofResults results)

/-- Runs subtasks as a batch. -/
def runSubtasks (tasks : List Subtask) (s : Session) : Session × Finish (List Outcome) :=
  runBatch Batch.run tasks s

/-- Runs subtasks as a batch that is cancelled after a number of turns. -/
def runSubtasksCancelled (count : Nat) (tasks : List Subtask) (s : Session) :
    Session × Finish (List Outcome) :=
  runBatch (Batch.runCancelled count) tasks s

/-- Executes one agent alone on a task. -/
def executeAlone (name : String) (task : Errand) (context : Json) (s : Session) :
    Session × Finish Outcome :=
  let process := executeTask (noDelegation context) name task (.given context) []
  match process.run s with
  | (s, some (.ok (_, o))) => (s, .done o)
  | (s, some (.error fault)) => (s, .failed fault)
  | (s, none) => (s, .cancelled)

/-- Runs a behaviour of every agent that has it, one agent after another; a
fault is reported and does not keep the others from theirs. -/
def service (behaviour : Agent → Option Behaviour) (verb : String) :
    List Agent → Process Session Unit
  | [] => .done ()
  | agent :: agents =>
    match behaviour agent with
    | none => service behaviour verb agents
    | some b =>
      (perform agent.name (noDelegation .null) b []).bind fun
        | (_, .ok _) => service behaviour verb agents
        | (_, .error fault) =>
          .change (fun s => s.note .error .roster
            s!"Agent {agent.name} failed to {verb}: {fault.message}")
            (service behaviour verb agents)

/-- Starts the service of all registered agents. -/
def startAgents (s : Session) : Session × Finish Unit :=
  let (s, result) := (service Agent.start "initialize" s.roster.agents).run s
  (s, .ofResults result)

/-- Ends the service of all registered agents. -/
def stopAgents (s : Session) : Session × Finish Unit :=
  let (s, result) := (service Agent.stop "shutdown" s.roster.agents).run s
  (s, .ofResults result)

end Session

end PromptDispatch
