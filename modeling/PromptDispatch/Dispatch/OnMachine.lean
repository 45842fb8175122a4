import PromptDispatch.Dispatch.Basic
import PromptDispatch.Process.Raising
import PromptDispatch.Store.OnMachine

/-!
# Dispatching prompts on a machine

An agent that is entered gets a copy of its entries.  Where a machine cannot make the
copy, the agent has been entered and is not run, and the fault is nobody's there: an
agent that delegated ends by it as by a fault of its own, and a prompt whose subtask
has been broken off so is broken off itself.
-/

namespace PromptDispatch

namespace Session

/-- What is told of a task along a chain: what was said, or the fault that broke it
off. -/
abbrev Telling := List String × Except Fault (Option String)

/-- What was said, told. -/
def spoken : Saying → Telling
  | (visited, text) => (visited, .ok text)

/-- A telling as the agent that delegated gets it. -/
def overheard : Telling → List String × Except Fault String
  | (visited, told) => (visited, told.map (·.getD ""))

/-- Why a machine cannot enter an agent: it is to be entered, and its entries cannot be
copied. -/
def entryFault? (machine : Machine) (s : Session) (visited : List String) (name : String) :
    Option Fault :=
  if s.roster.has name && !visited.contains name then s.store.copyFault? machine (some name)
  else none

/-- One step along a chain on a machine. -/
def dispatchStepOn (machine : Machine) (delegation : Delegation) (prompt : String)
    (visited : List String) (name : String) (task : Errand) : Process Session Telling :=
  .look fun s =>
    match s.entryFault? machine visited name with
    | some fault => .done (visited ++ [name], .error fault)
    | none => (dispatchStep delegation prompt visited name task).map spoken

/-- Lets an agent work on a task on a machine, along a chain of at most the given depth
below it. -/
def dispatchWithinOn (machine : Machine) (prompt : String) :
    Nat → List String → String → Errand → Process Session Telling
  | 0 => dispatchStepOn machine (fun visited _ _ => .done (visited, .ok "")) prompt
  | depth + 1 =>
    dispatchStepOn machine (fun visited name task =>
      (dispatchWithinOn machine prompt depth visited name task).map overheard) prompt

/-- Lets an agent work on a task along a chain on a machine. -/
def dispatchOn (machine : Machine) (prompt : String) (visited : List String) (name : String)
    (task : Errand) : Process Session Telling :=
  .look fun s => dispatchWithinOn machine prompt s.roster.size visited name task

/-- Loads the kept entries on a machine. -/
def loadOn (machine : Machine) (s : Session) : Session × Except Fault Bool :=
  match s.archive.loadOn machine s.disk s.store with
  | .error crash => ({ s with disk := crash.disk }, .error crash.fault)
  | .ok effect => ((s.follow effect).1, .ok (s.follow effect).2)

/-- Saves the entries to where they are kept on a machine. -/
def persistOn (machine : Machine) (s : Session) : Session × Except Fault Bool :=
  match s.archive.persistOn machine s.disk s.store with
  | .error crash => ({ s with disk := crash.disk }, .error crash.fault)
  | .ok effect => ((s.follow effect).1, .ok (s.follow effect).2)

end Session

namespace Dispatcher

/-- Runs a prompt's subtask on a machine and saves its task and result when it said
something. -/
def runSubtaskOn (machine : Machine) (task : Subtask) :
    Process Session (Except Fault (Option String)) :=
  (Session.dispatchOn machine task.input [] task.agent (.str task.input)).bind fun
    | (_, .error fault) => .done (.error fault)
    | (_, .ok none) => .done (.ok none)
    | (_, .ok (some text)) =>
      if text = "" then .done (.ok (some ""))
      else .change (remember task.agent task.input text) (.done (.ok (some text)))

/-- Handles a prompt on a machine.  It fails when it is turned away, and when one of its
subtasks is broken off. -/
def handleOn (machine : Machine) (d : Dispatcher) (prompt : String) (s : Session) :
    Session × Finish String :=
  match d.accept prompt s with
  | (s, .error fault) => (s, .failed fault)
  | (s, .ok tasks) =>
    match Batch.runRaising (tasks.map (runSubtaskOn machine)) s with
    | (s, .ok texts) => (s, .done (answer tasks texts))
    | (s, .error (some fault)) => (s, .failed fault)
    | (s, .error none) => (s, .cancelled)

/-- Receives a prompt on a machine; a prompt that is turned away is told so. -/
def receiveOn (machine : Machine) (d : Dispatcher) (prompt : String) (s : Session) :
    Session × Finish String :=
  let (s, finish) := d.handleOn machine prompt s
  (s, told finish)

end Dispatcher

end PromptDispatch
