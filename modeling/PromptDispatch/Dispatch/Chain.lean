import PromptDispatch.Session.Subtask

/-!
# Chains of delegations

A prompt's subtask starts a chain: its agent may let other agents work on
tasks, and these may do the same.  No agent is entered twice along one chain,
so a chain is never deeper than there are agents.

An agent that is entered is handed its entries.  They are handed over as they are here;
on a machine they have to be copied first, and a chain breaks off where they cannot be.
-/

namespace PromptDispatch.Session

/-- What an agent was made to say: nothing for a missing agent, the empty text
for one that is already on the chain, else its output or an error text. -/
abbrev Saying := List String × Option String

/-- The error text of an agent. -/
def errorFrom (name : String) : String := "error from " ++ name

/-- Reports the failure of an agent in a chain. -/
def failedInChain (name : String) (visited : List String) (told : String) :
    Process Session Saying :=
  .change (fun s => s.note .error .dispatcher s!"Agent {name} failed: {told}")
    (.done (visited, some (errorFrom name)))

/-- What an agent says after its execution. -/
def sayingOf (name : String) (visited : List String) :
    Except Fault (List String × Outcome) → Process Session Saying
  | .error fault => failedInChain name visited fault.message
  | .ok (visited, o) =>
    if o.success then .done (visited, some o.output)
    else failedInChain name visited (o.error.getD "None")

/-- Enters an agent that is registered and not yet on the chain, with its entries as they
are. -/
def enter (delegation : Delegation) (prompt name : String) (task : Errand)
    (visited : List String) : Process Session Saying :=
  .look fun s =>
    let visited := visited ++ [name]
    let context := Context.chained prompt (s.store.getAll (some name)) visited
    (executeTask delegation name task context visited).bind (sayingOf name visited)

/-- One step along a chain. -/
def dispatchStep (delegation : Delegation) (prompt : String) (visited : List String)
    (name : String) (task : Errand) : Process Session Saying :=
  .look fun s =>
    if s.roster.has name then
      if visited.contains name then
        .change (fun s => s.note .warning .dispatcher s!"Circular call detected for {name}")
          (.done (visited, some ""))
      else enter delegation prompt name task visited
    else
      .change (fun s => s.note .error .dispatcher
        ("Skipping subtask: " ++ (Fault.agentNotFound name).message))
        (.done (visited, none))

/-- A saying as the agent that delegated gets it. -/
def heard : Saying → List String × Except Fault String
  | (visited, text) => (visited, .ok (text.getD ""))

/-- Lets an agent work on a task along a chain of at most the given depth below
it. -/
def dispatchWithin (prompt : String) :
    Nat → List String → String → Errand → Process Session Saying
  | 0 => dispatchStep (fun visited _ _ => .done (visited, .ok "")) prompt
  | depth + 1 =>
    dispatchStep
      (fun visited name task => (dispatchWithin prompt depth visited name task).map heard)
      prompt

/-- Lets an agent work on a task along a chain.  There are no more agents to
enter than are registered. -/
def dispatch (prompt : String) (visited : List String) (name : String) (task : Errand) :
    Process Session Saying :=
  .look fun s => dispatchWithin prompt s.roster.size visited name task

end PromptDispatch.Session
