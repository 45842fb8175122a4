import PromptDispatch.Agent.Basic

/-!
# The roster

The registered agents, in the order of their registration.  Names are unique:
a name that is taken cannot be registered again until it is given up, and then
the new agent comes last.
-/

namespace PromptDispatch

/-- The registered agents in order. -/
structure Roster where
  agents : List Agent

namespace Roster

/-- A roster without agents. -/
def empty : Roster := ⟨[]⟩

/-- The agent of a name. -/
def find? (roster : Roster) (name : String) : Option Agent :=
  roster.agents.find? fun agent => agent.name = name

/-- Whether a name is registered. -/
def has (roster : Roster) (name : String) : Bool := (roster.find? name).isSome

/-- Registered names in order. -/
def names (roster : Roster) : List String := roster.agents.map (·.name)

/-- Number of registered agents. -/
def size (roster : Roster) : Nat := roster.agents.length

/-- Registers an agent. -/
def register (roster : Roster) (agent : Agent) : Except Fault Roster :=
  if roster.has agent.name then .error (.duplicateAgent agent.name)
  else .ok ⟨roster.agents ++ [agent]⟩

/-- Gives up a name. -/
def unregister (roster : Roster) (name : String) : Roster :=
  ⟨roster.agents.filter fun agent => agent.name ≠ name⟩

/-- Gives up all names. -/
def clear (_ : Roster) : Roster := empty

/-- The agents that have all the given capabilities. -/
def withCapabilities (roster : Roster) (wanted : List String) : List Agent :=
  roster.agents.filter fun agent => wanted.all agent.capabilities.contains

end Roster

end PromptDispatch
