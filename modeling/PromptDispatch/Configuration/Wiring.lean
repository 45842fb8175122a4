import PromptDispatch.Agent.Template
import PromptDispatch.Configuration.Basic
import PromptDispatch.Dispatch.OnMachine
import PromptDispatch.Session.Setup

/-!
# Wiring

A configuration gives a session and a dispatcher: the built-in agents are
registered if they are wanted, and the store is set up and loaded.
-/

namespace PromptDispatch.Configuration

/-- The archive of a configuration. -/
def archive (configuration : Configuration) : Archive :=
  ⟨configuration.backend, configuration.filePath, configuration.databasePath⟩

/-- The store and the archive of a configuration. -/
def setUp (configuration : Configuration) : Except Fault (Store × Archive) := do
  let limits ← Store.Limits.make configuration.entries configuration.prompts
  Setup.checkPrompts limits
  return (Store.empty limits, configuration.archive)

/-- The report of a wiring that is done. -/
def readyNote (configuration : Configuration) (agents : Nat) : Journal.Line :=
  ⟨.info, .configuration,
    s!"Orchestrator ready: {agents} agents, {configuration.routes.length} routes, " ++
      "persistence=" ++ configuration.backend.text⟩

/-- Wires a session and a dispatcher on a machine, with the given agents registered.
What breaks loading off breaks wiring off. -/
def wire (machine : Machine) (configuration : Configuration) (agents : List Agent) (disk : Disk)
    (clock : Binary64) : Except Fault (Session × Dispatcher) := do
  let (store, archive) ← configuration.setUp
  let s := Session.fresh store archive disk Binary64.zero clock
  let s ← Session.registerAll agents s
  let (s, loaded) := s.loadOn machine
  let _ ← loaded
  let window ← configuration.window
  let s := { s with throttle := .fresh window }.report
    [configuration.readyNote s.roster.size]
  return (s, ⟨configuration.routes, configuration.defaultAgent⟩)

end PromptDispatch.Configuration
