import PromptDispatch.Roster
import PromptDispatch.Store.Archive
import PromptDispatch.Throttle

/-!
# Sessions

A session is all that lasts from one prompt to the next: the clock, the
throttle, the store with its archive and disk, the roster with its run counts,
and what agents emitted and parts reported on the way.
-/

namespace PromptDispatch

/-- The state of a dispatcher at work. -/
structure Session where
  clock : Binary64
  throttle : Throttle Binary64
  store : Store
  archive : Archive
  disk : Disk
  roster : Roster
  /-- runs of agents that count them -/
  runs : List (String × Nat)
  /-- what agents emitted, oldest first -/
  events : List String
  /-- what parts reported, oldest first -/
  journal : List Journal.Line

namespace Session

open Journal (Level Part Line)

/-- Adds lines to the journal. -/
def report (s : Session) (lines : List Line) : Session :=
  { s with journal := s.journal ++ lines }

/-- Adds one line to the journal. -/
def note (s : Session) (level : Level) (part : Part) (text : String) : Session :=
  s.report [⟨level, part, text⟩]

/-- Adds an event. -/
def emit (s : Session) (event : String) : Session := { s with events := s.events ++ [event] }

/-- Forgets events and journal. -/
def quiet (s : Session) : Session := { s with events := [], journal := [] }

/-- Lets time pass. -/
def advance (s : Session) (span : Binary64) : Session := { s with clock := s.clock + span }

/-! ## The store -/

/-- Writes an entry under a name that is known to be valid. -/
def write (s : Session) (agent key : Option String) (value : Json) : Session :=
  { s with store := s.store.write agent key value }.report (s.store.saveNotes agent key)

/-- Saves an entry. -/
def save (s : Session) (agent key : Option String) (value : Json) : Except Fault Session :=
  match s.store.save agent key value with
  | .ok store => .ok ({ s with store }.report (s.store.saveNotes agent key))
  | .error fault => .error fault

/-- Merges a value into an entry. -/
def merge (s : Session) (agent key : Option String) (value : Json)
    (strategy : Except Fault Store.Strategy) : Except Fault Session :=
  match s.store.merge agent key value strategy with
  | .error fault => .error fault
  | .ok store =>
    match strategy with
    | .ok strategy => .ok ({ s with store }.report (s.store.mergeNotes agent key strategy))
    | .error _ => .ok { s with store }

/-- Removes an agent's entries. -/
def clearAgent (s : Session) (agent : Option String) : Session :=
  { s with store := s.store.clearAgent agent }.report [Store.clearAgentNote agent]

/-- Removes all entries. -/
def clearAll (s : Session) : Session :=
  { s with store := s.store.clearAll }.report [Store.clearAllNote]

/-- Takes over what loading or saving led to. -/
def follow (s : Session) (effect : Archive.Effect) : Session × Bool :=
  ({ s with store := effect.store, disk := effect.disk }.report effect.notes, effect.done)

/-- Loads the kept entries. -/
def load (s : Session) : Session × Bool := s.follow (s.archive.load s.disk s.store)

/-- Saves the entries to where they are kept. -/
def persist (s : Session) : Session × Bool := s.follow (s.archive.persist s.disk s.store)

/-! ## The roster -/

/-- Registers an agent; its runs are counted from zero. -/
def register (s : Session) (agent : Agent) : Except Fault Session :=
  match s.roster.register agent with
  | .ok roster =>
    .ok ({ s with roster, runs := Keyed.put agent.name 0 s.runs }.note .info .roster
      ("Registered agent: " ++ agent.name))
  | .error fault => .error fault

/-- Gives up a name; the flag tells whether it was registered. -/
def unregister (s : Session) (name : String) : Session × Bool :=
  if s.roster.has name then
    ({ s with roster := s.roster.unregister name }.note .info .roster
      ("Unregistered agent: " ++ name), true)
  else (s, false)

/-- Gives up all names. -/
def clearRoster (s : Session) : Session :=
  { s with roster := s.roster.clear }.note .info .roster "Cleared all registered agents"

/-- Counts a run of an agent. -/
def countRun (s : Session) (name : String) : Session :=
  { s with runs := Keyed.put name ((Keyed.get? name s.runs).getD 0 + 1) s.runs }

end Session

end PromptDispatch
