/-!
# Journal lines

What the parts of the dispatcher report while they work.  A line has a level,
the part that wrote it, and a text; lines are kept in the order of writing.
-/

namespace PromptDispatch.Journal

/-- How much a line matters, least first. -/
inductive Level where
  | debug
  | info
  | warning
  | error
deriving DecidableEq, Repr

/-- Rank of a level among the levels. -/
def Level.rank : Level → Nat
  | .debug => 0
  | .info => 1
  | .warning => 2
  | .error => 3

/-- Name of a level. -/
def Level.text : Level → String
  | .debug => "DEBUG"
  | .info => "INFO"
  | .warning => "WARNING"
  | .error => "ERROR"

/-- The parts that write lines. -/
inductive Part where
  | store
  | roster
  | dispatcher
  | agents
  | routes
  | configuration
deriving DecidableEq, Repr

/-- Name under which a part writes. -/
def Part.text : Part → String
  | .store => "codeorbit.memory"
  | .roster => "codeorbit.registry"
  | .dispatcher => "codeorbit.orchestrator"
  | .agents => "codeorbit.subagents.builtin"
  | .routes => "codeorbit.routing"
  | .configuration => "codeorbit.config"

/-- A line of the journal. -/
structure Line where
  level : Level
  part : Part
  text : String
deriving DecidableEq, Repr

/-- A line as it is shown. -/
def Line.shown (line : Line) : String :=
  line.level.text ++ " " ++ line.part.text ++ ": " ++ line.text

/-- The lines of a level and above. -/
def atLeast (level : Level) (lines : List Line) : List Line :=
  lines.filter fun line => level.rank ≤ line.level.rank

end PromptDispatch.Journal
