import PromptDispatch.Json.Basic
import PromptDispatch.Pattern.Search

/-!
# Routes

A route sends the prompts in which its pattern occurs to one agent.  Patterns
are compiled without regard to letter case when the route is made, so a fault
shows then and not at the first prompt.
-/

namespace PromptDispatch

/-- A pattern and the agent that gets the prompts it occurs in. -/
structure Route where
  agent : String
  pattern : String
  description : Json
  compiled : Pattern.Compiled

namespace Route

/-- Why a route cannot be made. -/
inductive Fault where
  | agentMissing
  | patternNotText
  | pattern (text : String) (fault : Pattern.Fault)

/-- Name of a fault's kind. -/
def Fault.kindName : Fault → String
  | .agentMissing => "ValueError"
  | .patternNotText => "ValueError"
  | .pattern _ fault => fault.kind.name

/-- Message of a fault. -/
def Fault.message : Fault → String
  | .agentMissing => "agent_id must be a non-empty string"
  | .patternNotText => "pattern must be a string"
  | .pattern text fault => fault.message text

/-- Makes a route from values of any kind. -/
def make (agent pattern description : Json) : Except Fault Route :=
  match agent, pattern with
  | .str "", _ => .error .agentMissing
  | .str agent, .str text =>
    match Pattern.compile { ignoreCase := true } text with
    | .ok compiled => .ok ⟨agent, text, description, compiled⟩
    | .error fault => .error (.pattern text fault)
  | .str _, _ => .error .patternNotText
  | _, _ => .error .agentMissing

/-- Whether the pattern occurs in a prompt. -/
def occursIn (route : Route) (prompt : String) : Bool := route.compiled.foundIn prompt

/-- Agents of all routes whose pattern occurs, in the order of the routes. -/
def agentsFor (routes : List Route) (prompt : String) : List String :=
  (routes.filter (·.occursIn prompt)).map (·.agent)

/-- Makes the routes given by agent, pattern and description, up to the first
fault. -/
def makeAll : List (Json × Json × Json) → Except Fault (List Route)
  | [] => .ok []
  | (agent, pattern, description) :: rest => do
    let route ← make agent pattern description
    let routes ← makeAll rest
    return route :: routes

end Route

end PromptDispatch
