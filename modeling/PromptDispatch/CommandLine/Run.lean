import PromptDispatch.CommandLine.Basic
import PromptDispatch.CommandLine.Send
import PromptDispatch.Configuration.Wiring

/-!
# Running commands

Commands that need no network.  A prompt is dispatched by the built-in agents
under the configuration found on the disk and in the environment, on a machine as
commands find it.
-/

namespace PromptDispatch.CommandLine

/-- The list of the built-in agents. -/
def agentsPage : String :=
  unlines ((Agent.builtins Binary64.zero).map fun agent =>
    "  - " ++ agent.name ++ ": " ++ String.intercalate ", " agent.capabilities)

/-- What is said before serving. -/
def servePage (host : String) (port : Int) : String :=
  "Starting CodeOrbit broker on " ++ host ++ ":" ++ toString port ++ "\n"

/-- The ending of a call that asked for nothing to be run. -/
def Reading.ending? : Reading → Option Ending
  | .page text => some (.done text)
  | .nothing => some ⟨2, overviewPage, none⟩
  | .refused form refusal => some ⟨2, refusal.notice form, none⟩
  | .command .agents => some (.done agentsPage)
  | .command _ => none

/-- The session and the dispatcher of the configuration that is found. -/
def wired (disk : Disk) (environment : List (String × String)) (clock : Binary64) :
    Except Fault (Session × Dispatcher) := do
  let configuration ← (Configuration.read disk environment []).mapError
    Configuration.Trouble.toFault
  configuration.wire .standard (Agent.builtins Binary64.zero) disk clock

/-- The ending of a dispatched prompt. -/
def endingOf (save : Bool) (s : Session) : Finish String → Session × Ending
  | .failed fault => (s, .escaped fault)
  | .cancelled => (s, .escaped (.foreign "CancelledError" ""))
  | .done output =>
    let line := output ++ "\n"
    if save then
      match s.persistOn .standard with
      | (s, .error fault) => (s, .escaped fault)
      | (s, .ok true) => (s, .done line)
      | (s, .ok false) => (s, ⟨1, line ++ errorLine "Failed to persist context memory", none⟩)
    else (s, .done line)

/-- Dispatches a prompt; the disk is the one afterwards. -/
def runPrompt (text : String) (save : Bool) (disk : Disk)
    (environment : List (String × String)) (clock : Binary64) : Disk × Ending :=
  match wired disk environment clock with
  | .error fault => (disk, .escaped fault)
  | .ok (s, dispatcher) =>
    let (s, finish) := dispatcher.receiveOn .standard text s
    let (s, ending) := endingOf save s finish
    (s.disk, ending)

end PromptDispatch.CommandLine
