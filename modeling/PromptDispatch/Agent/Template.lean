import PromptDispatch.Agent.Basic

/-!
# Template agents

Template agents stand in for specialised workers: each waits for a while, then
answers with its label and the task.
-/

namespace PromptDispatch.Agent

/-- Pauses that make up a second of waiting. -/
def pausesPerSecond : Nat := 100000

/-- Pauses that make up a delay in seconds; a delay of zero makes none. -/
def delayPauses (delay : Binary64) : Nat :=
  match delay.units? with
  | some u => ((u.toNat * pausesPerSecond) + (Nat.pow 2 1074 - 1)) / Nat.pow 2 1074
  | none => 0

/-- An agent that answers with a label and the task. -/
def template (kind label name : String) (capabilities : List String) (delay : Binary64) :
    Agent where
  name := name
  capabilities := sortedTexts capabilities
  kind := some kind
  run input _ :=
    .note s!"[{name}] processing: {input}" <|
      .pauses none (delayPauses delay) fun _ =>
        .count <| .done <| .built true (label ++ " response for: " ++ input) none
  afterSubtask := none
  start := none
  stop := none

/-- A template agent without a label of its own. -/
def plainTemplate (name : String) (capabilities : List String) (delay : Binary64) : Agent :=
  template "TemplateAgent" "Agent" name capabilities delay

/-- Label, name and capabilities of the built-in agents, in the order of the
built-in routes. -/
def builtinParts : List (String × String × List String) :=
  [("Frontend", "frontend", ["ui-planning", "component-generation"]),
   ("Backend", "backend", ["api-design", "server-logic"]),
   ("Database", "database", ["schema-design", "query-optimization"]),
   ("Devops", "devops", ["deployment", "ci-cd"]),
   ("Docs", "docs", ["documentation"])]

/-- The built-in agents. -/
def builtins (delay : Binary64) : List Agent :=
  builtinParts.map fun (label, name, capabilities) =>
    template (label ++ "Agent") label name capabilities delay

/-- The built-in agent of a name. -/
def builtin? (name : String) (delay : Binary64) : Option Agent :=
  (builtins delay).find? fun agent => agent.name = name

end PromptDispatch.Agent
