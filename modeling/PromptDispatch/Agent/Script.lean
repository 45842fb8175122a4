import PromptDispatch.Agent.Basic
import PromptDispatch.Unicode.Word

/-!
# Scripted agents

A script is a list of steps with an ending.  Texts in it are templates: a known
name in braces stands for its value, anything else stands for itself.
-/

namespace PromptDispatch.Script

/-- Values by name. -/
abbrev Names := List (String × Json)

/-- Text of a value in a template: texts as they are, other values as JSON. -/
def shownValue : Json → String
  | .str s => s
  | v => v.line

/-- Whether a character may stand in a name. -/
def isNameChar (c : Char) : Bool := Unicode.isWord c

/-- Replaces the names in braces.  The count bounds the characters left. -/
def fillChars (names : Names) : Nat → List Char → List Char
  | 0, _ => []
  | _, [] => []
  | count + 1, c :: cs =>
    if c = '\x7b' then
      let name := cs.takeWhile isNameChar
      match cs.dropWhile isNameChar with
      | '\x7d' :: rest =>
        match Keyed.get? (String.ofList name) names with
        | some v => (shownValue v).toList ++ fillChars names count rest
        | none => c :: fillChars names count cs
      | _ => c :: fillChars names count cs
    else c :: fillChars names count cs

/-- A template with its names replaced. -/
def fill (names : Names) (template : String) : String :=
  String.ofList (fillChars names template.length template.toList)

/-- How a script ends. -/
inductive Ending where
  | text (template : String)
  | ok (template : String)
  | fail (error : String) (output : Option String)
  | form (entries : List (String × Json))
  | value (v : Json)
  | raise (fault : Fault)
  | cancel

/-- A step of a script. -/
inductive Step where
  | yield (times : Nat)
  | event (template : String)
  | delegate (agent template : String)
  | save (key template : String)
  | unregister (agent : String)
  | finish (ending : Ending)

/-- What an ending does. -/
def Ending.behaviour (names : Names) : Ending → Behaviour
  | .text template => .done (.text (fill names template))
  | .ok template => .done (.built true (fill names template) none)
  | .fail error none => .done (.built false (fill names error) (some (fill names error)))
  | .fail error (some output) =>
    .done (.built false (fill names output) (some (fill names error)))
  | .form entries =>
    match Outcome.ofFields entries with
    | .ok o => .done (.built o.success o.output o.error)
    | .error report => .fail (.invalid report)
  | .value v => .done (.ofJson v)
  | .raise fault => .fail fault
  | .cancel => .halt

/-- Agents as a template shows them. -/
def shownAgents (agents : List String) : Json :=
  .str (String.intercalate "," (sortedTexts agents))

/-- What a script does, for the agent of a name. -/
def behaviour (own : String) (names : Names) : List Step → Behaviour
  | [] => .done (.other Json.null.kindName)
  | .yield times :: steps =>
    .pauses (some ("cancelled:" ++ own)) times fun _ => behaviour own names steps
  | .event template :: steps => .emit (fill names template) (behaviour own names steps)
  | .delegate agent template :: steps =>
    .delegate agent (.str (fill names template)) fun text visited =>
      behaviour own
        (Keyed.put "visited" (shownAgents visited) (Keyed.put "last" (.str text) names)) steps
  | .save key template :: steps =>
    .save key (.str (fill names template)) (behaviour own names steps)
  | .unregister agent :: steps => .unregister agent (behaviour own names steps)
  | .finish ending :: _ => ending.behaviour names

/-- Names known in every script. -/
def ownNames (own : String) : Names := [("id", .str own), ("last", .str "")]

/-- JSON text of an agent's entries. -/
def entriesText (entries : List (Option String × Json)) : String :=
  (Json.obj (entries.map fun (key, value) => (key.getD "null", value))).line

/-- Names known in a run. -/
def runNames (own input : String) : Context → Names
  | .given value =>
    ownNames own ++ [("input", .str input), ("context", .str value.line)]
  | .chained prompt entries visited =>
    ownNames own ++
      [("input", .str input), ("prompt", .str prompt),
       ("memory", .str (entriesText entries)), ("visited", shownAgents visited),
       ("context", .str "")]

/-- Names known after a subtask. -/
def subtaskNames (own : String) (o : Outcome) (context : Json) : Names :=
  ownNames own ++
    [("output", .str o.output), ("error", (o.error.map Json.str).getD .null),
     ("success", .bool o.success), ("context", .str context.line)]

/-- The scripts of one agent. -/
structure Parts where
  run : List Step
  afterSubtask : Option (List Step)
  start : Option (List Step)
  stop : Option (List Step)

/-- The agent that follows scripts. -/
def agent (kind : Option String) (name : String) (capabilities : List String)
    (parts : Parts) : Agent where
  name := name
  capabilities := sortedTexts capabilities
  kind := kind
  run input context := behaviour name (runNames name input context) parts.run
  afterSubtask := parts.afterSubtask.map fun steps o context =>
    behaviour name (subtaskNames name o context) steps
  start := parts.start.map (behaviour name (ownNames name))
  stop := parts.stop.map (behaviour name (ownNames name))

end PromptDispatch.Script
