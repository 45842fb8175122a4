import PromptDispatch.Field.Form

/-!
# Forms of the gateway

What the gateway takes and gives: the request to dispatch a prompt, its answer,
the summary of an agent, the state of health, an error, and the record of a
prompt.
-/

namespace PromptDispatch.Gateway

/-- A request to dispatch a prompt. -/
structure PromptRequest where
  prompt : String

/-- Most characters of a prompt. -/
def longestPrompt : Nat := 10000

/-- Reads a request. -/
def PromptRequest.ofFields (fields : List (String × Json)) :
    Except Field.Report PromptRequest :=
  Field.form "PromptRequest"
    (Field.required "prompt" (Field.textWithin 1 longestPrompt) fields) PromptRequest.mk

/-- A request as JSON. -/
def PromptRequest.toJson (r : PromptRequest) : Json := .obj [("prompt", .str r.prompt)]

/-- The answer to a prompt. -/
structure PromptResponse where
  output : String
  rateLimited : Bool

/-- Reads an answer. -/
def PromptResponse.ofFields (fields : List (String × Json)) :
    Except Field.Report PromptResponse :=
  Field.form "PromptResponse"
    (Field.both (Field.required "output" Field.text fields)
      (Field.optional "rate_limited" false Field.truth fields))
    fun (output, rateLimited) => ⟨output, rateLimited⟩

/-- An answer as JSON. -/
def PromptResponse.toJson (r : PromptResponse) : Json :=
  .obj [("output", .str r.output), ("rate_limited", .bool r.rateLimited)]

/-- The summary of an agent. -/
structure AgentInfo where
  name : String
  capabilities : List String

/-- Reads a summary. -/
def AgentInfo.ofFields (fields : List (String × Json)) : Except Field.Report AgentInfo :=
  Field.form "AgentInfo"
    (Field.both (Field.required "agent_id" Field.text fields)
      (Field.requiredList "capabilities" Field.text fields))
    fun (name, capabilities) => ⟨name, capabilities⟩

/-- A summary as JSON. -/
def AgentInfo.toJson (a : AgentInfo) : Json :=
  .obj [("agent_id", .str a.name), ("capabilities", .arr (a.capabilities.map Json.str))]

/-- The state of health. -/
structure Health where
  broker : String
  agents : Int
  persistence : String

/-- Reads a state of health. -/
def Health.ofFields (fields : List (String × Json)) : Except Field.Report Health :=
  Field.form "HealthResponse"
    (Field.both (Field.optional "broker" "healthy" Field.text fields)
      (Field.both (Field.optional "agents" 0 Field.whole fields)
        (Field.optional "persistence" "memory" Field.text fields)))
    fun (broker, agents, persistence) => ⟨broker, agents, persistence⟩

/-- A state of health as JSON. -/
def Health.toJson (h : Health) : Json :=
  .obj [("broker", .str h.broker), ("agents", .int h.agents),
    ("persistence", .str h.persistence)]

/-- An error. -/
structure ErrorResponse where
  detail : String
  code : Option String

/-- Reads an error. -/
def ErrorResponse.ofFields (fields : List (String × Json)) :
    Except Field.Report ErrorResponse :=
  Field.form "ErrorResponse"
    (Field.both (Field.required "detail" Field.text fields)
      (Field.optional "error_code" none Field.optionalText fields))
    fun (detail, code) => ⟨detail, code⟩

/-- An error as JSON. -/
def ErrorResponse.toJson (e : ErrorResponse) : Json :=
  .obj [("detail", .str e.detail), ("error_code", (e.code.map Json.str).getD .null)]

/-- The record of a prompt; the time is missing when none is known. -/
structure PromptRecord where
  prompt : String
  time : Option Binary64

/-- Reads a record. -/
def PromptRecord.ofFields (fields : List (String × Json)) :
    Except Field.Report PromptRecord :=
  Field.form "PromptRecord"
    (Field.both (Field.required "prompt" Field.text fields)
      (Field.optional "timestamp" none (fun v => (Field.number v).map some) fields))
    fun (prompt, time) => ⟨prompt, time⟩

/-- A record as JSON. -/
def PromptRecord.toJson (r : PromptRecord) : Json :=
  .obj (("prompt", .str r.prompt) ::
    (r.time.map fun t => ("timestamp", Json.float t)).toList)

end PromptDispatch.Gateway
