import PromptDispatch.Dispatch.Basic
import PromptDispatch.Gateway.Body

/-!
# The gateway

The gateway answers requests from a session: it dispatches prompts, lists the
registered agents and the recorded prompts, and tells the state of health.  It
starts the agents before the first request; after the last one it stops them
and keeps the store, unless stopping them was cancelled.

How a prompt is handled is a parameter, so that what the gateway makes of a
fault can be told without a dispatcher that has it.

The gateway stands behind a web framework, FastAPI, which is not part of it.  The front
of the framework decides which endpoint a request is for, and answers all requests
itself that are for none; it is a parameter as well.  Of a front nothing is assumed here
but that it does not touch the session.
-/

namespace PromptDispatch.Gateway

/-- What is served. -/
inductive Endpoint where
  | prompt
  | agents
  | history
  | health
deriving DecidableEq, Repr

namespace Endpoint

/-- The path an endpoint is served under. -/
def path : Endpoint → String
  | .prompt => "/prompt"
  | .agents => "/agents"
  | .history => "/history"
  | .health => "/health"

/-- The method an endpoint is served for. -/
def method : Endpoint → String
  | .prompt => "POST"
  | _ => "GET"

/-- The endpoint that is served under a path. -/
def ofPath? (path : String) : Option Endpoint :=
  [prompt, agents, history, health].find? (·.path = path)

end Endpoint

/-- What is made of a request before anything is served: a response that is none of the
gateway's own, or the endpoint that the request is for. -/
abbrev Front := Request → Except Response Endpoint

namespace Front

/-- A path without slashes at its end. -/
def withoutSlashes (path : String) : String :=
  String.ofList ((path.toList.reverse.dropWhile (· = '/')).reverse)

/-- Paths of the pages that the framework serves itself. -/
def pages : List String := ["/docs", "/docs/oauth2-redirect", "/openapi.json", "/redoc"]

/-- The front of the framework, up to the content of its own pages.  A path has to be
that of an endpoint to the letter; slashes at the end of a path lead to a redirection. -/
def standard (page : String → Response) : Front := fun request =>
  match Endpoint.ofPath? request.path with
  | some endpoint =>
    if request.method = endpoint.method then .ok endpoint else .error .methodNotAllowed
  | none =>
    if request.path ∈ pages then
      if request.method ∈ ["GET", "HEAD"] then .error (page request.path)
      else .error .methodNotAllowed
    else
      let bare := withoutSlashes request.path
      if (Endpoint.ofPath? bare).isSome || bare ∈ pages then .error .elsewhere
      else .error .notFound

end Front

/-- How a prompt is handled. -/
abbrev Handler := String → Session → Session × Finish String

/-- A handler that only fails. -/
def failing (fault : Fault) : Handler := fun _ s => (s, .failed fault)

/-- The response to a prompt by the finish of its handling. -/
def promptResponse : Finish String → Response
  | .done output => .ok (PromptResponse.toJson ⟨output, false⟩)
  | .failed (.rateLimited wait) => .throttled Dispatcher.turnedAway wait
  | .failed fault => .internal fault.message
  | .cancelled => .broken

/-- Dispatches the prompt in a request. -/
def servePrompt (machine : Machine) (handle : Handler) (request : Request) (s : Session) :
    Session × Response :=
  match request.prompt machine with
  | .error fault => (s, fault.response)
  | .ok form =>
    let (s, finish) := handle form.prompt s
    (s, promptResponse finish)

/-- The registered agents in order of registration. -/
def agentList (s : Session) : Json :=
  .arr (s.roster.agents.map fun a => AgentInfo.toJson ⟨a.name, a.capabilities⟩)

/-- The recorded prompts, newest last. -/
def promptList (s : Session) : Json :=
  .arr (s.store.prompts.map fun p => PromptRecord.toJson ⟨p, none⟩)

/-- The state of health. -/
def health (s : Session) : Json :=
  Health.toJson ⟨"healthy", s.roster.size, s.archive.backend.text⟩

/-- Serves a request at an endpoint. -/
def serve (machine : Machine) (handle : Handler) (endpoint : Endpoint) (request : Request)
    (s : Session) : Session × Response :=
  match endpoint with
  | .prompt => servePrompt machine handle request s
  | .agents => (s, .ok (agentList s))
  | .history => (s, .ok (promptList s))
  | .health => (s, .ok (health s))

/-- Answers a request. -/
def respond (machine : Machine) (front : Front) (handle : Handler) (request : Request)
    (s : Session) : Session × Response :=
  match front request with
  | .error response => (s, response)
  | .ok endpoint =>
    let (s, response) := serve machine handle endpoint request s
    (s, response.checked)

/-- What is done before the first request.  Nothing is served when it was
cancelled. -/
def start (s : Session) : Session × Finish Unit := s.startAgents

/-- What is done after the last request.  The store is kept when all agents had
their chance to stop. -/
def stop (s : Session) : Session × Finish Unit :=
  match s.stopAgents with
  | (s, .done ()) => (s.persist.1, .done ())
  | (s, finish) => (s, finish)

end PromptDispatch.Gateway
