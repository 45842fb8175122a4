import PromptDispatch.Route.Basic

/-!
# The built-in routes

One route for each built-in agent, in the order in which their lines are
reported.
-/

namespace PromptDispatch.Route

/-- Agent, pattern and description of the built-in routes. -/
def builtinTexts : List (String × String × String) :=
  [("frontend", "\\b(?:ui|ux|frontend|react|components?|css|layout|page)\\b",
      "User interface and component work"),
   ("backend", "\\b(?:api|apis|server|backend|endpoints?|service)\\b",
      "API and server work"),
   ("database", "\\b(?:db|database|databases|schemas?|sql|migrations?|tables?)\\b",
      "Data model and schema work"),
   ("devops", "\\b(?:deploy\\w*|ci|cd|docker\\w*|infrastructure|kubernetes|pipeline)\\b",
      "Deployment and infrastructure work"),
   ("docs", "\\b(?:docs?|documentation|readme)\\b", "Documentation work")]

/-- The built-in routes. -/
def builtin : List Route :=
  builtinTexts.filterMap fun (agent, pattern, description) =>
    (make (.str agent) (.str pattern) (.str description)).toOption

/-- The agent for prompts without a route. -/
def defaultAgent : String := "frontend"

end PromptDispatch.Route
