import PromptDispatch.Fault
import PromptDispatch.Gateway.Form
import PromptDispatch.Json.Standard

/-!
# Messages of the gateway

A request names a method and a target and may bring a body; a response has a
status and a JSON body.  A response to a prompt that came too early also tells
after how many whole seconds another attempt may succeed.

Texts that are sent hold whole characters: an agent's text with half of one, which could
not be encoded, is left out.
-/

namespace PromptDispatch.Gateway

/-- A request. -/
structure Request where
  method : String
  target : String
  body : String := ""
  contentType : String := "application/json"

/-- Path of a request's target, without query and fragment.  Characters that are spelled
by their numbers there are left out. -/
def Request.path (request : Request) : String :=
  String.ofList (request.target.toList.takeWhile fun c => c ≠ '?' && c ≠ '#')

/-- A response. -/
structure Response where
  status : Nat
  body : Json
  /-- whole seconds to wait -/
  retryAfter : Option Int := none

namespace Response

/-- A response that a request succeeded. -/
def ok (body : Json) : Response := ⟨200, body, none⟩

/-- A response with a detail and nothing else. -/
def detailed (status : Nat) (detail : Json) : Response :=
  ⟨status, .obj [("detail", detail)], none⟩

/-- Nothing is served under the path. -/
def notFound : Response := detailed 404 (.str "Not Found")

/-- The path is served, but not for the method. -/
def methodNotAllowed : Response := detailed 405 (.str "Method Not Allowed")

/-- The path is served without the slashes at its end. -/
def elsewhere : Response := ⟨307, .null, none⟩

/-- A fault of the gateway's own. -/
def internal (message : String) : Response :=
  ⟨500, ErrorResponse.toJson ⟨message, some "INTERNAL_ERROR"⟩, none⟩

/-- The handling of a request was cancelled, and there is nothing to tell. -/
def broken : Response := ⟨500, .null, none⟩

/-- A prompt came too early.  The wait is rounded up and at least one second;
a wait that is no number of seconds is a fault. -/
def throttled (output : String) (wait : Binary64) : Response :=
  match wait with
  | .nan => internal "cannot convert float NaN to integer"
  | .infinite _ => internal "cannot convert float infinity to integer"
  | .finite _ _ =>
    ⟨429, PromptResponse.toJson ⟨output, true⟩, some (max 1 ((wait.ceil?).getD 1))⟩

/-- The response itself, unless strict JSON cannot hold its body. -/
def checked (response : Response) : Response :=
  if response.body.isStandard then response
  else internal "Out of range float values are not JSON compliant"

end Response

end PromptDispatch.Gateway
