import PromptDispatch.CommandLine.Page
import PromptDispatch.Fault
import PromptDispatch.Json.Literal
import PromptDispatch.Json.Wire

/-!
# Sending a prompt to a broker

What is sent, and what is made of the reply.  The network is outside: a reply
is a status and a text, or a reason why there is none.
-/

namespace PromptDispatch.CommandLine

/-- How a command ends: with an exit code and an output, and with a fault when
one was not dealt with. -/
structure Ending where
  code : Nat
  output : String
  fault : Option Fault := none

namespace Ending

/-- A command that did its work. -/
def done (output : String) : Ending := ⟨0, output, none⟩

/-- A command that failed and says why. -/
def failed (message : String) : Ending := ⟨1, errorLine message, none⟩

/-- A command that ends with a fault. -/
def escaped (fault : Fault) : Ending := ⟨1, "", some fault⟩

end Ending

/-- A call to a broker. -/
structure Call where
  address : String
  body : Json
  timeout : Binary64

/-- An address without slashes at its end. -/
def trimSlashes (address : String) : String :=
  String.ofList ((address.toList.reverse.dropWhile (· = '/')).reverse)

/-- The call that sends a prompt. -/
def callFor (text url : String) (timeout : Binary64) : Call :=
  ⟨trimSlashes url ++ "/prompt", .obj [("prompt", .str text)], timeout⟩

/-- The reply to a call. -/
structure BrokerReply where
  status : Int
  text : String

/-- The value of a reply. -/
def BrokerReply.value (reply : BrokerReply) : Except Fault Json :=
  match Json.readWire reply.text with
  | .ok v => .ok v
  | .error error =>
    let message := error.message (Json.withoutMark reply.text.toList)
    .error (.foreign error.kindName message)

/-- A value as it is told: a text as it is, and others as literals. -/
def told : Json → String
  | .str s => s
  | v => v.literal

/-- What a broker says in a value, where it has to say something. -/
def outputOf : Json → Except Fault Json
  | .obj fields =>
    match Keyed.get? "output" fields with
    | some v => .ok v
    | none => .error (.foreign "KeyError" (Text.quoted "output"))
  | .arr _ => .error (.badKind "list indices must be integers or slices, not str")
  | .str _ => .error (.badKind "string indices must be integers, not 'str'")
  | v => .error (.badKind ("'" ++ v.kindName ++ "' object is not subscriptable"))

/-- What a broker says when it turns a prompt away. -/
def turnedAwayOf : Json → Except Fault Json
  | .obj fields => .ok ((Keyed.get? "output" fields).getD (.str "Rate limit exceeded"))
  | v => .error (.foreign "AttributeError" ("'" ++ v.kindName ++ "' object has no attribute 'get'"))

/-- The line of an output; there is always a line. -/
def outputLine : Json → String
  | .null => "\n"
  | v => told v ++ "\n"

/-- An ending from what a reply says. -/
def BrokerReply.ending (reply : BrokerReply) (extract : Json → Except Fault Json) (build : Json → Ending) :
    Ending :=
  match reply.value.bind extract with
  | .ok v => build v
  | .error fault => .escaped fault

/-- The ending of a sent prompt. -/
def conclude (url : String) : Except String BrokerReply → Ending
  | .error reason => .failed ("Broker unreachable at " ++ url ++ ": " ++ reason)
  | .ok reply =>
    if reply.status = 429 then reply.ending turnedAwayOf fun v => .failed (told v)
    else if reply.status ≠ 200 then
      .failed ("Broker returned " ++ toString reply.status ++ ": " ++ reply.text)
    else reply.ending outputOf fun v => .done (outputLine v)

end PromptDispatch.CommandLine
