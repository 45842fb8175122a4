import PromptDispatch.Gateway.Message
import PromptDispatch.Json.Wire
import PromptDispatch.Machine
import PromptDispatch.Unicode.Case

/-!
# Bodies of requests

A body is JSON when its content type says so, and plain text otherwise.  What
keeps a body from being a request to dispatch a prompt is told in detail: the
kind of the issue, its place inside the body, its wording, and the value that
was there.

The program leaves all of this to FastAPI and pydantic, which are not part of it.  What
is assumed of them is what they document: a body that is announced as JSON is read by
the reader of the language and checked against the form, one that cannot be read for
another reason than its syntax is answered with the status 400, any other one that is
not the form with 422 and its issues, and an answer is written as strict JSON.  A body is
taken to be text in UTF-8.  What becomes of a body that spells half of a character, which
no text here can hold, is left out: it counts as one that cannot be read.
-/

namespace PromptDispatch.Gateway

/-- What keeps a body from being a form. -/
inductive BodyFault where
  /-- there is no body -/
  | absent
  /-- the body is no JSON text -/
  | refused (cause : Json.Refusal) (position : Nat)
  /-- the body cannot be read, though not for its syntax: a number has more digits than
  are converted, or the body is too deep -/
  | unparsed
  /-- the body is JSON, but the form has issues -/
  | unfit (issues : List Field.Issue)

/-- Whether a content type announces JSON: `application/json`, or a type of
that family that ends in `+json`.  Parameters after a semicolon do not count. -/
def announcesJson (contentType : String) : Bool :=
  let kind := contentType.toList.takeWhile (· ≠ ';')
  let kind := (Unicode.lowerText (String.ofList (Text.trimBlanks kind))).toList
  let family := String.ofList (kind.takeWhile (· ≠ '/'))
  let form := (kind.dropWhile (· ≠ '/')).drop 1
  kind.count '/' = 1 && family = "application" &&
    (String.ofList form = "json" || "+json".toList.reverse.isPrefixOf form.reverse)

/-- Why a machine does not get to the end of a body. -/
def Request.readFault? (machine : Machine) (request : Request) : Option Fault :=
  machine.readFault? (String.ofList (Json.withoutMark request.body.toList))

/-- The value of a body on a machine. -/
def Request.value (machine : Machine) (request : Request) : Except BodyFault Json :=
  if request.body = "" then .error .absent
  else if announcesJson request.contentType then
    match request.readFault? machine with
    | some _ => .error .unparsed
    | none =>
      match Json.readWire request.body with
      | .ok v => .ok v
      | .error (.refused cause position) => .error (.refused cause position)
      | .error (.tooManyDigits _ _) | .error (.halved _) => .error .unparsed
  else .ok (.str request.body)

/-- The request to dispatch a prompt that a body is on a machine. -/
def Request.prompt (machine : Machine) (request : Request) : Except BodyFault PromptRequest :=
  match request.value machine with
  | .error fault => .error fault
  | .ok (.obj fields) => (PromptRequest.ofFields fields).mapError fun r => .unfit r.issues
  | .ok v => .error (.unfit [⟨[], .notObject, v⟩])

/-- An issue in detail, at a place inside the body. -/
def issueDetail (place : List Json) (cause : Field.Cause) (value : Json) : Json :=
  let particulars := cause.particulars
  .obj ([("type", .str cause.code), ("loc", .arr (.str "body" :: place)),
      ("msg", .str cause.wording), ("input", value)] ++
    if particulars.isEmpty then [] else [("ctx", .obj particulars)])

/-- A response that a body is not what was asked for. -/
def unprocessable (details : List Json) : Response :=
  Response.detailed 422 (.arr details)

/-- The response to a fault of the body. -/
def BodyFault.response : BodyFault → Response
  | .absent => unprocessable [issueDetail [] .missing .null]
  | .refused cause position =>
    unprocessable [issueDetail [.int position] (.unreadableJson cause.wording) (.obj [])]
  | .unparsed => .detailed 400 (.str "There was an error parsing the body")
  | .unfit issues =>
    unprocessable (issues.map fun i => issueDetail (i.place.map Json.str) i.cause i.value)

end PromptDispatch.Gateway
