import PromptDispatch.Field.Form

/-!
# Outcomes of agents

Every run of an agent ends in one outcome: whether it succeeded, its output,
and an error text.  A failure always says what went wrong: without an error
text its output stands for it, and without both it is unknown.
-/

namespace PromptDispatch

/-- The outcome of one run of an agent. -/
structure Outcome where
  success : Bool
  output : String
  error : Option String
deriving DecidableEq, Repr

namespace Outcome

/-- Error text of a failure whose own error text is missing or empty. -/
def fallbackError (output : String) : String :=
  if output = "" then "unknown error" else output

/-- The outcome with the given parts; a failure gets its error text. -/
def make (success : Bool) (output : String) (error : Option String) : Outcome :=
  if success then ⟨true, output, error⟩
  else
    match error with
    | some e => ⟨false, output, some (if e = "" then fallbackError output else e)⟩
    | none => ⟨false, output, some (fallbackError output)⟩

/-- A success. -/
def ok (output : String) : Outcome := make true output none

/-- A failure with its error text and its output. -/
def failWith (error output : String) : Outcome := make false output (some error)

/-- A failure whose output is its error text. -/
def fail (error : String) : Outcome := failWith error error

/-- Reads an outcome from fields. -/
def ofFields (fields : List (String × Json)) : Except Field.Report Outcome :=
  Field.form "AgentResult"
    (Field.both (Field.required "success" Field.truth fields)
      (Field.both (Field.optional "output" "" Field.text fields)
        (Field.optional "error" none Field.optionalText fields)))
    fun (success, output, error) => make success output error

/-- A success with an output of any kind. -/
def okFrom (output : Json) : Except Field.Report Outcome :=
  ofFields [("success", .bool true), ("output", output)]

/-- A failure with error text and output of any kind; without an output the
error text stands for it. -/
def failFrom (error output : Json) : Except Field.Report Outcome :=
  let output := match output with
    | .null => error
    | v => v
  ofFields [("success", .bool false), ("output", output), ("error", error)]

/-- An outcome as JSON. -/
def toJson (o : Outcome) : Json :=
  .obj [("success", .bool o.success), ("output", .str o.output),
    ("error", (o.error.map Json.str).getD .null)]

end Outcome

end PromptDispatch
