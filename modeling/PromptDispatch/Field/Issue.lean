import PromptDispatch.Json.Basic

/-!
# Issues of incoming fields

A value that does not fit its field gives an issue: what is wrong, where, and
the value that was there.  Every cause has a code for programs and a wording
for people; both are those that pydantic documents, which checks the fields for the
program and is not part of it.
-/

namespace PromptDispatch.Field

/-- What is wrong with a value. -/
inductive Cause where
  | missing
  | notText
  | notTruth
  | unreadableTruth
  | notWhole
  | unreadableWhole
  | wholeTooLong
  | fractional
  | notFinite
  | notNumber
  | unreadableNumber
  | notList
  | notMapping
  | notObject
  | notPath
  | tooShort (least : Nat)
  | tooLong (most : Nat)
  | notAbove (bound : Int)
  | below (bound : Int)
  | notAmong (choices : String)
  | rejected (reason : String)
  | unreadableJson (reason : String)
deriving DecidableEq, Repr

/-- Code of a cause. -/
def Cause.code : Cause → String
  | .missing => "missing"
  | .notText => "string_type"
  | .notTruth => "bool_type"
  | .unreadableTruth => "bool_parsing"
  | .notWhole => "int_type"
  | .unreadableWhole => "int_parsing"
  | .wholeTooLong => "int_parsing_size"
  | .fractional => "int_from_float"
  | .notFinite => "finite_number"
  | .notNumber => "float_type"
  | .unreadableNumber => "float_parsing"
  | .notList => "list_type"
  | .notMapping => "dict_type"
  | .notObject => "model_attributes_type"
  | .notPath => "path_type"
  | .tooShort _ => "string_too_short"
  | .tooLong _ => "string_too_long"
  | .notAbove _ => "greater_than"
  | .below _ => "greater_than_equal"
  | .notAmong _ => "enum"
  | .rejected _ => "value_error"
  | .unreadableJson _ => "json_invalid"

/-- A number of characters in words. -/
def characters (n : Nat) : String :=
  toString n ++ (if n = 1 then " character" else " characters")

/-- Wording of a cause. -/
def Cause.wording : Cause → String
  | .missing => "Field required"
  | .notText => "Input should be a valid string"
  | .notTruth => "Input should be a valid boolean"
  | .unreadableTruth => "Input should be a valid boolean, unable to interpret input"
  | .notWhole => "Input should be a valid integer"
  | .unreadableWhole =>
    "Input should be a valid integer, unable to parse string as an integer"
  | .wholeTooLong => "Unable to parse input string as an integer, exceeded maximum size"
  | .fractional => "Input should be a valid integer, got a number with a fractional part"
  | .notFinite => "Input should be a finite number"
  | .notNumber => "Input should be a valid number"
  | .unreadableNumber =>
    "Input should be a valid number, unable to parse string as a number"
  | .notList => "Input should be a valid list"
  | .notMapping => "Input should be a valid dictionary"
  | .notObject => "Input should be a valid dictionary or object to extract fields from"
  | .notPath => "Input is not a valid path for <class 'pathlib.Path'>"
  | .tooShort least => "String should have at least " ++ characters least
  | .tooLong most => "String should have at most " ++ characters most
  | .notAbove bound => "Input should be greater than " ++ toString bound
  | .below bound => "Input should be greater than or equal to " ++ toString bound
  | .notAmong choices => "Input should be " ++ choices
  | .rejected reason => "Value error, " ++ reason
  | .unreadableJson _ => "JSON decode error"

/-- Figures and texts a cause speaks of, by name. -/
def Cause.particulars : Cause → List (String × Json)
  | .tooShort least => [("min_length", .int least)]
  | .tooLong most => [("max_length", .int most)]
  | .notAbove bound => [("gt", .int bound)]
  | .below bound => [("ge", .int bound)]
  | .notAmong choices => [("expected", .str choices)]
  | .rejected _ => [("error", .obj [])]
  | .unreadableJson reason => [("error", .str reason)]
  | _ => []

/-- A cause, the place of the value, and the value. -/
structure Issue where
  place : List String
  cause : Cause
  value : Json

/-- All issues of one form. -/
structure Report where
  form : String
  issues : List Issue

end PromptDispatch.Field
