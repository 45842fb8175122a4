import PromptDispatch.Json.Basic

/-!
# Values that strict JSON can hold

Strict JSON has no form for the infinities and for the value that is no number.
A value is standard when none of these is inside it.
-/

namespace PromptDispatch.Json

/-- Whether a number is finite. -/
def isFinite (x : Binary64) : Bool := x.units?.isSome

mutual

/-- Whether every number in a value is finite. -/
def isStandard : Json → Bool
  | .float x => isFinite x
  | .arr items => areStandard items
  | .obj fields => haveStandard fields
  | _ => true

/-- Whether every number in list items is finite. -/
def areStandard : List Json → Bool
  | [] => true
  | v :: rest => isStandard v && areStandard rest

/-- Whether every number in object fields is finite. -/
def haveStandard : List (String × Json) → Bool
  | [] => true
  | f :: rest => hasStandard f && haveStandard rest

/-- Whether every number in one field is finite. -/
def hasStandard : String × Json → Bool
  | (_, v) => isStandard v

end

end PromptDispatch.Json
