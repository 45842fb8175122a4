import PromptDispatch.Binary64.Basic
import PromptDispatch.Keyed
import PromptDispatch.Text.Digits

/-!
# JSON values

Objects keep the order of their fields, whole numbers are exact, and all other
numbers are binary64.  A sealed value stands for something an agent stored that
has no JSON form; only the name of its kind is known.

Sameness of values compares numbers across their kinds by exact value, counts
truth values as one and zero, and ignores the order of object fields.
-/

namespace PromptDispatch

/-- A JSON value, or a sealed value without a JSON form. -/
inductive Json where
  | null
  | bool (b : Bool)
  | int (n : Int)
  | float (x : Binary64)
  | str (s : String)
  | arr (items : List Json)
  | obj (fields : List (String × Json))
  | sealed (kind : String)
deriving Repr, Inhabited

namespace Json

/-- Name of a value's kind in messages. -/
def kindName : Json → String
  | .null => "NoneType"
  | .bool _ => "bool"
  | .int _ => "int"
  | .float _ => "float"
  | .str _ => "str"
  | .arr _ => "list"
  | .obj _ => "dict"
  | .sealed kind => kind

/-- Field of an object. -/
def field? (k : String) : Json → Option Json
  | .obj fields => Keyed.get? k fields
  | _ => none

/-- Most digits a whole number may be written with. -/
def digitLimit : Nat := Text.digitLimit

/-- Why a value has no JSON text. -/
inductive Obstacle where
  /-- a sealed value, by the name of its kind -/
  | sealed (kind : String)
  /-- a whole number with too many digits -/
  | tooManyDigits
deriving DecidableEq, Repr

/-- Message of an obstacle. -/
def Obstacle.message : Obstacle → String
  | .sealed kind => "Object of type " ++ kind ++ " is not JSON serializable"
  | .tooManyDigits => Text.tooLargeForText

mutual

/-- The first obstacle inside a value, if there is one. -/
def obstacle? : Json → Option Obstacle
  | .int n => if n.natAbs < Nat.pow 10 digitLimit then none else some .tooManyDigits
  | .arr items => obstacleInItems? items
  | .obj fields => obstacleInFields? fields
  | .sealed kind => some (.sealed kind)
  | _ => none

/-- The first obstacle among list items. -/
def obstacleInItems? : List Json → Option Obstacle
  | [] => none
  | v :: rest => (obstacle? v).or (obstacleInItems? rest)

/-- The first obstacle among object fields. -/
def obstacleInFields? : List (String × Json) → Option Obstacle
  | [] => none
  | f :: rest => (obstacleInField? f).or (obstacleInFields? rest)

/-- The first obstacle in one field. -/
def obstacleInField? : String × Json → Option Obstacle
  | (_, v) => obstacle? v

end

/-- A number by its exact value: whole, or binary64. -/
inductive Number where
  | whole (n : Int)
  | real (x : Binary64)

/-- The number a value counts as in comparisons. -/
def number? : Json → Option Number
  | .bool b => some (.whole (if b then 1 else 0))
  | .int n => some (.whole n)
  | .float x => some (.real x)
  | _ => none

/-- Sameness of numbers by exact value; what is not a number is the same as
itself. -/
def Number.same : Number → Number → Bool
  | .whole m, .whole n => m == n
  | .whole m, .real y => y.isInt m
  | .real x, .whole n => x.isInt n
  | .real x, .real y => x.sameValue y || (x == .nan && y == .nan)

mutual

/-- Sameness of values. -/
def same : Json → Json → Bool
  | .null, .null => true
  | .str s, .str t => s == t
  | .arr xs, .arr ys => sameItems xs ys
  | .obj fs, .obj gs => fs.length == gs.length && sameFields fs gs
  | x, y =>
    match number? x, number? y with
    | some m, some n => m.same n
    | _, _ => false

/-- Sameness of lists, place by place. -/
def sameItems : List Json → List Json → Bool
  | [], [] => true
  | x :: xs, y :: ys => same x y && sameItems xs ys
  | _, _ => false

/-- Every field has a field of the same name and value on the other side. -/
def sameFields : List (String × Json) → List (String × Json) → Bool
  | [], _ => true
  | f :: fs, gs => sameField f gs && sameFields fs gs

/-- One field has a field of the same name and value on the other side. -/
def sameField : String × Json → List (String × Json) → Bool
  | (k, v), gs =>
    match Keyed.get? k gs with
    | some w => same v w
    | none => false

end

end Json

end PromptDispatch
