import PromptDispatch.Field.Issue
import PromptDispatch.Text.Real

/-!
# Lenient conversion of field values

A field takes values of its own kind and those that stand for one: words and
the numbers one and zero for truth values, numbers without a fractional part
and their texts for whole numbers, whole numbers and texts for numbers.

The program leaves the reading of fields to pydantic, which is not part of it; what is
assumed of it here is the table of conversions that it documents for its lax mode.
-/

namespace PromptDispatch.Field

/-- A text. -/
def text : Json → Except Cause String
  | .str s => .ok s
  | _ => .error .notText

/-- A text or nothing. -/
def optionalText : Json → Except Cause (Option String)
  | .null => .ok none
  | .str s => .ok (some s)
  | _ => .error .notText

/-- A text with a least number of characters. -/
def textFrom (least : Nat) (v : Json) : Except Cause String := do
  let s ← text v
  if s.length < least then throw (.tooShort least)
  return s

/-- A text with a least and a greatest number of characters. -/
def textWithin (least most : Nat) (v : Json) : Except Cause String := do
  let s ← textFrom least v
  if most < s.length then throw (.tooLong most)
  return s

/-- The truth value a word stands for. -/
def truthWord? (s : String) : Option Bool :=
  let word := String.ofList (s.toList.map Text.lowerAscii)
  if ["0", "off", "f", "false", "n", "no"].contains word then some false
  else if ["1", "on", "t", "true", "y", "yes"].contains word then some true
  else none

/-- Whether a whole number has a place in 64 bits. -/
def isWord64 (n : Int) : Bool := -Int.pow 2 63 ≤ n && n < Int.pow 2 63

/-- The truth value a whole number stands for.  One without a place in 64 bits
is no truth value in any spelling. -/
def truthNumber (n : Int) : Except Cause Bool :=
  if n = 0 then .ok false
  else if n = 1 then .ok true
  else if isWord64 n then .error .unreadableTruth
  else .error .notTruth

/-- A truth value. -/
def truth : Json → Except Cause Bool
  | .bool b => .ok b
  | .str s => ((truthWord? s).map .ok).getD (.error .unreadableTruth)
  | .int n => truthNumber n
  | .float x =>
    match x.toInt? with
    | some n => truthNumber n
    | none => .error .notTruth
  | _ => .error .notTruth

/-- Drops a point and the zeros after it, when there is at least one and
nothing else follows. -/
def dropZeroPlaces (cs : List Char) : List Char :=
  let whole := cs.takeWhile (· ≠ '.')
  match cs.dropWhile (· ≠ '.') with
  | _ :: z :: zs => if (z :: zs).all (· = '0') then whole else cs
  | _ => cs

/-- Drops low lines when each stands alone and inside. -/
def dropSingleLowLines (cs : List Char) : List Char :=
  let outer := cs.head? = some '_' || cs.getLast? = some '_'
  let double := (cs.zip (cs.drop 1)).any fun (a, b) => a = '_' && b = '_'
  if outer || double then cs else cs.filter (· ≠ '_')

/-- Most bytes of a text that is read as a whole number. -/
def wholeTextLimit : Nat := 4300

/-- The whole number a text stands for. -/
def wholeText (s : String) : Except Cause Int :=
  let cs := Text.trimSpace s.toList
  let (negative, body) := Text.splitSign cs
  let digits := dropSingleLowLines (dropZeroPlaces body)
  match Text.leadingDigits digits with
  | ([], _) => .error .unreadableWhole
  | (ds, []) =>
    if wholeTextLimit < digits.length then .error .wholeTooLong
    else .ok (if negative then -(Text.digitsValue ds : Int) else Text.digitsValue ds)
  | _ => .error .unreadableWhole

/-- The whole number a binary64 number is. -/
def wholeReal (x : Binary64) : Except Cause Int :=
  match x.units? with
  | none => .error .notFinite
  | some _ =>
    match x.toInt? with
    | none => .error .fractional
    | some n => if -Int.pow 2 63 < n ∧ n < Int.pow 2 63 then .ok n else .error .wholeTooLong

/-- A whole number. -/
def whole : Json → Except Cause Int
  | .bool b => .ok (if b then 1 else 0)
  | .int n => .ok n
  | .float x => wholeReal x
  | .str s => wholeText s
  | _ => .error .notWhole

/-- The number a text stands for: there may be white space around it, or single
low lines inside it. -/
def numberText (s : String) : Except Cause Binary64 :=
  match (Text.signedReal? (Text.trimSpace s.toList)).or
      (Text.signedReal? (dropSingleLowLines s.toList)) with
  | some x => .ok x
  | none => .error .unreadableNumber

/-- A number. -/
def number : Json → Except Cause Binary64
  | .bool b => .ok (Binary64.ofInt (if b then 1 else 0))
  | .int n =>
    match Binary64.ofInt n with
    | .infinite _ => .error .notNumber
    | x => .ok x
  | .float x => .ok x
  | .str s => numberText s
  | _ => .error .notNumber

/-- The fields of an object. -/
def mapping : Json → Except Cause (List (String × Json))
  | .obj fields => .ok fields
  | _ => .error .notMapping

end PromptDispatch.Field
