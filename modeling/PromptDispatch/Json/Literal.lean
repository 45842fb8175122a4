import PromptDispatch.Text.Quoted

/-!
# Values in messages

Values shown inside messages are written as literals: texts are quoted as in
messages, truth values are capitalised, and the empty value is `None`.
-/

namespace PromptDispatch.Json

/-- Literal of a value that is neither a list nor an object. -/
def scalarLiteral : Json → List Char
  | .null => "None".toList
  | .bool b => (if b then "True" else "False").toList
  | .int n => (toString n).toList
  | .float x => (x.text Binary64.plain).toList
  | .str s => (Text.quoted s).toList
  | _ => "<opaque>".toList

mutual

/-- Characters of a literal. -/
def literalText : Json → List Char
  | .arr items => '[' :: literalItems items
  | .obj fields => '\x7b' :: literalFields fields
  | v => scalarLiteral v

/-- The items of a list and the closing bracket. -/
def literalItems : List Json → List Char
  | [] => [']']
  | v :: rest => literalText v ++ literalMoreItems rest

/-- The items after the first. -/
def literalMoreItems : List Json → List Char
  | [] => [']']
  | v :: rest => ',' :: ' ' :: (literalText v ++ literalMoreItems rest)

/-- The fields of an object and the closing brace. -/
def literalFields : List (String × Json) → List Char
  | [] => ['\x7d']
  | f :: rest => literalField f ++ literalMoreFields rest

/-- The fields after the first. -/
def literalMoreFields : List (String × Json) → List Char
  | [] => ['\x7d']
  | f :: rest => ',' :: ' ' :: (literalField f ++ literalMoreFields rest)

/-- One field. -/
def literalField : String × Json → List Char
  | (k, v) => (Text.quoted k).toList ++ ':' :: ' ' :: literalText v

end

/-- A value as a literal. -/
def literal (v : Json) : String := String.ofList (literalText v)

end PromptDispatch.Json
