import PromptDispatch.Json.Basic
import PromptDispatch.Binary64.Shortest

/-!
# JSON text

Two layouts of one text: on a single line with a blank after every comma and
colon, and indented with one item a line.  The text is ASCII: other characters
are written as escapes of four hexadecimal digits, two of them beyond U+FFFF.

Printers put their characters in front of a given rest, so that printing is
read off the value alone and costs time in proportion to the text.  They print values of
any depth; a machine that prints does not get to the end of all of them.
-/

namespace PromptDispatch.Json

/-- The hexadecimal digit of a value below sixteen. -/
def hexDigit (n : Nat) : Char :=
  if n < 10 then Char.ofNat (48 + n) else Char.ofNat (87 + n)

/-- An escape of four hexadecimal digits. -/
def escapeUnit (n : Nat) (rest : List Char) : List Char :=
  '\x5c' :: 'u' :: hexDigit (n / 4096 % 16) :: hexDigit (n / 256 % 16) ::
    hexDigit (n / 16 % 16) :: hexDigit (n % 16) :: rest

/-- One character of a string. -/
def charText (c : Char) (rest : List Char) : List Char :=
  let n := c.toNat
  if n = 34 then '\x5c' :: '\x22' :: rest
  else if n = 92 then '\x5c' :: '\x5c' :: rest
  else if n = 10 then '\x5c' :: 'n' :: rest
  else if n = 13 then '\x5c' :: 'r' :: rest
  else if n = 9 then '\x5c' :: 't' :: rest
  else if n = 12 then '\x5c' :: 'f' :: rest
  else if n = 8 then '\x5c' :: 'b' :: rest
  else if 32 ≤ n ∧ n ≤ 126 then c :: rest
  else if n < 65536 then escapeUnit n rest
  else
    escapeUnit (55296 + (n - 65536) / 1024)
      (escapeUnit (56320 + (n - 65536) % 1024) rest)

/-- A string in double quotes. -/
def stringText (s : String) (rest : List Char) : List Char :=
  '\x22' :: s.toList.foldr charText ('\x22' :: rest)

/-- A value that is neither a list nor an object. -/
def scalarText : Json → List Char → List Char
  | .null, rest => "null".toList ++ rest
  | .bool b, rest => (if b then "true" else "false").toList ++ rest
  | .int n, rest => (toString n).toList ++ rest
  | .float x, rest => (x.text Binary64.jsonLayout).toList ++ rest
  | .str s, rest => stringText s rest
  | _, rest => stringText "<opaque>" rest

mutual

/-- A value on one line. -/
def lineText : Json → List Char → List Char
  | .arr items, rest => '[' :: lineItems items (']' :: rest)
  | .obj fields, rest => '\x7b' :: lineFields fields ('\x7d' :: rest)
  | v, rest => scalarText v rest

/-- List items with commas between them. -/
def lineItems : List Json → List Char → List Char
  | [], rest => rest
  | v :: items, rest => lineText v (lineMoreItems items rest)

/-- Further list items, each after a comma. -/
def lineMoreItems : List Json → List Char → List Char
  | [], rest => rest
  | v :: items, rest => ',' :: ' ' :: lineText v (lineMoreItems items rest)

/-- Object fields with commas between them. -/
def lineFields : List (String × Json) → List Char → List Char
  | [], rest => rest
  | f :: fields, rest => lineField f (lineMoreFields fields rest)

/-- Further object fields, each after a comma. -/
def lineMoreFields : List (String × Json) → List Char → List Char
  | [], rest => rest
  | f :: fields, rest => ',' :: ' ' :: lineField f (lineMoreFields fields rest)

/-- One field. -/
def lineField : String × Json → List Char → List Char
  | (k, v), rest => stringText k (':' :: ' ' :: lineText v rest)

end

/-- A value's text on one line. -/
def line (v : Json) : String := String.ofList (lineText v [])

/-- A line break and the indentation of a depth, two blanks a level. -/
def breakTo (depth : Nat) (rest : List Char) : List Char :=
  '\n' :: (List.replicate (2 * depth) ' ' ++ rest)

mutual

/-- A value in the indented layout, at a depth. -/
def pageText (depth : Nat) : Json → List Char → List Char
  | .arr items, rest => '[' :: pageItems (depth + 1) items (']' :: rest)
  | .obj fields, rest => '\x7b' :: pageFields (depth + 1) fields ('\x7d' :: rest)
  | v, rest => scalarText v rest

/-- List items, one a line; an empty list stays on its line. -/
def pageItems (depth : Nat) : List Json → List Char → List Char
  | [], rest => rest
  | v :: items, rest =>
    breakTo depth (pageText depth v (pageMoreItems depth items rest))

/-- Further list items and the line break before the closing bracket. -/
def pageMoreItems (depth : Nat) : List Json → List Char → List Char
  | [], rest => breakTo (depth - 1) rest
  | v :: items, rest =>
    ',' :: breakTo depth (pageText depth v (pageMoreItems depth items rest))

/-- Object fields, one a line; an empty object stays on its line. -/
def pageFields (depth : Nat) : List (String × Json) → List Char → List Char
  | [], rest => rest
  | f :: fields, rest =>
    breakTo depth (pageField depth f (pageMoreFields depth fields rest))

/-- Further object fields and the line break before the closing brace. -/
def pageMoreFields (depth : Nat) : List (String × Json) → List Char → List Char
  | [], rest => breakTo (depth - 1) rest
  | f :: fields, rest =>
    ',' :: breakTo depth (pageField depth f (pageMoreFields depth fields rest))

/-- One field. -/
def pageField (depth : Nat) : String × Json → List Char → List Char
  | (k, v), rest => stringText k (':' :: ' ' :: pageText depth v rest)

end

/-- A value's text in the indented layout. -/
def page (v : Json) : String := String.ofList (pageText 0 v [])

end PromptDispatch.Json
