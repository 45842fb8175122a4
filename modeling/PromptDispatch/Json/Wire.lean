import PromptDispatch.Json.Printer
import PromptDispatch.Json.Reader

/-!
# JSON on the wire

What is sent over a network has no blanks between its parts and holds all
characters as they are, but for quotes, backslashes and controls inside
strings.  What is received may begin with a byte order mark.
-/

namespace PromptDispatch.Json

/-- One character of a string on the wire. -/
def wireChar (c : Char) (rest : List Char) : List Char :=
  if c.toNat < 127 then charText c rest else c :: rest

/-- A string on the wire. -/
def wireString (s : String) (rest : List Char) : List Char :=
  '\x22' :: s.toList.foldr wireChar ('\x22' :: rest)

mutual

/-- A value on the wire. -/
def wireText : Json → List Char → List Char
  | .arr items, rest => '[' :: wireItems items (']' :: rest)
  | .obj fields, rest => '\x7b' :: wireFields fields ('\x7d' :: rest)
  | .str s, rest => wireString s rest
  | v, rest => scalarText v rest

/-- List items with commas between them. -/
def wireItems : List Json → List Char → List Char
  | [], rest => rest
  | v :: items, rest => wireText v (wireMoreItems items rest)

/-- Further list items, each after a comma. -/
def wireMoreItems : List Json → List Char → List Char
  | [], rest => rest
  | v :: items, rest => ',' :: wireText v (wireMoreItems items rest)

/-- Object fields with commas between them. -/
def wireFields : List (String × Json) → List Char → List Char
  | [], rest => rest
  | f :: fields, rest => wireField f (wireMoreFields fields rest)

/-- Further object fields, each after a comma. -/
def wireMoreFields : List (String × Json) → List Char → List Char
  | [], rest => rest
  | f :: fields, rest => ',' :: wireField f (wireMoreFields fields rest)

/-- One field. -/
def wireField : String × Json → List Char → List Char
  | (k, v), rest => wireString k (':' :: wireText v rest)

end

/-- A value's text on the wire. -/
def wire (v : Json) : String := String.ofList (wireText v [])

/-- A text without a leading byte order mark. -/
def withoutMark : List Char → List Char
  | '\ufeff' :: cs => cs
  | cs => cs

/-- Reads a text that was received. -/
def readWire (text : String) : Except ReadError Json := readChars (withoutMark text.toList)

end PromptDispatch.Json
