import PromptDispatch.Unicode.Hidden
import PromptDispatch.Json.Printer

/-!
# Quoted text in messages

Text is quoted with single quotes, or with double quotes when it holds a single
quote and no double one.  The chosen quote, the backslash, tabs and line ends
are escaped by a backslash; hidden characters are shown by their code in two,
four or eight hexadecimal digits.
-/

namespace PromptDispatch.Text

/-- The last `count` hexadecimal digits of a number. -/
def hexDigits : Nat → Nat → List Char
  | 0, _ => []
  | count + 1, n => hexDigits count (n / 16) ++ [Json.hexDigit (n % 16)]

/-- The quote a text is put in. -/
def quoteFor (cs : List Char) : Char :=
  if cs.contains '\x27' && !cs.contains '\x22' then '\x22' else '\x27'

/-- One character between quotes. -/
def quotedChar (quote c : Char) : List Char :=
  let n := c.toNat
  if c = quote ∨ c = '\x5c' then ['\x5c', c]
  else if c = '\t' then ['\x5c', 't']
  else if c = '\n' then ['\x5c', 'n']
  else if c = '\r' then ['\x5c', 'r']
  else if !Unicode.isHidden c || c = ' ' then [c]
  else if n < 256 then '\x5c' :: 'x' :: hexDigits 2 n
  else if n < 65536 then '\x5c' :: 'u' :: hexDigits 4 n
  else '\x5c' :: 'U' :: hexDigits 8 n

/-- A text in quotes. -/
def quoted (s : String) : String :=
  let cs := s.toList
  let quote := quoteFor cs
  String.ofList (quote :: cs.flatMap (quotedChar quote) ++ [quote])

end PromptDispatch.Text
