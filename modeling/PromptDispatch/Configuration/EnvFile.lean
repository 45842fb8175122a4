import PromptDispatch.Keyed
import PromptDispatch.Text.Integer

/-!
# Environment files

A file of `NAME=value` lines.  A line may begin with `export`, names and values
may be quoted, and a comment begins with a number sign: at the beginning of a
line, after a quoted value, or after blanks in a plain value.  Quoted values may
go over several lines and know a few escapes.  A line that is none of this is
skipped.

A name in braces after a dollar sign stands for the value that the name has
earlier in the file or in the environment.

The program does not read such files itself but leaves it to pydantic-settings, which is
not part of it.  The definitions here say what is assumed of that package: the syntax that
is documented for these files.  The theorems about configurations range over all bindings, so
none of them rests on how a file comes to them.
-/

namespace PromptDispatch.EnvFile

/-- A blank that does not end a line. -/
def isInlineBlank (c : Char) : Bool := Unicode.isBlank c && c ≠ '\n' && c ≠ '\r'

/-- Whether a character ends a line. -/
def isLineEnd (c : Char) : Bool := c = '\n' || c = '\r'

/-- Drops the blanks before the end of a line. -/
def dropInline (cs : List Char) : List Char := cs.dropWhile isInlineBlank

/-- Drops the word that marks a line for export. -/
def dropExport (cs : List Char) : List Char :=
  let word := "export".toList
  if word.isPrefixOf cs then
    match cs.drop word.length with
    | c :: rest => if isInlineBlank c then dropInline rest else cs
    | [] => cs
  else cs

/-- Whether a character may stand in a plain name. -/
def isNameChar (c : Char) : Bool := c ≠ '=' && c ≠ '#' && !Unicode.isBlank c

/-- A name and what follows; a comment has no name. -/
def name? : List Char → Option (Option String × List Char)
  | '#' :: rest => some (none, '#' :: rest)
  | '\x27' :: rest =>
    match rest.dropWhile (· ≠ '\x27') with
    | _ :: after =>
      let name := rest.takeWhile (· ≠ '\x27')
      if name.isEmpty then none else some (some (String.ofList name), after)
    | [] => none
  | cs =>
    let name := cs.takeWhile isNameChar
    if name.isEmpty then none
    else some (some (String.ofList name), cs.dropWhile isNameChar)

/-- Splits off what stands before the closing quote.  A quote after a backslash
does not close, unless no other does: then the last of these closes. -/
def quotedBody? (quote : Char) : List Char → Option (List Char × List Char)
  | [] => none
  | '\x5c' :: c :: rest =>
    if c = quote then
      match quotedBody? quote rest with
      | some (body, after) => some ('\x5c' :: c :: body, after)
      | none => some (['\x5c'], rest)
    else (quotedBody? quote (c :: rest)).map fun (body, after) => ('\x5c' :: body, after)
  | c :: rest =>
    if c = quote then some ([], rest)
    else (quotedBody? quote rest).map fun (body, after) => (c :: body, after)

/-- The character an escape in double quotes stands for. -/
def doubleEscape? (c : Char) : Option Char :=
  if c = '\x5c' ∨ c = '\x27' ∨ c = '\x22' then some c
  else if c = 'a' then some (Char.ofNat 7)
  else if c = 'b' then some (Char.ofNat 8)
  else if c = 'f' then some (Char.ofNat 12)
  else if c = 'n' then some '\n'
  else if c = 'r' then some '\r'
  else if c = 't' then some '\t'
  else if c = 'v' then some (Char.ofNat 11)
  else none

/-- The character an escape in single quotes stands for. -/
def singleEscape? (c : Char) : Option Char :=
  if c = '\x5c' ∨ c = '\x27' then some c else none

/-- Replaces escapes; a backslash before anything else stays. -/
def unescape (escape? : Char → Option Char) : List Char → List Char
  | [] => []
  | '\x5c' :: c :: rest =>
    match escape? c with
    | some d => d :: unescape escape? rest
    | none => '\x5c' :: unescape escape? (c :: rest)
  | c :: rest => c :: unescape escape? rest

/-- Cuts a comment off a plain value: blanks and a number sign. -/
def cutComment : List Char → List Char
  | [] => []
  | c :: cs =>
    if Unicode.isBlank c then
      match cs.dropWhile Unicode.isBlank with
      | '#' :: _ => []
      | _ => c :: cutComment cs
    else c :: cutComment cs

/-- Drops blanks at the end. -/
def trimEnd (cs : List Char) : List Char := (cs.reverse.dropWhile Unicode.isBlank).reverse

/-- A value and what follows. -/
def value? : List Char → Option (String × List Char)
  | '\x27' :: rest =>
    (quotedBody? '\x27' rest).map fun (body, after) =>
      (String.ofList (unescape singleEscape? body), after)
  | '\x22' :: rest =>
    (quotedBody? '\x22' rest).map fun (body, after) =>
      (String.ofList (unescape doubleEscape? body), after)
  | cs =>
    let line := cs.takeWhile fun c => !isLineEnd c
    some (String.ofList (trimEnd (cutComment line)), cs.dropWhile fun c => !isLineEnd c)

/-- What follows the end of a line, when there is nothing before it but a
comment. -/
def lineEnd? (cs : List Char) : Option (List Char) :=
  let rest := match dropInline cs with
    | '#' :: comment => comment.dropWhile fun c => !isLineEnd c
    | _ => cs
  match dropInline rest with
  | [] => some []
  | '\r' :: '\n' :: after => some after
  | c :: after => if isLineEnd c then some after else none

/-- A name with its value, when it has one. -/
abbrev Binding := String × Option String

/-- What follows the line that a text begins with. -/
def skipLine (cs : List Char) : List Char := (cs.dropWhile fun c => !isLineEnd c).drop 1

/-- The binding of a line and what follows it; where the line is none, the text
from the place where that shows. -/
def binding (cs : List Char) : Except (List Char) (Option Binding × List Char) :=
  let start := dropExport cs
  match name? start with
  | none => .error start
  | some (name, rest) =>
    match dropInline rest with
    | '=' :: more =>
      let written := dropInline more
      match value? written with
      | none => .error written
      | some (value, rest) =>
        match lineEnd? rest with
        | none => .error rest
        | some after => .ok (name.map fun n => (n, some value), after)
    | rest =>
      match lineEnd? rest with
      | none => .error rest
      | some after => .ok (name.map fun n => (n, none), after)

/-- The bindings of a text, in order.  The count bounds the lines left. -/
def bindings : Nat → List Char → List Binding
  | 0, _ => []
  | count + 1, cs =>
    match cs.dropWhile Unicode.isBlank with
    | [] => []
    | cs =>
      match binding cs with
      | .ok (some b, rest) => b :: bindings count rest
      | .ok (none, rest) => bindings count rest
      | .error rest => bindings count (skipLine rest)

/-- Replaces references by values.  The count bounds the characters left. -/
def expand (values : String → Option String) : Nat → List Char → List Char
  | 0, _ => []
  | _, [] => []
  | count + 1, '$' :: '\x7b' :: cs =>
    let name := cs.takeWhile fun c => c ≠ '\x7d' && c ≠ ':'
    let found := fun (absent : List Char) =>
      ((values (String.ofList name)).map String.toList).getD absent
    match cs.dropWhile fun c => c ≠ '\x7d' && c ≠ ':' with
    | '\x7d' :: rest => found [] ++ expand values count rest
    | ':' :: '-' :: more =>
      match more.dropWhile (· ≠ '\x7d') with
      | _ :: rest => found (more.takeWhile (· ≠ '\x7d')) ++ expand values count rest
      | [] => '$' :: '\x7b' :: expand values count cs
    | _ => '$' :: '\x7b' :: expand values count cs
  | count + 1, c :: cs => c :: expand values count cs

/-- Replaces references in the values of bindings, one after another.  A name
without a value counts as the empty text. -/
def resolve (environment : List (String × String)) :
    List Binding → List Binding → List Binding
  | known, [] => known
  | known, (name, value) :: rest =>
    let values := fun n =>
      match Keyed.get? n known with
      | some v => some (v.getD "")
      | none => Keyed.get? n environment
    let value := value.map fun v => String.ofList (expand values v.length v.toList)
    resolve environment (Keyed.put name value known) rest

/-- The values of an environment file. -/
def read (environment : List (String × String)) (text : String) : List Binding :=
  resolve environment [] (bindings (text.length + 1) text.toList)

end PromptDispatch.EnvFile
