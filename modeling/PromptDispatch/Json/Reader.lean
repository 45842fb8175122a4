import PromptDispatch.Json.Basic

/-!
# Reading JSON text

The reader accepts JSON with the three names `NaN`, `Infinity` and `-Infinity`
for the numbers that JSON leaves out.  A field that is written twice keeps its
first place and takes its last value.  A refusal names its cause and the
position of the character where the text stops making sense.

Reading is total by a count of steps that starts above the length of the text;
every step consumes a character, so the count never decides.  How deep a text may go is a
matter of the machine that reads it, and not of the reader.

An escape for one half of a pair stands for no character without the other half.
Other readers make a text of such halves; a text as it is understood here is made of
characters, and what spells a half alone is refused by a refusal of its own.
-/

namespace PromptDispatch.Json

/-- Why a text is not JSON. -/
inductive Refusal where
  | byteOrderMark
  | expectingValue
  | expectingName
  | expectingColon
  | expectingComma
  | unterminatedString
  | controlCharacter
  | badEscape
  | badUnicodeEscape
  | extraData
deriving DecidableEq, Repr

/-- Wording of a refusal, without its place. -/
def Refusal.wording : Refusal → String
  | .byteOrderMark => "Unexpected UTF-8 BOM (decode using utf-8-sig)"
  | .expectingValue => "Expecting value"
  | .expectingName => "Expecting property name enclosed in double quotes"
  | .expectingColon => "Expecting ':' delimiter"
  | .expectingComma => "Expecting ',' delimiter"
  | .unterminatedString => "Unterminated string starting at"
  | .controlCharacter => "Invalid control character at"
  | .badEscape => "Invalid \\escape"
  | .badUnicodeEscape => "Invalid \\uXXXX escape"
  | .extraData => "Extra data"

/-- A failed reading, at a position: a refusal, a whole number with more digits than
are converted, or an escape that stands for half of a character. -/
inductive ReadError where
  | refused (cause : Refusal) (position : Nat)
  | tooManyDigits (count position : Nat)
  | halved (position : Nat)
deriving DecidableEq, Repr

/-- Name of a failed reading's kind. -/
def ReadError.kindName : ReadError → String
  | .refused _ _ => "JSONDecodeError"
  | .tooManyDigits _ _ => "ValueError"
  | .halved _ => "ValueError"

/-- Position of a failed reading.  All characters before it have been read. -/
def ReadError.position : ReadError → Nat
  | .refused _ position => position
  | .tooManyDigits _ position => position
  | .halved position => position

/-- Line and column of a position, both counted from one. -/
def lineAndColumn (text : List Char) (position : Nat) : Nat × Nat :=
  (text.take position).foldl
    (fun (line, column) c => if c = '\n' then (line + 1, 1) else (line, column + 1)) (1, 1)

/-- Message of a failed reading of a text. -/
def ReadError.message (text : List Char) : ReadError → String
  | .refused cause position =>
    let (line, column) := lineAndColumn text position
    s!"{cause.wording}: line {line} column {column} (char {position})"
  | .tooManyDigits count _ => Text.tooManyDigits count
  | .halved position => s!"Half of a surrogate pair: (char {position})"

/-- What is left of a text, with the position where it begins. -/
structure Rest where
  position : Nat
  chars : List Char

/-- The blanks of JSON. -/
def isBlank (c : Char) : Bool := c = ' ' || c = '\t' || c = '\n' || c = '\r'

/-- Skips blanks. -/
def skipBlanks : Nat → List Char → Rest
  | p, [] => ⟨p, []⟩
  | p, c :: cs => if isBlank c then skipBlanks (p + 1) cs else ⟨p, c :: cs⟩

/-- Value of a hexadecimal digit. -/
def hexValue? (c : Char) : Option Nat :=
  let n := c.toNat
  if 48 ≤ n ∧ n ≤ 57 then some (n - 48)
  else if 97 ≤ n ∧ n ≤ 102 then some (n - 87)
  else if 65 ≤ n ∧ n ≤ 70 then some (n - 55)
  else none

/-- Four hexadecimal digits that do not end the text. -/
def unit? : List Char → Option (Nat × List Char)
  | a :: b :: c :: d :: e :: rest =>
    match hexValue? a, hexValue? b, hexValue? c, hexValue? d with
    | some a, some b, some c, some d =>
      some (((a * 16 + b) * 16 + c) * 16 + d, e :: rest)
    | _, _, _, _ => none
  | _ => none

/-- The character of a simple escape. -/
def simpleEscape? (c : Char) : Option Char :=
  if c = '\x22' ∨ c = '\x5c' ∨ c = '/' then some c
  else if c = 'b' then some '\x08'
  else if c = 'f' then some '\x0c'
  else if c = 'n' then some '\n'
  else if c = 'r' then some '\r'
  else if c = 't' then some '\t'
  else none

/-- A code unit that opens a pair. -/
def isHighUnit (n : Nat) : Bool := 55296 ≤ n && n ≤ 56319

/-- A code unit that closes a pair. -/
def isLowUnit (n : Nat) : Bool := 56320 ≤ n && n ≤ 57343

/-- A code unit that is half of a pair. -/
def isHalf (n : Nat) : Bool := isHighUnit n || isLowUnit n

/-- What an escape of four digits begins: its character, how many characters
were used after the letter `u`, and the rest. -/
def unicodeEscape (position : Nat) (cs : List Char) :
    Except ReadError (Char × Nat × List Char) :=
  match unit? cs with
  | none => .error (.refused .badUnicodeEscape position)
  | some (n, rest) =>
    match isHighUnit n, rest with
    | true, '\x5c' :: 'u' :: more =>
      match unit? more with
      | some (m, after) =>
        if isLowUnit m then
          .ok (Char.ofNat (65536 + (n - 55296) * 1024 + (m - 56320)), 10, after)
        else .error (.halved position)
      | none =>
        if more.length < 5 then .error (.halved position)
        else .error (.refused .badUnicodeEscape (position + 6))
    | _, _ =>
      if isHalf n then .error (.halved position)
      else .ok (Char.ofNat n, 4, rest)

/-- The characters of a string up to its closing quote, newest first.  `start`
is the position of the opening quote. -/
def stringBody (start : Nat) : Nat → List Char → Nat → List Char → Except ReadError (String × Rest)
  | 0, _, _, _ => .error (.refused .unterminatedString start)
  | _ + 1, _, _, [] => .error (.refused .unterminatedString start)
  | fuel + 1, done, p, c :: cs =>
    if c = '\x22' then .ok (String.ofList done.reverse, ⟨p + 1, cs⟩)
    else if c = '\x5c' then
      match cs with
      | [] => .error (.refused .unterminatedString start)
      | e :: cs =>
        if e = 'u' then do
          let (ch, used, cs) ← unicodeEscape (p + 1) cs
          stringBody start fuel (ch :: done) (p + 2 + used) cs
        else
          match simpleEscape? e with
          | some ch => stringBody start fuel (ch :: done) (p + 2) cs
          | none => .error (.refused .badEscape p)
    else if c.toNat < 32 then .error (.refused .controlCharacter p)
    else stringBody start fuel (c :: done) (p + 1) cs

/-- Basic decimal digit. -/
def isDigit (c : Char) : Bool := '0' ≤ c && c ≤ '9'

/-- Number written by basic decimal digits. -/
def digitsValue (cs : List Char) : Nat :=
  cs.foldl (fun n c => n * 10 + (c.toNat - 48)) 0

/-- Splits off leading digits. -/
def takeDigits (cs : List Char) : List Char × List Char :=
  (cs.takeWhile isDigit, cs.dropWhile isDigit)

/-- The digits before the point: a zero alone, or digits that begin otherwise. -/
def wholePart? (cs : List Char) : Option (List Char × List Char) :=
  match cs with
  | '0' :: rest => some (['0'], rest)
  | c :: _ => if isDigit c then some (takeDigits cs) else none
  | [] => none

/-- A point with digits after it, when both are there. -/
def fractionPart (cs : List Char) : List Char × List Char :=
  match cs with
  | '.' :: rest =>
    match takeDigits rest with
    | ([], _) => ([], cs)
    | parts => parts
  | _ => ([], cs)

/-- An exponent, when it has digits. -/
def exponentPart (cs : List Char) : Option Int × List Char :=
  let digits (negative : Bool) (rest : List Char) : Option Int × List Char :=
    match takeDigits rest with
    | ([], _) => (none, cs)
    | (ds, after) =>
      let n : Int := digitsValue ds
      (some (if negative then -n else n), after)
  match cs with
  | e :: rest =>
    if e = 'e' ∨ e = 'E' then
      match rest with
      | '-' :: rest => digits true rest
      | '+' :: rest => digits false rest
      | _ => digits false rest
    else (none, cs)
  | [] => (none, cs)

/-- A number, after its sign. -/
def number (start : Nat) (negative : Bool) (p : Nat) (cs : List Char) : Except ReadError (Json × Rest) :=
  match wholePart? cs with
  | none => .error (.refused .expectingValue start)
  | some (whole, rest) =>
    let (fraction, afterFraction) := fractionPart rest
    let (exponent, after) := exponentPart afterFraction
    let position := p + (cs.length - after.length)
    if fraction.isEmpty ∧ exponent.isNone then
      if digitLimit < whole.length then .error (.tooManyDigits whole.length start)
      else
        let n : Int := digitsValue whole
        .ok (.int (if negative then -n else n), ⟨position, after⟩)
    else
      let digits := digitsValue (whole ++ fraction)
      let e := exponent.getD 0 - fraction.length
      .ok (.float (Binary64.ofDecimal negative digits e), ⟨position, after⟩)

/-- A fixed word and its value, or a number. -/
def scalar (p : Nat) (cs : List Char) : Except ReadError (Json × Rest) :=
  let word (s : String) (v : Json) : Option (Json × Rest) :=
    if s.toList.isPrefixOf cs then some (v, ⟨p + s.length, cs.drop s.length⟩) else none
  match (word "null" .null).or <| (word "true" (.bool true)).or <|
      (word "false" (.bool false)).or <| (word "NaN" (.float .nan)).or <|
      (word "Infinity" (.float (.infinite false))).or <|
      word "-Infinity" (.float (.infinite true)) with
  | some found => .ok found
  | none =>
    match cs with
    | '-' :: rest => number p true (p + 1) rest
    | _ => number p false p cs

mutual

/-- A value at the beginning of the text. -/
def value : Nat → Nat → List Char → Except ReadError (Json × Rest)
  | 0, p, _ => .error (.refused .expectingValue p)
  | _ + 1, p, [] => .error (.refused .expectingValue p)
  | fuel + 1, p, c :: cs =>
    if c = '\x22' then do
      let (s, rest) ← stringBody p (cs.length + 1) [] (p + 1) cs
      .ok (.str s, rest)
    else if c = '[' then
      match skipBlanks (p + 1) cs with
      | ⟨q, ']' :: rest⟩ => .ok (.arr [], ⟨q + 1, rest⟩)
      | ⟨q, rest⟩ => do
        let (items, rest) ← items fuel q rest
        .ok (.arr items, rest)
    else if c = '\x7b' then
      match skipBlanks (p + 1) cs with
      | ⟨q, '\x7d' :: rest⟩ => .ok (.obj [], ⟨q + 1, rest⟩)
      | ⟨q, rest⟩ => do
        let (pairs, rest) ← fields fuel q rest
        .ok (.obj (Keyed.ofPairs pairs), rest)
    else scalar p (c :: cs)

/-- List items up to the closing bracket. -/
def items : Nat → Nat → List Char → Except ReadError (List Json × Rest)
  | 0, p, _ => .error (.refused .expectingValue p)
  | fuel + 1, p, cs => do
    let (v, rest) ← value fuel p cs
    match skipBlanks rest.position rest.chars with
    | ⟨q, ']' :: rest⟩ => .ok ([v], ⟨q + 1, rest⟩)
    | ⟨q, ',' :: rest⟩ =>
      let next := skipBlanks (q + 1) rest
      let (vs, rest) ← items fuel next.position next.chars
      .ok (v :: vs, rest)
    | ⟨q, _⟩ => .error (.refused .expectingComma q)

/-- Object fields up to the closing brace. -/
def fields : Nat → Nat → List Char → Except ReadError (List (String × Json) × Rest)
  | 0, p, _ => .error (.refused .expectingName p)
  | fuel + 1, p, cs =>
    match cs with
    | '\x22' :: cs => do
      let (name, rest) ← stringBody p (cs.length + 1) [] (p + 1) cs
      match skipBlanks rest.position rest.chars with
      | ⟨q, ':' :: rest⟩ =>
        let start := skipBlanks (q + 1) rest
        let (v, rest) ← value fuel start.position start.chars
        match skipBlanks rest.position rest.chars with
        | ⟨q, '\x7d' :: rest⟩ => .ok ([(name, v)], ⟨q + 1, rest⟩)
        | ⟨q, ',' :: rest⟩ =>
          let next := skipBlanks (q + 1) rest
          let (more, rest) ← fields fuel next.position next.chars
          .ok ((name, v) :: more, rest)
        | ⟨q, _⟩ => .error (.refused .expectingComma q)
      | ⟨q, _⟩ => .error (.refused .expectingColon q)
    | _ => .error (.refused .expectingName p)

end

/-- Reads a whole text as one value. -/
def readChars (text : List Char) : Except ReadError Json :=
  match text with
  | '\ufeff' :: _ => .error (.refused .byteOrderMark 0)
  | _ => do
    let start := skipBlanks 0 text
    let (v, rest) ← value (2 * text.length + 2) start.position start.chars
    match skipBlanks rest.position rest.chars with
    | ⟨_, []⟩ => .ok v
    | ⟨q, _⟩ => .error (.refused .extraData q)

/-- Reads a whole text as one value. -/
def read (text : String) : Except ReadError Json := readChars text.toList

end PromptDispatch.Json
