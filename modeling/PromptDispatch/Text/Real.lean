import PromptDispatch.Binary64.Basic
import PromptDispatch.Text.Integer

/-!
# Real numbers written in text

A real number is a sign, digits with an optional point among them, and an
optional exponent, or one of the words for the infinities and for the value
that is no number, in letters of either case.
-/

namespace PromptDispatch.Text

/-- ASCII letters in lower case. -/
def lowerAscii (c : Char) : Char :=
  if 'A' ≤ c ∧ c ≤ 'Z' then Char.ofNat (c.toNat + 32) else c

/-- The leading decimal digits, as values, and the rest. -/
def leadingDigits : List Char → List Nat × List Char
  | [] => ([], [])
  | c :: cs =>
    if '0' ≤ c ∧ c ≤ '9' then
      let (ds, rest) := leadingDigits cs
      ((c.toNat - 48) :: ds, rest)
    else ([], c :: cs)

/-- The number that digits write. -/
def digitsValue (ds : List Nat) : Nat := ds.foldl (fun n d => n * 10 + d) 0

/-- An exponent, when a text is one and nothing else; no text stands for zero. -/
def exponent? : List Char → Option Int
  | [] => some 0
  | e :: cs =>
    if lowerAscii e = 'e' then
      let (negative, digits) := splitSign cs
      match leadingDigits digits with
      | ([], _) => none
      | (ds, []) => some (if negative then -(digitsValue ds : Int) else digitsValue ds)
      | _ => none
    else none

/-- A number in digits, without its sign. -/
def decimal? (negative : Bool) (cs : List Char) : Option Binary64 :=
  let (whole, rest) := leadingDigits cs
  let (part, rest) :=
    match rest with
    | '.' :: more => leadingDigits more
    | _ => ([], rest)
  if whole.isEmpty && part.isEmpty then none
  else
    (exponent? rest).map fun e =>
      Binary64.ofDecimal negative (digitsValue (whole ++ part)) (e - part.length)

/-- A number in ASCII digits or a word, with its sign. -/
def signedReal? (cs : List Char) : Option Binary64 :=
  let (negative, body) := splitSign cs
  let word := String.ofList (body.map lowerAscii)
  if word = "inf" ∨ word = "infinity" then some (.infinite negative)
  else if word = "nan" then some .nan
  else decimal? negative body

/-- Drops single low lines that stand between digits; others stay. -/
def dropLowLines : Option Char → List Char → List Char
  | _, [] => []
  | before, '_' :: c :: cs =>
    match before with
    | some b =>
      if b.isDigit && c.isDigit then c :: dropLowLines (some c) cs
      else '_' :: dropLowLines (some '_') (c :: cs)
    | none => '_' :: dropLowLines (some '_') (c :: cs)
  | _, c :: cs => c :: dropLowLines (some c) cs

/-- Digits of any script as ASCII digits. -/
def asciiDigits (cs : List Char) : List Char :=
  cs.map fun c =>
    match digitValue? c with
    | some d => Char.ofNat (48 + d)
    | none => c

/-- The real number a text is: white space around it is dropped, digits may be of
any script, and single low lines may stand between digits. -/
def real? (s : String) : Option Binary64 :=
  signedReal? (dropLowLines none (asciiDigits (trimSpace s.toList)))

end PromptDispatch.Text
