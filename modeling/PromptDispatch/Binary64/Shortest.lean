import PromptDispatch.Binary64.Basic

/-!
# Shortest decimal text of a binary64 number

The text of a finite number has the fewest digits that read back as the
number, and of two such texts the nearer.  Where the decimal point stands and
when an exponent is written is the layout, a record of its own.

The digits are found by trying one digit, then two, up to seventeen; the test
is the reader itself, so a text found here reads back by its choice.
-/

namespace PromptDispatch

namespace Binary64

/-- Smallest `k` with `num / den < 10 ^ k`, for a positive ratio. -/
def decimalPoint (num den : Nat) : Int :=
  let guess : Int := ((num.log2 : Int) - den.log2) * 30103 / 100000 - 1
  let below (k : Int) : Bool := num * Nat.pow 10 (-k).toNat < den * Nat.pow 10 k.toNat
  if below guess then guess
  else if below (guess + 1) then guess + 1
  else if below (guess + 2) then guess + 2
  else guess + 3

/-- The decimal with `n` digits nearest to a rank's magnitude among those that
read back as that magnitude. -/
def candidate? (rank : Fin magnitudes) (point : Int) (n : Nat) : Option Nat :=
  let e : Int := point - n
  let num := rankUnits rank * Nat.pow 10 (-e).toNat
  let den := Nat.pow 2 1074 * Nat.pow 10 e.toNat
  let d := num / den
  let r := num % den
  let back (c : Nat) : Bool := ofDecimal false c e == .finite false rank
  match back d, back (d + 1) with
  | true, true =>
    some (if den < 2 * r ∨ (2 * r = den ∧ d % 2 = 1) then d + 1 else d)
  | true, false => some d
  | false, true => some (d + 1)
  | false, false => none

/-- Drops the zeros a number ends in and counts them. -/
def trimZeros : Nat → Nat → Int → Nat × Int
  | 0, d, e => (d, e)
  | fuel + 1, d, e =>
    if d ≠ 0 ∧ d % 10 = 0 then trimZeros fuel (d / 10) (e + 1) else (d, e)

/-- First hit among `n`, `n + 1`, … of `left` digit counts. -/
def searchDigits (rank : Fin magnitudes) (point : Int) : Nat → Nat → Nat × Int
  | 0, _ => (rankUnits rank * Nat.pow 5 1074, -1074)
  | left + 1, n =>
    match candidate? rank point n with
    | some d => (d, point - n)
    | none => searchDigits rank point left (n + 1)

/-- Digits and exponent of the shortest decimal that reads back as the
magnitude of the given rank. -/
def shortestDecimal (rank : Fin magnitudes) : Nat × Int :=
  if rank.val = 0 then (0, 0)
  else
    let point := decimalPoint (rankUnits rank) (Nat.pow 2 1074)
    let (d, e) := searchDigits rank point 17 1
    trimZeros 20 d e

/-- How a number's digits are laid out. -/
structure Layout where
  /-- positional notation is used while the point stands after more than this -/
  pointAbove : Int
  /-- and after at most this many digits -/
  pointUpTo : Int
  /-- least number of exponent digits -/
  exponentDigits : Nat
  /-- text of the value that is not a number -/
  nan : String
  /-- text of positive infinity -/
  infinity : String

/-- Left padding with zeros. -/
def padZeros (width : Nat) (s : String) : String :=
  String.ofList (List.replicate (width - s.length) '0') ++ s

/-- Lays out `digits * 10 ^ exponent`. -/
def layOut (layout : Layout) (digits : Nat) (exponent : Int) : String :=
  let text := toString digits
  let point : Int := text.length + exponent
  if layout.pointAbove < point ∧ point ≤ layout.pointUpTo then
    if point ≤ 0 then
      "0." ++ String.ofList (List.replicate (-point).toNat '0') ++ text
    else if 0 ≤ exponent then
      text ++ String.ofList (List.replicate exponent.toNat '0') ++ ".0"
    else
      let cs := text.toList
      String.ofList (cs.take point.toNat) ++ "." ++ String.ofList (cs.drop point.toNat)
  else
    let cs := text.toList
    let e := point - 1
    let mantissa :=
      match cs with
      | [c] => String.ofList [c]
      | c :: rest => String.ofList (c :: '.' :: rest)
      | [] => ""
    let sign := if e < 0 then "-" else "+"
    mantissa ++ "e" ++ sign ++ padZeros layout.exponentDigits (toString e.natAbs)

/-- Text of a number under a layout. -/
def text (layout : Layout) : Binary64 → String
  | .nan => layout.nan
  | .infinite false => layout.infinity
  | .infinite true => "-" ++ layout.infinity
  | .finite negative rank =>
    let (d, e) := shortestDecimal rank
    (if negative then "-" else "") ++
      (if d = 0 then "0.0" else layOut layout d e)

/-- Numbers are written positionally from `0.0001` up to below `10 ^ 16`, with
at least one decimal place; otherwise with an exponent of two digits or more. -/
def plain : Layout where
  pointAbove := -4
  pointUpTo := 16
  exponentDigits := 2
  nan := "nan"
  infinity := "inf"

/-- The layout of numbers inside JSON text. -/
def jsonLayout : Layout := { plain with nan := "NaN", infinity := "Infinity" }

/-- Text with a fixed number of decimal places, rounded on the exact value with
ties to the even digit. -/
def fixed (places : Nat) : Binary64 → String
  | .nan => "nan"
  | .infinite false => "inf"
  | .infinite true => "-inf"
  | .finite negative rank =>
    let scaled := roundDiv (rankUnits rank * Nat.pow 10 places) (Nat.pow 2 1074)
    let whole := toString (scaled / Nat.pow 10 places)
    let part := padZeros places (toString (scaled % Nat.pow 10 places))
    (if negative then "-" else "") ++ whole ++ "." ++ part

end Binary64

end PromptDispatch
