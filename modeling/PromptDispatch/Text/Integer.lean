import PromptDispatch.Text.Digits
import PromptDispatch.Unicode.Number
import PromptDispatch.Unicode.Blank

/-!
# Whole numbers written in text

A whole number may have white space around it, a sign, decimal digits of any script,
and single low lines between digits.  It has no more digits than are converted.
-/

namespace PromptDispatch.Text

/-- Value of a decimal digit of any script. -/
def digitValue? (c : Char) : Option Nat :=
  (Unicode.digitRanges.find? fun (lo, hi) => lo ≤ c.toNat && c.toNat ≤ hi).map
    fun (lo, _) => (c.toNat - lo) % 10

/-- Digits with single low lines between them, as values. -/
def digitRun? : List Char → Option (List Nat)
  | [] => none
  | [c] => (digitValue? c).map fun d => [d]
  | c :: '_' :: rest => do
    let d ← digitValue? c
    let ds ← digitRun? rest
    return d :: ds
  | c :: rest => do
    let d ← digitValue? c
    let ds ← digitRun? rest
    return d :: ds

/-- Drops blanks at both ends. -/
def trimBlanks (cs : List Char) : List Char :=
  ((cs.dropWhile Unicode.isBlank).reverse.dropWhile Unicode.isBlank).reverse

/-- White space around numbers: the blanks without the information separators. -/
def isSpace (c : Char) : Bool :=
  Unicode.isBlank c && !(28 ≤ c.toNat && c.toNat ≤ 31)

/-- Drops white space at both ends. -/
def trimSpace (cs : List Char) : List Char :=
  ((cs.dropWhile isSpace).reverse.dropWhile isSpace).reverse

/-- Splits off a sign; the flag tells a minus. -/
def splitSign : List Char → Bool × List Char
  | '-' :: rest => (true, rest)
  | '+' :: rest => (false, rest)
  | cs => (false, cs)

/-- The whole number a text is. -/
def integer? (s : String) : Option Int := do
  let (negative, digits) := splitSign (trimSpace s.toList)
  let ds ← digitRun? digits
  if digitLimit < ds.length then none
  let n : Nat := ds.foldl (fun n d => n * 10 + d) 0
  return if negative then -(n : Int) else n

end PromptDispatch.Text
