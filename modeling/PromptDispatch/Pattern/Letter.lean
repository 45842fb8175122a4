import PromptDispatch.Pattern.Basic
import PromptDispatch.Unicode.Word
import PromptDispatch.Unicode.Blank
import PromptDispatch.Unicode.Number
import PromptDispatch.Unicode.Case

/-!
# Single characters under flags

What one node that covers one character accepts.  Without regard to case, a
character is first taken to lowercase; a set then holds it when the set holds
any letter that is the same up to case.
-/

namespace PromptDispatch.Pattern

open Unicode

/-- The basic word characters. -/
def isBasicWord (c : Char) : Bool :=
  ('0' ≤ c && c ≤ '9') || ('a' ≤ c && c ≤ 'z') || ('A' ≤ c && c ≤ 'Z') || c = '_'

/-- The basic blanks. -/
def isBasicBlank (c : Char) : Bool := c = ' ' || (9 ≤ c.toNat && c.toNat ≤ 13)

/-- Membership in a class. -/
def Category.holds (flags : Flags) (c : Char) : Category → Bool
  | .digit => if flags.basic then '0' ≤ c && c ≤ '9' else isDigit c
  | .blank => if flags.basic then isBasicBlank c else isBlank c
  | .word => if flags.basic then isBasicWord c else isWord c

/-- Lowercase of a code point, among the basic letters only if the flags say so. -/
def lowerUnder (flags : Flags) (n : Nat) : Nat :=
  if flags.basic then (if 65 ≤ n ∧ n ≤ 90 then n + 32 else n) else lowerCode n

/-- Lowercase letters that are the same as a lowercase letter. -/
def classUnder (flags : Flags) (n : Nat) : List Nat :=
  if flags.basic then [n] else caseClass n

/-- Whether a character is the given one. -/
def matchesChar (flags : Flags) (code : Nat) (c : Char) : Bool :=
  if flags.ignoreCase then
    (classUnder flags (lowerUnder flags code)).contains (lowerUnder flags c.toNat)
  else c.toNat == code

/-- Code points whose lowercase is the given lowercase letter. -/
def formsUnder (flags : Flags) (n : Nat) : List Nat :=
  if flags.basic then (if 97 ≤ n ∧ n ≤ 122 then [n, n - 32] else [n])
  else n :: raisedForms n

/-- Whether one item of a set holds a character. -/
def SetItem.holds (flags : Flags) (c : Char) : SetItem → Bool
  | .char code =>
    if flags.ignoreCase && 65536 ≤ code then lowerUnder flags c.toNat == code
    else matchesChar flags code c
  | .range lo hi =>
    if flags.ignoreCase then
      (classUnder flags (lowerUnder flags c.toNat)).any fun n =>
        (formsUnder flags n).any fun u => lo ≤ u && u ≤ hi
    else lo ≤ c.toNat && c.toNat ≤ hi
  | .category cat negated =>
    let c := if flags.ignoreCase then Char.ofNat (lowerUnder flags c.toNat) else c
    cat.holds flags c != negated

/-- Whether a set holds a character. -/
def matchesSet (flags : Flags) (negated : Bool) (items : List SetItem) (c : Char) : Bool :=
  items.any (·.holds flags c) != negated

/-- Sameness of two characters of a text in a reference to a group. -/
def sameInReference (flags : Flags) (a b : Char) : Bool :=
  if flags.ignoreCase then lowerUnder flags a.toNat == lowerUnder flags b.toNat
  else a == b

end PromptDispatch.Pattern
