import PromptDispatch.Json.Reader

/-!
# Nesting

Lists and objects hold one another at any depth.  Whatever follows a value into its
depth has to keep account of all that it is inside of, and may not have room for more
than a limit.  Then the first list or object beyond the limit is what counts: what
comes behind it is never reached.

A value is searched before what it holds, and what it holds in order.  In a text the
same order is that of its characters.
-/

namespace PromptDispatch.Json

/-- A kind of values that hold others. -/
inductive Holder where
  | list
  | object
deriving DecidableEq, Repr

/-- Name of a kind of values that hold others. -/
def Holder.text : Holder → String
  | .list => "array"
  | .object => "object"

/-- The kind of a value that holds others. -/
def holder? : Json → Option Holder
  | .arr _ => some .list
  | .obj _ => some .object
  | _ => none

/-- The kind of a value that holds others, when it is inside of as many as the limit
allows. -/
def beyond? (limit level : Nat) (v : Json) : Option Holder :=
  if limit ≤ level then v.holder? else none

section

variable {ε : Type} (meet : Nat → Json → Option ε)

mutual

/-- What is met first in a value and all that it holds.  The level is the number of
lists and objects around it. -/
def firstMet (level : Nat) : Json → Option ε
  | .arr items => (meet level (.arr items)).or (firstInItems (level + 1) items)
  | .obj fields => (meet level (.obj fields)).or (firstInFields (level + 1) fields)
  | v => meet level v

/-- What is met first in list items. -/
def firstInItems (level : Nat) : List Json → Option ε
  | [] => none
  | v :: rest => (firstMet level v).or (firstInItems level rest)

/-- What is met first in object fields. -/
def firstInFields (level : Nat) : List (String × Json) → Option ε
  | [] => none
  | f :: rest => (firstInField level f).or (firstInFields level rest)

/-- What is met first in one field. -/
def firstInField (level : Nat) : String × Json → Option ε
  | (_, v) => firstMet level v

end

end

/-- The first list or object in a value that is beyond a limit. -/
def nestedBeyond? (limit : Nat) (v : Json) : Option Holder := v.firstMet (beyond? limit) 0

/-! ## Texts -/

/-- Where in a text a character stands. -/
inductive Stance where
  | outside
  | inString
  /-- right after a backslash in a string -/
  | escaped

/-- The first list or object that a text opens beyond a limit.  The level is the number
of those that are open. -/
def opened? (limit : Nat) : Stance → Nat → List Char → Option Holder
  | _, _, [] => none
  | .escaped, level, _ :: cs => opened? limit .inString level cs
  | .inString, level, c :: cs =>
    if c = '\x22' then opened? limit .outside level cs
    else if c = '\x5c' then opened? limit .escaped level cs
    else opened? limit .inString level cs
  | .outside, level, c :: cs =>
    if c = '[' then
      if limit ≤ level then some .list else opened? limit .outside (level + 1) cs
    else if c = '\x7b' then
      if limit ≤ level then some .object else opened? limit .outside (level + 1) cs
    else if c = ']' ∨ c = '\x7d' then opened? limit .outside (level - 1) cs
    else if c = '\x22' then opened? limit .inString level cs
    else opened? limit .outside level cs

/-- The part of a text that is read: all of it, or what comes before the position where
reading fails. -/
def readPart (text : String) : List Char :=
  match read text with
  | .ok _ => text.toList
  | .error error => text.toList.take error.position

/-- The first list or object that is opened beyond a limit when a text is read. -/
def openedBeyond? (limit : Nat) (text : String) : Option Holder :=
  opened? limit .outside 0 (readPart text)

end PromptDispatch.Json
