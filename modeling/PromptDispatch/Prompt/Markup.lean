import PromptDispatch.Unicode.Word
import PromptDispatch.Unicode.Blank
import PromptDispatch.Unicode.Case

/-!
# Markup inside prompts

Two kinds of markup are recognised at the beginning of a text.  A tag runs from
`<` to the next `>`.  A quiet element is a `script` or `style` tag together with
everything up to the nearest closing tag of the same name; letter case does not
matter, and the closing name has to agree letter by letter in lowercase.

Recognisers answer with the number of characters they cover.
-/

namespace PromptDispatch.Prompt

open Unicode

/-- Characters up to and including the next `>`. -/
def throughBracket? : List Char → Option Nat
  | [] => none
  | c :: cs => if c = '>' then some 1 else (throughBracket? cs).map (· + 1)

/-- Width of a tag. -/
def tag? : List Char → Option Nat
  | '<' :: cs => (throughBracket? cs).map (· + 1)
  | _ => none

/-- The characters at the beginning of a text that spell a word up to letter
case, and what follows them. -/
def spelled? : List Char → List Char → Option (List Char × List Char)
  | [], cs => some ([], cs)
  | _ :: _, [] => none
  | w :: ws, c :: cs =>
    if sameUpToCase w c then (spelled? ws cs).map fun (name, rest) => (c :: name, rest)
    else none

/-- The names of elements that are dropped with their content. -/
def quietNames : List (List Char) := ["script".toList, "style".toList]

/-- The name of a quiet element at the beginning of a text, ended by the end of
a word, and what follows it. -/
def quietName? (cs : List Char) : Option (List Char × List Char) :=
  match quietNames.findSome? (spelled? · cs) with
  | some (name, rest) =>
    match rest with
    | c :: _ => if isWord c then none else some (name, rest)
    | [] => some (name, rest)
  | none => none

/-- What follows a name that agrees letter by letter in lowercase. -/
def sameLetters? : List Char → List Char → Option (List Char)
  | [], cs => some cs
  | _ :: _, [] => none
  | n :: ns, c :: cs => if lower n = lower c then sameLetters? ns cs else none

/-- Blanks up to and including a `>` that follows them. -/
def blanksThenBracket? : List Char → Option Nat
  | [] => none
  | c :: cs =>
    if c = '>' then some 1
    else if isBlank c then (blanksThenBracket? cs).map (· + 1)
    else none

/-- Width of a closing tag of the given name. -/
def closingTag? (name : List Char) : List Char → Option Nat
  | '<' :: '/' :: cs =>
    match sameLetters? name cs with
    | some rest => (blanksThenBracket? rest).map (· + (name.length + 2))
    | none => none
  | _ => none

/-- Width of a text up to and including the nearest closing tag. -/
def throughClosingTag? (name : List Char) : List Char → Option Nat
  | [] => none
  | c :: cs =>
    match closingTag? name (c :: cs) with
    | some width => some width
    | none => (throughClosingTag? name cs).map (· + 1)

/-- Width of a quiet element. -/
def quietElement? : List Char → Option Nat
  | '<' :: cs =>
    match quietName? cs with
    | some (name, afterName) =>
      match throughBracket? afterName with
      | some opened =>
        (throughClosingTag? name (afterName.drop opened)).map
          (· + (1 + name.length + opened))
      | none => none
    | none => none
  | _ => none

/-- Replaces every match by one blank, from left to right and without overlap.
The number counts characters of a match that are still to be passed over. -/
def blankOut (width? : List Char → Option Nat) : Nat → List Char → List Char
  | _, [] => []
  | 0, c :: cs =>
    match width? (c :: cs) with
    | some (n + 1) => ' ' :: blankOut width? n cs
    | _ => c :: blankOut width? 0 cs
  | n + 1, _ :: cs => blankOut width? n cs

/-- Replaces quiet elements by blanks. -/
def dropQuietElements (cs : List Char) : List Char := blankOut quietElement? 0 cs

/-- Replaces tags by blanks. -/
def dropTags (cs : List Char) : List Char := blankOut tag? 0 cs

end PromptDispatch.Prompt
