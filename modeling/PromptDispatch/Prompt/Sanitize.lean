import PromptDispatch.Prompt.Markup

/-!
# Sanitized prompts

A sanitized prompt holds word characters, single blanks and a few punctuation
marks.  Quiet elements go first with their content, then tags, then all other
characters; runs of blanks shrink to one and the ends are trimmed.
-/

namespace PromptDispatch.Prompt

open Unicode

/-- The punctuation a sanitized prompt may hold. -/
def isPunctuation (c : Char) : Bool := ".,!?/-".toList.contains c

/-- The characters that survive. -/
def isAllowed (c : Char) : Bool := isWord c || isBlank c || isPunctuation c

/-- Shrinks runs of blanks to one; `inRun` tells whether a blank was just
written. -/
def collapse (inRun : Bool) : List Char → List Char
  | [] => []
  | c :: cs =>
    if isBlank c then (if inRun then collapse true cs else ' ' :: collapse true cs)
    else c :: collapse false cs

/-- Drops blanks at both ends. -/
def trim (cs : List Char) : List Char :=
  ((cs.dropWhile isBlank).reverse.dropWhile isBlank).reverse

/-- The sanitized characters. -/
def sanitizeChars (cs : List Char) : List Char :=
  trim (collapse false ((dropTags (dropQuietElements cs)).filter isAllowed))

/-- The sanitized prompt. -/
def sanitize (prompt : String) : String :=
  String.ofList (sanitizeChars prompt.toList)

end PromptDispatch.Prompt
