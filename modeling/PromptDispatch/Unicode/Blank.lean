import PromptDispatch.Unicode.Range

/-!
# Blank characters

Blank characters are the Unicode white space characters together with the four
information separators U+001C to U+001F.
-/

namespace PromptDispatch.Unicode

set_option maxRecDepth 8000

/-- Ranges of blank characters. -/
def blankRanges : List (Nat × Nat) :=
  [(9, 13), (28, 32), (133, 133), (160, 160), (5760, 5760), (8192, 8202), (8232, 8233),
   (8239, 8239), (8287, 8287), (12288, 12288)]

/-- White space and the information separators. -/
def isBlank (c : Char) : Bool := inRanges blankRanges c.toNat

end PromptDispatch.Unicode
