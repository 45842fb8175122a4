import PromptDispatch.Pattern.Leading
import PromptDispatch.Pattern.Parser
import PromptDispatch.Pattern.Matcher

/-!
# Searching a text for a pattern
-/

namespace PromptDispatch.Pattern

/-- Whether a compiled pattern matches anywhere in a text. -/
def Compiled.foundIn (p : Compiled) (text : String) : Bool :=
  Compiled.foundFrom (p.root.mayBegin p.flags) (p.root.run (widthIn p.widths) p.flags)
    text.length [] text.toList

end PromptDispatch.Pattern
