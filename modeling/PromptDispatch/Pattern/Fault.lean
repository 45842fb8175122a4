import PromptDispatch.Text.Digits
import PromptDispatch.Text.Quoted

/-!
# Faults of patterns

A pattern text that cannot be compiled has a fault: a cause and, for most
causes, the position it is reported at.  The message names line and column as
well when the pattern has several lines.
-/

namespace PromptDispatch.Pattern

/-- Why a pattern cannot be compiled. -/
inductive Cause where
  | escapeAtEnd
  | incompleteEscape (escape : String)
  | badEscape (escape : String)
  | octalRange (escape : String)
  | missingBrace
  | missingName (what : String)
  | unterminatedName (closing : Char)
  | undefinedCharacter (name : String)
  | openGroup
  | groupInLookbehind
  | invalidGroup (index : Int)
  | unterminatedSet
  | badRange (first last : String)
  | leastAboveMost
  | nothingToRepeat
  | multipleRepeat
  | unexpectedEnd
  | unknownGroup (name : String)
  | unknownExtension (text : String)
  | unterminatedComment
  | unterminatedGroup
  | badGroupName (name : String)
  | badGroupNumber
  | tooManyBranches
  | misplacedFlags
  | repeatedGroup (name : String) (index earlier : Nat)
  | localeFlag
  | clashingFlags
  | missingFlagEnd
  | unknownFlag
  | globalFlagOn
  | missingFlag
  | repertoireFlagOff
  | missingColon
  | globalFlagOff
  | flagOnAndOff
  | unbalancedParenthesis
  | lookbehindWidth
  | lookbehindFar
  | templateOperator (name : String)
  | repertoiresClash
  | countTooLarge
  | countTooLong (digits : Nat)
deriving DecidableEq, Repr

/-- Wording of a cause. -/
def Cause.wording : Cause → String
  | .escapeAtEnd => "bad escape (end of pattern)"
  | .incompleteEscape escape => "incomplete escape " ++ escape
  | .badEscape escape => "bad escape " ++ escape
  | .octalRange escape => "octal escape value " ++ escape ++ " outside of range 0-0o377"
  | .missingBrace => "missing \x7b"
  | .missingName what => "missing " ++ what
  | .unterminatedName closing =>
    "missing " ++ String.singleton closing ++ ", unterminated name"
  | .undefinedCharacter name => "undefined character name " ++ Text.quoted name
  | .openGroup => "cannot refer to an open group"
  | .groupInLookbehind =>
    "cannot refer to group defined in the same lookbehind subpattern"
  | .invalidGroup index => "invalid group reference " ++ toString index
  | .unterminatedSet => "unterminated character set"
  | .badRange first last => "bad character range " ++ first ++ "-" ++ last
  | .leastAboveMost => "min repeat greater than max repeat"
  | .nothingToRepeat => "nothing to repeat"
  | .multipleRepeat => "multiple repeat"
  | .unexpectedEnd => "unexpected end of pattern"
  | .unknownGroup name => "unknown group name " ++ Text.quoted name
  | .unknownExtension text => "unknown extension ?" ++ text
  | .unterminatedComment => "missing ), unterminated comment"
  | .unterminatedGroup => "missing ), unterminated subpattern"
  | .badGroupName name => "bad character in group name " ++ Text.quoted name
  | .badGroupNumber => "bad group number"
  | .tooManyBranches => "conditional backref with more than two branches"
  | .misplacedFlags => "global flags not at the start of the expression"
  | .repeatedGroup name index earlier =>
    "redefinition of group name " ++ Text.quoted name ++ " as group " ++
      toString index ++ "; was group " ++ toString earlier
  | .localeFlag => "bad inline flags: cannot use 'L' flag with a str pattern"
  | .clashingFlags => "bad inline flags: flags 'a', 'u' and 'L' are incompatible"
  | .missingFlagEnd => "missing -, : or )"
  | .unknownFlag => "unknown flag"
  | .globalFlagOn => "bad inline flags: cannot turn on global flag"
  | .missingFlag => "missing flag"
  | .repertoireFlagOff => "bad inline flags: cannot turn off flags 'a', 'u' and 'L'"
  | .missingColon => "missing :"
  | .globalFlagOff => "bad inline flags: cannot turn off global flag"
  | .flagOnAndOff => "bad inline flags: flag turned on and off"
  | .unbalancedParenthesis => "unbalanced parenthesis"
  | .lookbehindWidth => "look-behind requires fixed-width pattern"
  | .lookbehindFar => "looks too much behind"
  | .templateOperator name => "internal: unsupported template operator " ++ name
  | .repertoiresClash => "ASCII and UNICODE flags are incompatible"
  | .countTooLarge => "the repetition number is too large"
  | .countTooLong digits => Text.tooManyDigits digits

/-- A cause and the position it is reported at. -/
structure Fault where
  cause : Cause
  position : Option Nat
deriving DecidableEq, Repr

/-- The kinds of faults: of the pattern's form, of a count that is beyond all bounds,
of one with more digits than are converted, and of a choice of flags. -/
inductive FaultKind where
  | form
  | count
  | digits
  | flags
deriving DecidableEq, Repr

/-- Name of a kind of faults. -/
def FaultKind.name : FaultKind → String
  | .form => "error"
  | .count => "OverflowError"
  | .digits => "ValueError"
  | .flags => "ValueError"

/-- Kind of a fault. -/
def Fault.kind (fault : Fault) : FaultKind :=
  match fault.cause with
  | .countTooLarge => .count
  | .countTooLong _ => .digits
  | .repertoiresClash => .flags
  | _ => .form

/-- Line and column of a position; the column counts from one on the first
line and from one after a line break. -/
def lineAndColumn (text : List Char) (position : Nat) : Nat × Nat :=
  (text.take position).foldl
    (fun (line, column) c => if c = '\n' then (line + 1, 1) else (line, column + 1)) (1, 1)

/-- Message of a fault in a pattern text. -/
def Fault.message (text : String) (fault : Fault) : String :=
  match fault.position with
  | none => fault.cause.wording
  | some position =>
    let base := fault.cause.wording ++ " at position " ++ toString position
    let cs := text.toList
    if cs.contains '\n' then
      let (line, column) := lineAndColumn cs position
      base ++ s!" (line {line}, column {column})"
    else base

end PromptDispatch.Pattern
