import PromptDispatch.Pattern.Letter

/-!
# Leading sets

A search only tries the places whose next character fits the set that a pattern
begins with.  There the classes in the set are those of the pattern as a whole,
also when the part that begins has flags of its own.  A set with cased letters
in it is no leading set where letter case does not matter.
-/

namespace PromptDispatch.Pattern

/-- Whether a code point is no letter of either case. -/
def isUncased (flags : Flags) (n : Nat) : Bool :=
  lowerUnder flags n == n && formsUnder flags n == [n] && classUnder flags n == [n]

/-- Whether letter case plays no part in an item of a set. -/
def SetItem.isPlain (flags : Flags) : SetItem → Bool
  | .category _ _ => true
  | .char code => !flags.ignoreCase || isUncased flags code
  | .range lo hi =>
    !flags.ignoreCase ||
      (hi < 65536 && (List.range' lo (hi + 1 - lo)).all (isUncased flags))

/-- Whether an item of a set is a class. -/
def SetItem.isCategory : SetItem → Bool
  | .category _ _ => true
  | _ => false

/-- Whether a node is made of nothing. -/
def Node.isNothing : Node → Bool
  | .empty => true
  | .seq a b => a.isNothing && b.isNothing
  | _ => false

/-- The set a node begins with, when it has a class in it. -/
def Node.leadingSet? (flags : Flags) : Node → Option (Bool × List SetItem)
  | .set negated items =>
    if items.any (·.isCategory) && items.all (·.isPlain flags) then some (negated, items)
    else none
  | .seq a b => if a.isNothing then b.leadingSet? flags else a.leadingSet? flags
  | .group _ body => body.leadingSet? flags
  | .scope on off body => body.leadingSet? (flags.within on off)
  | _ => none

/-- Whether a pattern may begin with a character. -/
def Node.mayBegin (root : Node) (flags : Flags) (c : Char) : Bool :=
  match root.leadingSet? flags with
  | some (negated, items) => matchesSet { flags with ignoreCase := false } negated items c
  | none => true

end PromptDispatch.Pattern
