import PromptDispatch.Pattern.Basic
import PromptDispatch.Pattern.Fault
import PromptDispatch.Text.Integer
import PromptDispatch.Unicode.Identifier
import PromptDispatch.Unicode.Name
import PromptDispatch.Unicode.Number
import PromptDispatch.Unicode.Word

/-!
# Reading patterns

A pattern text is read token by token with one token of lookahead; a token is a
character, or a backslash with the character after it.  A backslash that ends
the text is refused as soon as the lookahead reaches it.

Reading keeps the numbers and widths of the groups met so far, since references
are checked on the spot.  What can only be judged on the finished tree, the
width of what a look-behind covers, is checked afterwards.
-/

namespace PromptDispatch.Pattern

/-- A pattern being read. -/
structure Draft where
  /-- position of the next token -/
  position : Nat
  /-- text from the next token on -/
  rest : List Char
  /-- flags of the whole pattern -/
  flags : Flags
  /-- numbers of the named groups -/
  names : List (String × Nat)
  /-- widths of the groups by number, none while a group is open -/
  widths : List (Option Width)
  /-- number of groups when the outermost look-behind began -/
  lookbehind : Option Nat
  /-- groups that conditions refer to by number, with the first place -/
  conditions : List (Nat × Nat)

/-- A step of reading. -/
abbrev Parse := StateT Draft (Except Fault)

namespace Parse

/-- Refuses the text at a distance before the next token. -/
def refuse {α : Type} (cause : Cause) (back : Nat) : Parse α := do
  throw ⟨cause, some ((← get).position - back)⟩

/-- The next token; empty at the end. -/
def peek : Parse (List Char) := do
  match (← get).rest with
  | [] => return []
  | '\x5c' :: c :: _ => return ['\x5c', c]
  | c :: _ => return [c]

/-- Moves to a place and looks at the token there. -/
def moveTo (position : Nat) (rest : List Char) : Parse Unit := do
  if rest = ['\x5c'] then throw ⟨.escapeAtEnd, some position⟩
  modify fun d => { d with position := position, rest := rest }

/-- Takes the next token; empty at the end. -/
def take : Parse (List Char) := do
  let token ← peek
  let d ← get
  moveTo (d.position + token.length) (d.rest.drop token.length)
  return token

/-- Takes the next token if it is the given character. -/
def accept (c : Char) : Parse Bool := do
  if (← peek) = [c] then
    discard take
    return true
  return false

/-- Takes up to `n` characters of a kind. -/
def takeSome (kind : Char → Bool) : Nat → Parse (List Char)
  | 0 => return []
  | n + 1 => do
    match ← peek with
    | [c] =>
      if kind c then
        discard take
        return c :: (← takeSome kind n)
      return []
    | _ => return []

/-- Takes a name up to a closing character, which is taken too. -/
def takeName (closing : Char) (what : String) : Nat → List Char → Parse String
  | 0, _ => refuse (.missingName what) 0
  | fuel + 1, name => do
    let token ← take
    if token = [] then
      if name = [] then refuse (.missingName what) 0
      else refuse (.unterminatedName closing) name.length
    else if token = [closing] then
      if name = [] then refuse (.missingName what) 1
      else return String.ofList name
    else takeName closing what fuel (name ++ token)

/-- Position of the next token. -/
def position : Parse Nat := return (← get).position

/-- Number of groups, the whole pattern counted as one. -/
def groupCount : Parse Nat := return (← get).widths.length

/-- Whether a group exists and is closed. -/
def isClosed (index : Nat) : Parse Bool := do
  return ((← get).widths[index]?.getD none).isSome

/-- Inside a look-behind, refuses groups that are open or begin in it. -/
def checkLookbehind (index : Nat) : Parse Unit := do
  match (← get).lookbehind with
  | none => return
  | some count =>
    if !(← isClosed index) then refuse .openGroup 0
    if count ≤ index then refuse .groupInLookbehind 0

end Parse

open Parse

/-- Basic decimal digits. -/
def isBasicDigit (c : Char) : Bool := '0' ≤ c && c ≤ '9'

/-- Octal digits. -/
def isOctal (c : Char) : Bool := '0' ≤ c && c ≤ '7'

/-- Hexadecimal digits. -/
def isHex (c : Char) : Bool :=
  isBasicDigit c || ('a' ≤ c && c ≤ 'f') || ('A' ≤ c && c ≤ 'F')

/-- Basic letters. -/
def isBasicLetter (c : Char) : Bool := ('a' ≤ c && c ≤ 'z') || ('A' ≤ c && c ≤ 'Z')

/-- Letters of any script. -/
def isLetter (c : Char) : Bool := Unicode.isWord c && !Unicode.isNumber c && c != '_'

/-- Whether a text is an identifier. -/
def isIdentifier (s : String) : Bool :=
  match s.toList with
  | [] => false
  | c :: cs => Unicode.isIdentifierStart c && cs.all Unicode.isIdentifierRest

/-- Value of digits in a base up to sixteen. -/
def valueOf (base : Nat) (cs : List Char) : Nat :=
  cs.foldl (fun n c =>
    let d := if isBasicDigit c then c.toNat - 48
      else if 'a' ≤ c then c.toNat - 87 else c.toNat - 55
    n * base + d) 0

/-- The character of a control escape. -/
def controlEscape? (c : Char) : Option Nat :=
  match c with
  | 'a' => some 7
  | 'f' => some 12
  | 'n' => some 10
  | 'r' => some 13
  | 't' => some 9
  | 'v' => some 11
  | '\x5c' => some 92
  | _ => none

/-- The class of a class escape. -/
def classEscape? (c : Char) : Option SetItem :=
  match c with
  | 'd' => some (.category .digit false)
  | 'D' => some (.category .digit true)
  | 's' => some (.category .blank false)
  | 'S' => some (.category .blank true)
  | 'w' => some (.category .word false)
  | 'W' => some (.category .word true)
  | _ => none

/-- The position of an anchor escape. -/
def anchorEscape? (c : Char) : Option Anchor :=
  match c with
  | 'A' => some .textStart
  | 'Z' => some .textEnd
  | 'b' => some .boundary
  | 'B' => some .noBoundary
  | _ => none

/-- An escape of an exact number of hexadecimal digits. -/
def hexEscape (c : Char) (count : Nat) : Parse Nat := do
  let digits ← takeSome isHex count
  let escape := '\x5c' :: c :: digits
  if digits.length ≠ count then
    refuse (.incompleteEscape (String.ofList escape)) escape.length
  let code := valueOf 16 digits
  if 1114111 < code then
    refuse (.badEscape (String.ofList escape)) escape.length
  return code

/-- An escape that names its character. -/
def namedEscape : Parse Nat := do
  if !(← accept '\x7b') then refuse .missingBrace 0
  let name ← takeName '\x7d' "character name" ((← get).rest.length + 1) []
  match Unicode.named? name with
  | some code => return code
  | none => refuse (.undefinedCharacter name) (name.length + 4)

/-- An escape that gives a code point, if the letter begins one. -/
def codeEscape? (c : Char) : Parse (Option Nat) := do
  match c with
  | 'x' => return some (← hexEscape c 2)
  | 'u' => return some (← hexEscape c 4)
  | 'U' => return some (← hexEscape c 8)
  | 'N' => return some (← namedEscape)
  | _ => return none

/-- An escape of a character that has no meaning of its own. -/
def plainEscape (c : Char) : Parse Nat := do
  if isBasicLetter c || isBasicDigit c then
    refuse (.badEscape (String.ofList ['\x5c', c])) 2
  return c.toNat

/-- Refuses an octal escape beyond one byte. -/
def checkOctal (digits : List Char) : Parse Nat := do
  let code := valueOf 8 digits
  if 255 < code then
    refuse (.octalRange (String.ofList ('\x5c' :: digits))) (digits.length + 1)
  return code

/-- An escape inside a character set. -/
def setEscape (c : Char) : Parse SetItem := do
  if c = 'b' then return .char 8
  if let some code := controlEscape? c then return .char code
  if let some item := classEscape? c then return item
  if let some code := (← codeEscape? c) then return .char code
  if isOctal c then
    let digits ← takeSome isOctal 2
    return .char (← checkOctal (c :: digits))
  return .char (← plainEscape c)

/-- A reference to a group by number; `written` is the length of the escape. -/
def groupReference (index written : Nat) : Parse Node := do
  if index < (← groupCount) then
    if !(← isClosed index) then refuse .openGroup written
    checkLookbehind index
    return .backref index
  refuse (.invalidGroup index) (written - 1)

/-- An escape that begins with a digit: an octal code or a group reference. -/
def digitEscape (c : Char) : Parse Node := do
  if c = '0' then
    let digits ← takeSome isOctal 2
    return .char (valueOf 8 (c :: digits))
  match ← peek with
  | [d] =>
    if isBasicDigit d then
      discard take
      match ← peek with
      | [e] =>
        if isOctal c && isOctal d && isOctal e then
          discard take
          return .char (← checkOctal [c, d, e])
        groupReference (valueOf 10 [c, d]) 3
      | _ => groupReference (valueOf 10 [c, d]) 3
    else groupReference (valueOf 10 [c]) 2
  | _ => groupReference (valueOf 10 [c]) 2

/-- An escape outside character sets. -/
def escape (c : Char) : Parse Node := do
  if let some anchor := anchorEscape? c then return .anchor anchor
  if let some item := classEscape? c then return .set false [item]
  if let some code := controlEscape? c then return .char code
  if let some code := (← codeEscape? c) then return .char code
  if isBasicDigit c then digitEscape c
  else return .char (← plainEscape c)

/-- The item of a token inside a character set. -/
def setToken (token : List Char) : Parse SetItem := do
  match token with
  | ['\x5c', c] => setEscape c
  | [c] => return .char c.toNat
  | _ => return .char 0

/-- The items of a character set up to its closing bracket, newest first.
`start` is the position of the opening bracket. -/
def setItems (start : Nat) : Nat → List SetItem → Parse (List SetItem)
  | 0, _ => throw ⟨.unterminatedSet, some start⟩
  | fuel + 1, items => do
    let token ← take
    if token = [] then throw ⟨.unterminatedSet, some start⟩
    if token = [']'] ∧ items ≠ [] then return items
    let first ← setToken token
    if !(← accept '-') then setItems start fuel (first :: items)
    else
      let last ← take
      if last = [] then throw ⟨.unterminatedSet, some start⟩
      if last = [']'] then return .char 45 :: first :: items
      let second ← setToken last
      let bad : Parse (List SetItem) :=
        refuse (.badRange (String.ofList token) (String.ofList last))
          (token.length + 1 + last.length)
      match first, second with
      | .char lo, .char hi =>
        if hi < lo then bad else setItems start fuel (.range lo hi :: items)
      | _, _ => bad

/-- A character set, after its opening bracket. -/
def characterSet : Parse Node := do
  let start := (← position) - 1
  let negated ← accept '^'
  let items ← setItems start ((← get).rest.length + 1) []
  match items.reverse.eraseDups with
  | [.char code] => return if negated then .notChar code else .char code
  | items => return .set negated items

/-- The flag of a letter; the flag of locales is known but never allowed. -/
def flag? (c : Char) : Option Flags :=
  match c with
  | 'i' => some { ignoreCase := true }
  | 'L' => some {}
  | 'm' => some { multiline := true }
  | 's' => some { dotAll := true }
  | 'x' => some { verbose := true }
  | 'a' => some { basic := true }
  | 't' => some { template := true }
  | 'u' => some { full := true }
  | _ => none

/-- Refuses a token among flags: a letter is an unknown flag. -/
def refuseFlag {α : Type} (token : List Char) (otherwise : Cause) : Parse α :=
  match token with
  | [c] => refuse (if isLetter c then .unknownFlag else otherwise) 1
  | _ => refuse otherwise token.length

/-- Flags that are turned on, up to the token that ends them. -/
def flagsOn : Nat → Char → Flags → Parse (Flags × Char)
  | 0, _, _ => refuse .missingFlagEnd 0
  | fuel + 1, c, on => do
    if c = 'L' then refuse .localeFlag 0
    let f := (flag? c).getD {}
    let on := on.union f
    if (f.basic || f.full) && on.basic && on.full then refuse .clashingFlags 0
    match ← take with
    | [] => refuse .missingFlagEnd 0
    | [d] =>
      if d = ')' ∨ d = '-' ∨ d = ':' then return (on, d)
      if (flag? d).isSome then flagsOn fuel d on
      else refuseFlag [d] .missingFlagEnd
    | token => refuseFlag token .missingFlagEnd

/-- Flags that are turned off, up to the colon. -/
def flagsOff : Nat → Char → Flags → Parse Flags
  | 0, _, _ => refuse .missingColon 0
  | fuel + 1, c, off => do
    let f := (flag? c).getD {}
    if c = 'L' ∨ f.basic ∨ f.full then refuse .repertoireFlagOff 0
    let off := off.union f
    match ← take with
    | [] => refuse .missingColon 0
    | [d] =>
      if d = ':' then return off
      if (flag? d).isSome then flagsOff fuel d off
      else refuseFlag [d] .missingColon
    | token => refuseFlag token .missingColon

/-- The flags of a group, on and off; none when they are for the whole pattern,
to which they are added then. -/
def groupFlags (c : Char) : Parse (Option (Flags × Flags)) := do
  let fuel := (← get).rest.length + 1
  let (on, ending) ← if c = '-' then pure ({}, c) else flagsOn fuel c {}
  if ending = ')' then
    modify fun d => { d with flags := d.flags.union on }
    return none
  if on.template then refuse .globalFlagOn 1
  let off ←
    if ending = '-' then do
      match ← take with
      | [] => refuse .missingFlag 0
      | [d] => if (flag? d).isSome then flagsOff fuel d {} else refuseFlag [d] .missingFlag
      | token => refuseFlag token .missingFlag
    else pure {}
  if off.template then refuse .globalFlagOff 1
  if !(on.inter off).isEmpty then refuse .flagOnAndOff 1
  return some (on, off)

/-- Largest count a repetition may give, plus one. -/
def countLimit : Nat := 4294967295

/-- The count that digits write. -/
def countOf (digits : List Char) : Parse Nat := do
  if Text.digitLimit < digits.length then throw ⟨.countTooLong digits.length, none⟩
  let count := valueOf 10 digits
  if countLimit ≤ count then throw ⟨.countTooLarge, none⟩
  return count

/-- A count in braces after `{`: least and most; none when the brace is a plain
character. -/
def counts? : Parse (Option (Nat × Option Nat)) := do
  let start ← get
  let fuel := start.rest.length + 1
  if (← peek) = ['\x7d'] then return none
  let lo ← takeSome isBasicDigit fuel
  let comma ← accept ','
  let hi ← if comma then takeSome isBasicDigit fuel else pure lo
  if !(← accept '\x7d') then
    modify fun d => { d with position := start.position, rest := start.rest }
    return none
  let least ← countOf lo
  if hi = [] then return some (least, none)
  let most ← countOf hi
  if most < least then refuse .leastAboveMost ((← position) - start.position)
  return some (least, some most)

/-- How a repetition chooses, as the character after its counts says. -/
def greed : Parse Greed := do
  if ← accept '?' then return .lazy
  if ← accept '+' then return .possessive
  return .greedy

/-- Repeats the newest node.  `start` is the position after the first character
of the quantifier. -/
def repeatLast (start least : Nat) (most : Option Nat) (nodes : List Node) :
    Parse (List Node) := do
  match nodes with
  | [] => throw ⟨.nothingToRepeat, some (start - 1)⟩
  | .anchor _ :: _ => throw ⟨.nothingToRepeat, some (start - 1)⟩
  | .rounds .. :: _ => throw ⟨.multipleRepeat, some (start - 1)⟩
  | node :: nodes =>
    return .rounds least most (← greed) node :: nodes

/-- Skips a comment in parentheses that begins at `start`. -/
def skipComment (start : Nat) : Nat → Parse Unit
  | 0 => throw ⟨.unterminatedComment, some start⟩
  | fuel + 1 => do
    match ← take with
    | [] => throw ⟨.unterminatedComment, some start⟩
    | [')'] => return
    | _ => skipComment start fuel

/-- Skips a comment up to the end of the line. -/
def skipLine : Nat → Parse Unit
  | 0 => return
  | fuel + 1 => do
    match ← take with
    | [] => return
    | ['\n'] => return
    | _ => skipLine fuel

/-- The blanks that a verbose pattern ignores. -/
def isPatternBlank (c : Char) : Bool :=
  c = ' ' || c = '\t' || c = '\n' || c = '\r' || c = '\x0b' || c = '\x0c'

/-- A reference to a group by name, after `(?P=`. -/
def namedReference : Parse Node := do
  let name ← takeName ')' "group name" ((← get).rest.length + 1) []
  let back := name.length + 1
  if !isIdentifier name then refuse (.badGroupName name) back
  match ((← get).names.find? (·.1 == name)).map (·.2) with
  | none => refuse (.unknownGroup name) back
  | some index =>
    if !(← isClosed index) then refuse .openGroup back
    checkLookbehind index
    return .backref index

/-- The group a condition refers to, after `(?(`. -/
def conditionGroup : Parse Nat := do
  let name ← takeName ')' "group name" ((← get).rest.length + 1) []
  let back := name.length + 1
  let index ←
    if isIdentifier name then
      match ((← get).names.find? (·.1 == name)).map (·.2) with
      | none => refuse (.unknownGroup name) back
      | some index => pure index
    else
      match Text.integer? name with
      | none => refuse (.badGroupName name) back
      | some n =>
        if n < 0 then refuse (.badGroupName name) back
        else if n = 0 then refuse .badGroupNumber back
        else if 1073741823 ≤ n then refuse (.invalidGroup n) back
        else
          let place := (← position) - back
          modify fun d =>
            if d.conditions.any (·.1 == n.toNat) then d
            else { d with conditions := d.conditions ++ [(n.toNat, place)] }
          pure n.toNat
  checkLookbehind index
  return index

/-- Opens a group and gives its number. -/
def openGroup (name : Option String) : Parse Nat := do
  let index ← groupCount
  if let some name := name then
    if let some earlier := ((← get).names.find? (·.1 == name)).map (·.2) then
      refuse (.repeatedGroup name index earlier) (name.length + 1)
    modify fun d => { d with names := d.names ++ [(name, index)] }
  modify fun d => { d with widths := d.widths ++ [none] }
  return index

/-- Width of a group by number, zero for one that is not closed. -/
def widthIn (widths : List (Option Width)) (index : Nat) : Width :=
  (widths[index]?.getD none).getD ⟨0, 0⟩

/-- Closes a group around its content. -/
def closeGroup (index : Nat) (body : Node) : Parse Unit := do
  modify fun d =>
    { d with widths := d.widths.set index (some (body.width (widthIn d.widths))) }

/-- What stands after `(`. -/
inductive Opening where
  | capture (name : Option String)
  | bare
  | atomic
  | scope (on off : Flags)
  | look (ahead negated : Bool)
  | condition
  | reference
  | comment
  | wholeFlags

/-- Reads the opening of a group, after `(`. -/
def opening (start : Nat) : Parse (Opening × Node) := do
  if !(← accept '?') then return (.capture none, .empty)
  match ← take with
  | [] => refuse .unexpectedEnd 0
  | ['P'] =>
    if ← accept '<' then
      let name ← takeName '>' "group name" ((← get).rest.length + 1) []
      if !isIdentifier name then refuse (.badGroupName name) (name.length + 1)
      return (.capture (some name), .empty)
    else if ← accept '=' then
      return (.reference, ← namedReference)
    else
      match ← take with
      | [] => refuse .unexpectedEnd 0
      | token =>
        refuse (.unknownExtension (String.ofList ('P' :: token))) (token.length + 2)
  | [':'] => return (.bare, .empty)
  | ['#'] =>
    skipComment start ((← get).rest.length + 1)
    return (.comment, .empty)
  | ['='] => return (.look true false, .empty)
  | ['!'] => return (.look true true, .empty)
  | ['<'] =>
    match ← take with
    | [] => refuse .unexpectedEnd 0
    | ['='] => return (.look false false, .empty)
    | ['!'] => return (.look false true, .empty)
    | token =>
      refuse (.unknownExtension (String.ofList ('<' :: token))) (token.length + 2)
  | ['('] => return (.condition, .empty)
  | ['>'] => return (.atomic, .empty)
  | [c] =>
    if c = '-' ∨ (flag? c).isSome then
      match ← groupFlags c with
      | none => return (.wholeFlags, .empty)
      | some (on, off) => return (.scope on off, .empty)
    else refuse (.unknownExtension (String.ofList [c])) 2
  | token => refuse (.unknownExtension (String.ofList token)) (token.length + 1)

mutual

/-- Alternatives up to a closing parenthesis or the end. -/
def alternatives (top : Bool) : Nat → Bool → Bool → Parse (List Node)
  | 0, _, _ => refuse .unexpectedEnd 0
  | fuel + 1, verbose, first => do
    let branch ← sequence (top && first) fuel verbose []
    if !(← accept '|') then return [branch]
    let verbose ← if top then pure (← get).flags.verbose else pure verbose
    return branch :: (← alternatives top fuel verbose false)

/-- Nodes one after another up to a bar, a closing parenthesis or the end, the
ones read so far newest first.  `leading` tells the place where flags for the
whole pattern may stand. -/
def sequence (leading : Bool) : Nat → Bool → List Node → Parse Node
  | 0, _, _ => refuse .unexpectedEnd 0
  | fuel + 1, verbose, nodes => do
    let token ← peek
    if token = [] ∨ token = ['|'] ∨ token = [')'] then
      return Node.ofList nodes.reverse
    discard take
    match token with
    | ['\x5c', c] =>
      let node ← escape c
      sequence leading fuel verbose (node :: nodes)
    | [c] =>
      if verbose && isPatternBlank c then sequence leading fuel verbose nodes
      else if verbose && c = '#' then
        skipLine ((← get).rest.length + 1)
        sequence leading fuel verbose nodes
      else
        let start ← position
        match c with
        | '[' => sequence leading fuel verbose ((← characterSet) :: nodes)
        | '?' => sequence leading fuel verbose (← repeatLast start 0 (some 1) nodes)
        | '*' => sequence leading fuel verbose (← repeatLast start 0 none nodes)
        | '+' => sequence leading fuel verbose (← repeatLast start 1 none nodes)
        | '\x7b' =>
          match ← counts? with
          | none => sequence leading fuel verbose (.char c.toNat :: nodes)
          | some (least, most) =>
            sequence leading fuel verbose (← repeatLast start least most nodes)
        | '.' => sequence leading fuel verbose (.any :: nodes)
        | '^' => sequence leading fuel verbose (.anchor .lineStart :: nodes)
        | '$' => sequence leading fuel verbose (.anchor .lineEnd :: nodes)
        | '(' =>
          let (kind, node) ← opening (start - 1)
          match kind with
          | .comment => sequence leading fuel verbose nodes
          | .reference => sequence leading fuel verbose (node :: nodes)
          | .wholeFlags =>
            if !leading || nodes ≠ [] then throw ⟨.misplacedFlags, some (start - 1)⟩
            sequence leading fuel (← get).flags.verbose nodes
          | kind =>
            let node ← groupBody (start - 1) fuel verbose kind
            sequence leading fuel verbose (node :: nodes)
        | _ => sequence leading fuel verbose (.char c.toNat :: nodes)
    | _ => sequence leading fuel verbose nodes

/-- The content of a group and its closing parenthesis.  `start` is the
position of the opening one. -/
def groupBody (start : Nat) : Nat → Bool → Opening → Parse Node
  | 0, _, _ => refuse .unexpectedEnd 0
  | fuel + 1, verbose, kind => do
    let unterminated : Parse Unit := throw ⟨.unterminatedGroup, some start⟩
    match kind with
    | .look ahead negated =>
      let outer := (← get).lookbehind
      if !ahead && outer.isNone then
        modify fun d => { d with lookbehind := some d.widths.length }
      let body := Node.alternatives (← alternatives false fuel verbose false)
      if !ahead && outer.isNone then modify fun d => { d with lookbehind := none }
      if !(← accept ')') then unterminated
      return .look ahead negated body
    | .condition =>
      let index ← conditionGroup
      let yes ← sequence false fuel verbose []
      let hasNo ← accept '|'
      let no ← if hasNo then sequence false fuel verbose [] else pure .empty
      if hasNo && (← peek) = ['|'] then refuse .tooManyBranches 0
      if !(← accept ')') then unterminated
      return .conditional index yes no hasNo
    | kind =>
      let index ← match kind with
        | .capture name => do pure (some (← openGroup name))
        | _ => pure none
      let verbose := match kind with
        | .scope on off => (verbose || on.verbose) && !off.verbose
        | _ => verbose
      let body := Node.alternatives (← alternatives false fuel verbose false)
      if !(← accept ')') then unterminated
      match kind, index with
      | _, some index =>
        closeGroup index body
        return .group index body
      | .atomic, _ => return .atomic body
      | .scope on off, _ =>
        if on.isEmpty && off.isEmpty then return .seq body .empty
        else return .scope on off body
      | _, _ => return .seq body .empty

end

/-- Widest look-behind that is compiled. -/
def lookbehindLimit : Nat := 4294967295

/-- Name of a repetition in the fault of the template dialect. -/
def Greed.operatorName : Greed → String
  | .greedy => "MAX_REPEAT"
  | .lazy => "MIN_REPEAT"
  | .possessive => "POSSESSIVE_REPEAT"

/-- Judges the finished tree: what a look-behind covers has one width, and the
template dialect has no repetitions. -/
def Node.check (groups : Nat → Width) (template : Bool) : Node → Except Fault Unit
  | .seq a b => do
    a.check groups template
    b.check groups template
  | .alt a b => do
    a.check groups template
    b.check groups template
  | .group _ body => body.check groups template
  | .scope _ _ body => body.check groups template
  | .atomic body => body.check groups template
  | .look ahead _ body => do
    if !ahead then
      let w := body.width groups
      if lookbehindLimit < w.least then throw ⟨.lookbehindFar, none⟩
      if w.least ≠ w.most then throw ⟨.lookbehindWidth, none⟩
    body.check groups template
  | .rounds _ _ greed body => do
    if template then throw ⟨.templateOperator greed.operatorName, none⟩
    body.check groups template
  | .conditional _ yes no _ => do
    yes.check groups template
    no.check groups template
  | _ => return

/-- A compiled pattern. -/
structure Compiled where
  flags : Flags
  root : Node
  /-- width of each group by number -/
  widths : List (Option Width)
deriving DecidableEq, Repr

/-- Compiles a pattern text under flags that hold from the start. -/
def compile (flags : Flags) (text : String) : Except Fault Compiled := do
  let cs := text.toList
  let draft : Draft :=
    { position := 0, rest := [], flags := flags, names := [], widths := [none],
      lookbehind := none, conditions := [] }
  let steps : Parse Node := do
    moveTo 0 cs
    let branches ← alternatives true (3 * cs.length + 6) flags.verbose true
    let d ← get
    if d.flags.basic && d.flags.full then throw ⟨.repertoiresClash, none⟩
    if (← peek) ≠ [] then refuse .unbalancedParenthesis 0
    for (index, place) in d.conditions do
      if d.widths.length ≤ index then throw ⟨.invalidGroup index, some place⟩
    return Node.alternatives branches
  let (root, d) ← steps.run draft
  root.check (widthIn d.widths) d.flags.template
  return { flags := d.flags, root := root, widths := d.widths }

end PromptDispatch.Pattern
